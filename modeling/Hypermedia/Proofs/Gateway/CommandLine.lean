import Mathlib.Data.List.Nodup
import Hypermedia.Gateway.CommandLine
import Hypermedia.Proofs.Text.Pieces

/-!
# What a command line sets

Settings come with a value of their own type, so that reading and storing a value are two steps, and what
a whole command line gives can be said setting by setting.

* `Setting.Value`, `Setting.read`, `Given.get?` and `Given.put` are the values of settings, and how they
  are read and stored.
* `Occurrence` is a setting with a value as it stands among the arguments, in one argument or in two.
* `readArguments_flatMap` says that arguments give each setting its value in turn,
  `Given.setAll_eq_ok_iff` what is given after that.
* `configuration?_arguments` and `configuration?_file` are the two ways to a configuration.
-/

namespace Hypermedia.CommandLine

/-! ## Values of settings -/

/-- The type of the values of a setting. -/
def Setting.Value : Setting → Type
  | .listen => SocketAddress
  | .maxConnections => Nat
  | .maxPushes => Nat
  | .policy => ReplacementPolicy
  | _ => String

/-- The value that a text writes. -/
def Setting.read : (setting : Setting) → String → Except UsageError setting.Value
  | .config, text => path text
  | .backend, text => .ok text
  | .listen, text => valid (SocketAddress.parse? text)
  | .maxConnections, text => valid (count? text)
  | .maxPushes, text => valid (count? text)
  | .apiUrl, text => .ok text
  | .openapi, text => path text
  | .policy, text => valid (ReplacementPolicy.parse? text)

namespace Given

/-- The value that was given to a setting. -/
def get? (given : Given) : (setting : Setting) → Option setting.Value
  | .config => given.config
  | .backend => given.draft.backendUrl
  | .listen => given.draft.listen
  | .maxConnections => given.draft.maxConnections
  | .maxPushes => given.draft.maxPushes
  | .apiUrl => given.draft.apiUrl
  | .openapi => given.draft.description
  | .policy => given.draft.replacementPolicy

/-- Stores a value of a setting. -/
def put (given : Given) : (setting : Setting) → setting.Value → Given
  | .config, text => { given with config := some text }
  | .backend, text => { given with draft := { given.draft with backendUrl := some text } }
  | .listen, address => { given with draft := { given.draft with listen := some address } }
  | .maxConnections, n => { given with draft := { given.draft with maxConnections := some n } }
  | .maxPushes, n => { given with draft := { given.draft with maxPushes := some n } }
  | .apiUrl, text => { given with draft := { given.draft with apiUrl := some text } }
  | .openapi, text => { given with draft := { given.draft with description := some text } }
  | .policy, policy => { given with draft := { given.draft with replacementPolicy := some policy } }

variable {given given' : Given}

theorem has_eq (given : Given) (setting : Setting) :
    given.has setting = (given.get? setting).isSome := by
  cases setting <;> rfl

/-- A setting is given a value by reading and storing it. -/
theorem set_eq (given : Given) (setting : Setting) (text : String) :
    given.set setting text = (setting.read text).map (given.put setting) := by
  cases setting <;> rfl

@[simp] theorem get?_put_self (given : Given) (setting : Setting) (value : setting.Value) :
    (given.put setting value).get? setting = some value := by
  cases setting <;> rfl

/-- Storing a value of one setting leaves all others. -/
theorem get?_put_of_ne {setting other : Setting} (hne : other ≠ setting) (value : setting.Value) :
    (given.put setting value).get? other = given.get? other := by
  cases setting <;> cases other
  all_goals try exact absurd rfl hne
  all_goals rfl

/-- What was given is known by the values of all settings. -/
theorem ext_get? (h : ∀ setting, given.get? setting = given'.get? setting) : given = given' := by
  obtain ⟨config, draft⟩ := given
  obtain ⟨config', draft'⟩ := given'
  obtain rfl : config = config' := h .config
  obtain rfl : draft = draft' := by
    cases draft
    cases draft'
    congr
    · exact h .backend
    · exact h .listen
    · exact h .maxConnections
    · exact h .maxPushes
    · exact h .apiUrl
    · exact h .openapi
    · exact h .policy
  rfl

/-- A setting that has no value yet is given one if the text can be read. -/
theorem setOnce_eq_ok_iff {setting : Setting} {text : String} :
    given.setOnce setting text = .ok given' ↔
      given.get? setting = none ∧
        ∃ value, setting.read text = .ok value ∧ given' = given.put setting value := by
  unfold setOnce
  rw [has_eq, set_eq]
  cases hget : given.get? setting with
  | some value => simp
  | none =>
      cases hread : setting.read text with
      | error e => simp [Except.map]
      | ok value => simp [Except.map, eq_comm]

end Given

/-! ## Settings one after another -/

/-- Whether a setting was given the value that a text writes, and had none before; without a text it is
as before. -/
def Given.IsSetTo (given given' : Given) (setting : Setting) : Option String → Prop
  | none => given'.get? setting = given.get? setting
  | some text => given.get? setting = none ∧
      ∃ value, setting.read text = .ok value ∧ given'.get? setting = some value

/-- Storing a value of one setting changes nothing about the others. -/
theorem Given.isSetTo_put_of_ne {given given' : Given} {setting other : Setting}
    (hne : other ≠ setting) {value : setting.Value} {text : Option String} :
    (given.put setting value).IsSetTo given' other text ↔ given.IsSetTo given' other text := by
  cases text <;> simp [IsSetTo, get?_put_of_ne hne]

/-- Whether settings were given the values that texts write, and all others are as before. -/
def Given.IsSetBy (items : List (Setting × String)) (given given' : Given) : Prop :=
  ∀ setting, given.IsSetTo given' setting (items.lookup setting)

/-- Gives settings the values that texts write, one after another. -/
def Given.setAll (given : Given) (items : List (Setting × String)) : Except UsageError Given :=
  items.foldlM (fun given item => given.setOnce item.1 item.2) given

theorem lookup_eq_none {items : List (Setting × String)} {setting : Setting}
    (h : setting ∉ items.map Prod.fst) : items.lookup setting = none := by
  rw [List.lookup_eq_none_iff]
  intro item hitem
  refine bne_iff_ne.mpr ?_
  rintro rfl
  exact h (List.mem_map.mpr ⟨item, hitem, rfl⟩)

/-- Giving a value to one setting more. -/
theorem Given.isSetBy_cons_iff {setting : Setting} {text : String} {items : List (Setting × String)}
    (hnew : items.lookup setting = none) {given given' : Given} :
    given.IsSetBy ((setting, text) :: items) given' ↔
      ∃ next, given.setOnce setting text = .ok next ∧ next.IsSetBy items given' := by
  have hself : ((setting, text) :: items).lookup setting = some text := List.lookup_cons_self
  have hother : ∀ other, other ≠ setting →
      ((setting, text) :: items).lookup other = items.lookup other := by
    intro other hne
    rw [List.lookup_cons, beq_false_of_ne hne]
  constructor
  · intro h
    have hset := h setting
    rw [hself] at hset
    obtain ⟨hnone, value, hread, hvalue⟩ := hset
    refine ⟨given.put setting value, setOnce_eq_ok_iff.mpr ⟨hnone, value, hread, rfl⟩, ?_⟩
    intro other
    by_cases hne : other = setting
    · subst hne
      rw [hnew]
      exact hvalue.trans (get?_put_self _ _ _).symm
    · have hrest := h other
      rw [hother other hne] at hrest
      exact (isSetTo_put_of_ne hne).mpr hrest
  · rintro ⟨next, hnext, h⟩ other
    obtain ⟨hnone, value, hread, rfl⟩ := setOnce_eq_ok_iff.mp hnext
    have hrest := h other
    by_cases hne : other = setting
    · subst hne
      rw [hnew] at hrest
      rw [hself]
      exact ⟨hnone, value, hread, hrest.trans (get?_put_self _ _ _)⟩
    · rw [hother other hne]
      exact (isSetTo_put_of_ne hne).mp hrest

/-- What is given after one setting after another got its value. -/
theorem Given.setAll_eq_ok_iff {items : List (Setting × String)}
    (hnodup : (items.map Prod.fst).Nodup) {given given' : Given} :
    given.setAll items = .ok given' ↔ given.IsSetBy items given' := by
  induction items generalizing given with
  | nil =>
      constructor
      · intro h
        obtain rfl := Except.ok.inj h
        intro setting
        rfl
      · intro h
        exact congrArg Except.ok (ext_get? fun setting => (h setting).symm)
  | cons item items ih =>
      obtain ⟨setting, text⟩ := item
      rw [List.map_cons, List.nodup_cons] at hnodup
      rw [isSetBy_cons_iff (lookup_eq_none hnodup.1), setAll, List.foldlM_cons]
      cases hset : given.setOnce setting text with
      | error e =>
          constructor
          · intro h
            cases h
          · rintro ⟨next, h, -⟩
            cases h
      | ok next =>
          refine (@ih hnodup.2 next).trans ?_
          constructor
          · intro h
            exact ⟨next, rfl, h⟩
          · rintro ⟨next', hnext, h⟩
            obtain rfl := Except.ok.inj hnext
            exact h

theorem Given.config_eq_none {items : List (Setting × String)} (hnodup : (items.map Prod.fst).Nodup)
    (hconfig : items.lookup .config = none) {given : Given} (h : setAll {} items = .ok given) :
    given.config = none := by
  have hget := (setAll_eq_ok_iff hnodup).mp h .config
  rw [hconfig] at hget
  exact hget

/-! ## Arguments -/

/-- A setting with its value as it stands among the arguments. -/
structure Occurrence where
  /-- The setting. -/
  setting : Setting
  /-- What is written as its value. -/
  text : String
  /-- Whether the value stands in the same argument, behind an equals sign. -/
  joined : Bool
  deriving DecidableEq, Repr

namespace Occurrence

/-- The arguments of a setting with its value. -/
def arguments (occurrence : Occurrence) : List String :=
  if occurrence.joined then ["--" ++ occurrence.setting.argument ++ "=" ++ occurrence.text]
  else ["--" ++ occurrence.setting.argument, occurrence.text]

/-- Whether a value is taken as one: in an argument of its own it must not start with a hyphen, unless
it is one. -/
def IsClear (occurrence : Occurrence) : Prop :=
  occurrence.joined = true ∨ occurrence.text = "-" ∨ occurrence.text.toList.head? ≠ some '-'

instance : DecidablePred IsClear := fun occurrence =>
  inferInstanceAs (Decidable (occurrence.joined = true ∨ occurrence.text = "-" ∨
    occurrence.text.toList.head? ≠ some '-'))

/-- A value in an argument of its own does not look like a setting. -/
theorem IsClear.ne_cons {setting : Setting} {text : String} (hclear : IsClear ⟨setting, text, false⟩)
    (c : Char) (rest : List Char) : text.toList ≠ '-' :: c :: rest := by
  intro heq
  obtain rfl | hhead := hclear.resolve_left Bool.false_ne_true
  · cases (List.cons.inj heq).2
  · exact hhead (congrArg List.head? heq)

/-- The setting and its value. -/
def item (occurrence : Occurrence) : Setting × String :=
  (occurrence.setting, occurrence.text)

theorem map_fst_item (occurrences : List Occurrence) :
    (occurrences.map item).map Prod.fst = occurrences.map setting := by
  rw [List.map_map]
  rfl

end Occurrence

/-- A setting is known by its name. -/
theorem Setting.named?_argument (setting : Setting) : named? setting.argument = some setting := by
  cases setting <;> decide +kernel

theorem Setting.not_mem_argument (setting : Setting) : '=' ∉ setting.argument.toList := by
  cases setting <;> decide +kernel

theorem Setting.argument_ne_nil (setting : Setting) : setting.argument.toList ≠ [] := by
  cases setting <;> decide +kernel

namespace Progress

/-- What is given once a value that was read is used. -/
def settled (progress : Progress) : Except UsageError Given :=
  progress.settle.map Progress.given

variable {given : Given} {pending : Option Pending}

/-- A value that was read is used up. -/
theorem settle_eq :
    settle ⟨given, pending, false⟩ =
      (settled ⟨given, pending, false⟩).map fun given => ⟨given, none, false⟩ := by
  unfold settled settle
  dsimp only
  split
  · rfl
  · rfl
  · next setting text =>
    cases given.setOnce setting text <;> rfl

theorem settled_some (given : Given) (setting : Setting) (text : String) :
    settled ⟨given, some ⟨setting, some text⟩, false⟩ = given.setOnce setting text := by
  unfold settled settle
  dsimp only
  cases given.setOnce setting text <;> rfl

/-- An argument that starts with two hyphens. -/
theorem next_long {text : String} {name : List Char} {value : Option (List Char)}
    (htext : text.toList = '-' :: '-' :: (name ++ value.elim [] ('=' :: ·))) (hname : name ≠ [])
    (hmark : '=' ∉ name) :
    next ⟨given, pending, false⟩ text = long ⟨given, pending, false⟩ name value := by
  have hcut : Text.cutAt '=' (name ++ value.elim [] ('=' :: ·)) = (name, value) := by
    cases value with
    | none => rw [Option.elim_none, List.append_nil, Text.cutAt_of_not_mem hmark]
    | some text =>
        rw [Option.elim_some, Text.cutAt_append_of_not_mem hmark, Text.cutAt, if_pos rfl,
          List.append_nil]
  unfold next
  rw [if_neg Bool.false_ne_true, htext]
  split
  · next heq =>
    have hnil := (List.cons.inj (List.cons.inj heq).2).2
    rw [List.append_eq_nil_iff] at hnil
    exact absurd hnil.1 hname
  · next heq =>
    rw [← (List.cons.inj (List.cons.inj heq).2).2, hcut]
  · next hne heq => exact absurd (List.cons.inj (List.cons.inj heq).2).1.symm hne
  · next hne => exact absurd rfl (hne _ _)

/-- A setting with its value behind an equals sign. -/
theorem next_joined (setting : Setting) (text : String) :
    next ⟨given, pending, false⟩ ("--" ++ setting.argument ++ "=" ++ text) =
      (settled ⟨given, pending, false⟩).bind fun given =>
        (given.setOnce setting text).map fun given => ⟨given, none, false⟩ := by
  have htext : ("--" ++ setting.argument ++ "=" ++ text).toList =
      '-' :: '-' :: (setting.argument.toList ++ (some text.toList).elim [] ('=' :: ·)) := by
    simp
  rw [next_long htext setting.argument_ne_nil setting.not_mem_argument, long]
  dsimp only
  rw [String.ofList_toList, String.ofList_toList, setting.named?_argument, settle_eq]
  cases settled ⟨given, pending, false⟩ with
  | error e => rfl
  | ok given => rfl

/-- A setting whose value is an argument of its own. -/
theorem next_name (setting : Setting) :
    next ⟨given, pending, false⟩ ("--" ++ setting.argument) =
      (settled ⟨given, pending, false⟩).map fun given => ⟨given, some ⟨setting, none⟩, false⟩ := by
  have htext : ("--" ++ setting.argument).toList =
      '-' :: '-' :: (setting.argument.toList ++ (none : Option (List Char)).elim [] ('=' :: ·)) := by
    simp
  rw [next_long htext setting.argument_ne_nil setting.not_mem_argument, long]
  dsimp only
  rw [String.ofList_toList, setting.named?_argument, settle_eq]
  cases settled ⟨given, pending, false⟩ <;> rfl

/-- The value of the setting before it. -/
theorem next_value {text : String} (hclear : ∀ c rest, text.toList ≠ '-' :: c :: rest)
    (setting : Setting) :
    next ⟨given, some ⟨setting, none⟩, false⟩ text =
      .ok ⟨given, some ⟨setting, some text⟩, false⟩ := by
  unfold next
  rw [if_neg Bool.false_ne_true]
  split
  · next heq => exact absurd heq (hclear _ _)
  · next heq => exact absurd heq (hclear _ _)
  · next heq => exact absurd heq (hclear _ _)
  · simp [plain]

/-- The arguments of a setting with its value. -/
theorem foldlM_arguments {occurrence : Occurrence} (hclear : occurrence.IsClear) :
    occurrence.arguments.foldlM next ⟨given, pending, false⟩ =
      (settled ⟨given, pending, false⟩).bind fun given =>
        if occurrence.joined then
          (given.setOnce occurrence.setting occurrence.text).map fun given => ⟨given, none, false⟩
        else .ok ⟨given, some ⟨occurrence.setting, some occurrence.text⟩, false⟩ := by
  obtain ⟨setting, text, joined⟩ := occurrence
  cases joined with
  | true =>
      simp only [Occurrence.arguments, if_true, List.foldlM_cons, List.foldlM_nil, next_joined,
        bind_pure]
  | false =>
      simp only [Occurrence.arguments, Bool.false_eq_true, if_false, List.foldlM_cons,
        List.foldlM_nil, next_name, bind_pure]
      cases settled ⟨given, pending, false⟩ with
      | error e => rfl
      | ok given => exact next_value hclear.ne_cons setting

/-- Arguments give each setting its value in turn; the value that was read last is used at the end. -/
theorem foldlM_flatMap {occurrences : List Occurrence}
    (hclear : ∀ occurrence ∈ occurrences, occurrence.IsClear) :
    (occurrences.flatMap Occurrence.arguments).foldlM next ⟨given, pending, false⟩ >>= settled =
      settled ⟨given, pending, false⟩ >>= (·.setAll (occurrences.map Occurrence.item)) := by
  induction occurrences generalizing given pending with
  | nil => simp [Given.setAll]
  | cons occurrence occurrences ih =>
      obtain ⟨hfirst, hrest⟩ := List.forall_mem_cons.mp hclear
      rw [List.flatMap_cons, List.foldlM_append, foldlM_arguments hfirst]
      cases settled ⟨given, pending, false⟩ with
      | error e => rfl
      | ok given =>
          obtain ⟨setting, text, joined⟩ := occurrence
          cases joined with
          | true =>
              show ((given.setOnce setting text).map fun given => (⟨given, none, false⟩ : Progress)) >>=
                  (fun progress => List.foldlM next progress _) >>= settled =
                given.setOnce setting text >>= (·.setAll (occurrences.map Occurrence.item))
              cases given.setOnce setting text with
              | error e => rfl
              | ok given => exact ih hrest
          | false =>
              show List.foldlM next ⟨given, some ⟨setting, some text⟩, false⟩ _ >>= settled =
                given.setOnce setting text >>= (·.setAll (occurrences.map Occurrence.item))
              rw [ih hrest, settled_some]

end Progress

/-- Arguments give each setting its value in turn. -/
theorem readArguments_flatMap {occurrences : List Occurrence}
    (hclear : ∀ occurrence ∈ occurrences, occurrence.IsClear) :
    readArguments (occurrences.flatMap Occurrence.arguments) =
      Given.setAll {} (occurrences.map Occurrence.item) := by
  have hread : List.foldlM Progress.next {} (occurrences.flatMap Occurrence.arguments) >>=
      Progress.settled = Given.setAll {} (occurrences.map Occurrence.item) :=
    Progress.foldlM_flatMap hclear
  rw [← hread, readArguments]
  cases List.foldlM Progress.next {} (occurrences.flatMap Occurrence.arguments) with
  | error e => rfl
  | ok progress =>
      show progress.settle >>= (fun progress => pure progress.given) = progress.settled
      unfold Progress.settled
      cases progress.settle <;> rfl

/-! ## Configurations -/

/-- The configuration that comes from variables, arguments and files. -/
def configuration? (environment files : String → Option String) (arguments : List String) :
    Option Configuration :=
  (read environment arguments).toOption.bind fun source => (source.load files).toOption

variable {environment : String → Option String} (files : String → Option String)

/-- Without variables nothing is added to what arguments give. -/
theorem addVariables_eq (henvironment : ∀ setting : Setting, environment setting.variableName = none)
    (given : Given) : addVariables environment given = .ok given := by
  have hadd : ∀ setting, addVariable environment given setting = .ok given := by
    intro setting
    rw [addVariable, henvironment]
  have hall : ∀ settings : List Setting,
      settings.foldlM (addVariable environment) given = .ok given := by
    intro settings
    induction settings with
    | nil => rfl
    | cons setting settings ih =>
        rw [List.foldlM_cons, hadd]
        exact ih
  exact hall _

/-- What is read of a command line without variables. -/
theorem read_arguments (henvironment : ∀ setting : Setting, environment setting.variableName = none)
    {occurrences : List Occurrence} (hclear : ∀ occurrence ∈ occurrences, occurrence.IsClear) :
    read environment (occurrences.flatMap Occurrence.arguments) =
      (Given.setAll {} (occurrences.map Occurrence.item)).bind Given.source := by
  rw [read, readArguments_flatMap hclear]
  cases Given.setAll {} (occurrences.map Occurrence.item) with
  | error e => rfl
  | ok given =>
      show addVariables environment given >>= Given.source = given.source
      rw [addVariables_eq henvironment]
      rfl

/-- A command line without a configuration file gives the configuration that its settings write. -/
theorem configuration?_arguments
    (henvironment : ∀ setting : Setting, environment setting.variableName = none)
    {occurrences : List Occurrence} (hclear : ∀ occurrence ∈ occurrences, occurrence.IsClear)
    (hnodup : (occurrences.map Occurrence.setting).Nodup)
    (hconfig : .config ∉ occurrences.map Occurrence.setting) :
    configuration? environment files (occurrences.flatMap Occurrence.arguments) =
      (Given.setAll {} (occurrences.map Occurrence.item)).toOption.bind (·.draft.complete?) := by
  rw [configuration?, read_arguments henvironment hclear]
  cases hset : Given.setAll {} (occurrences.map Occurrence.item) with
  | error e => rfl
  | ok given =>
      have hnone : given.config = none := by
        rw [← Occurrence.map_fst_item] at hnodup hconfig
        exact Given.config_eq_none hnodup (lookup_eq_none hconfig) hset
      show given.source.toOption.bind (fun source => (source.load files).toOption) =
        given.draft.complete?
      rw [Given.source, hnone]
      cases given.draft.complete? <;> rfl

/-- A command line with a configuration file gives the configuration of this file. -/
theorem configuration?_file
    (henvironment : ∀ setting : Setting, environment setting.variableName = none)
    {file text : String} (hne : file ≠ "") (hfile : files file = some text) {joined : Bool}
    (hclear : Occurrence.IsClear ⟨.config, file, joined⟩) :
    configuration? environment files (Occurrence.arguments ⟨.config, file, joined⟩) =
      Configuration.ofToml? (Configuration.directoryOf file) text := by
  have hread := read_arguments henvironment (List.forall_mem_singleton.mpr hclear)
  rw [List.flatMap_singleton] at hread
  have hset : Given.setAll {} [(.config, file)] = .ok ⟨some file, {}⟩ := by
    have hpath : path file = .ok file := by simp [path, hne]
    simp [Given.setAll, Given.setOnce, Given.has, Given.set, hpath]
  have hsource : Given.source ⟨some file, {}⟩ = .ok (.file file) := rfl
  rw [configuration?, hread]
  show ((Given.setAll {} [(.config, file)]).bind Given.source).toOption.bind _ = _
  rw [hset]
  show (Given.source ⟨some file, {}⟩).toOption.bind _ = _
  rw [hsource]
  show (Source.load files (.file file)).toOption = _
  rw [Source.load, hfile]
  dsimp only
  cases Configuration.ofToml? (Configuration.directoryOf file) text <;> rfl

end Hypermedia.CommandLine
