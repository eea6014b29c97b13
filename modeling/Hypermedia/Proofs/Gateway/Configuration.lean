import Hypermedia.Proofs.Gateway.Assignment
import Hypermedia.Proofs.Toml.Range

/-!
# The same configuration from a command line and from a file

* `document` is the file with a line for each setting that is assigned, in any order.
* `configuration?_agrees` says that a command line and a file that hold the same assignment lead to the
  same configuration, and that a file is refused if it would need an integer of more than 64 bits.
* `not_forall_configuration?_agrees` are assignments that a command line takes and a file refuses.
-/

namespace Hypermedia.Configuration

open CommandLine (Setting Given Occurrence count? configuration? configuration?_arguments
  configuration?_file)
open Toml (Scalar Table)

/-! ## Files -/

/-- A file whose table names no description gives the configuration that its table stands for. -/
theorem ofToml?_eq {directory text : String} {table : Table}
    (hparse : Toml.parse? text.toList = some table) (hopenapi : table.get? "openapi" = none) :
    ofToml? directory text = (Draft.ofTable? table).bind Draft.complete? := by
  rw [ofToml?, hparse, Option.bind_eq_bind, Option.bind_some]
  cases htable : Draft.ofTable? table with
  | none => rfl
  | some draft =>
      have hdescription : draft.description = none := by
        have hread := ofTable?_eq_some_iff.mp htable .openapi Setting.noConfusion
        rw [keyOf?, show table.get? (key .openapi) = none from hopenapi] at hread
        exact (Option.some.inj hread).symm
      obtain ⟨backendUrl, listen, maxConnections, maxPushes, apiUrl, description, policy⟩ := draft
      obtain rfl : description = none := hdescription
      cases backendUrl <;> rfl

/-- The file with a line for each setting that is assigned. -/
def document (entries : List (Setting × Scalar)) : String :=
  .ofList (Toml.document (entries.map fun entry => (key entry.1, entry.2)))

theorem key_injective : Function.Injective key := by
  intro setting other h
  cases setting <;> cases other <;> simp_all [key]

theorem isBareKey_key (setting : Setting) : Toml.IsBareKey (key setting) := by
  cases setting <;> decide +kernel

theorem lookup_map_key (entries : List (Setting × Scalar)) (setting : Setting) :
    (entries.map fun entry => (key entry.1, entry.2.value)).lookup (key setting) =
      (entries.lookup setting).map Scalar.value := by
  induction entries with
  | nil => rfl
  | cons entry entries ih =>
      obtain ⟨other, scalar⟩ := entry
      by_cases heq : setting = other
      · subst heq
        rw [List.map_cons, List.lookup_cons_self, List.lookup_cons_self]
        rfl
      · have hkey : (key setting == key other) = false := beq_false_of_ne (key_injective.ne heq)
        rw [List.map_cons, List.lookup_cons, hkey, List.lookup_cons, beq_false_of_ne heq]
        exact ih

namespace Assignment

/-- A list that holds an assignment, in any order. -/
structure IsListedBy (assignment : Assignment) (entries : List (Setting × Scalar)) : Prop where
  /-- No setting is listed twice. -/
  nodup : (entries.map Prod.fst).Nodup
  /-- What is listed for a setting is what is assigned to it. -/
  lookup_eq : ∀ setting, entries.lookup setting = assignment.scalar? setting

variable {assignment : Assignment} {entries : List (Setting × Scalar)}

theorem mem_numbers_iff {n : Int} :
    n ∈ assignment.numbers ↔ ∃ setting, assignment.scalar? setting = some (.integer n) := by
  rw [numbers, List.mem_append, Option.mem_toList, Option.mem_toList]
  constructor
  · rintro (h | h)
    · exact ⟨.maxConnections, Option.map_eq_some_iff.mpr ⟨n, h, rfl⟩⟩
    · exact ⟨.maxPushes, Option.map_eq_some_iff.mpr ⟨n, h, rfl⟩⟩
  · rintro ⟨setting, h⟩
    cases setting <;> simp_all [scalar?]

/-- The entries of a list that holds an assignment are what is assigned. -/
theorem IsListedBy.mem_iff (hlisted : assignment.IsListedBy entries) {setting : Setting}
    {scalar : Scalar} :
    (setting, scalar) ∈ entries ↔ assignment.scalar? setting = some scalar := by
  rw [← hlisted.lookup_eq, List.lookup_eq_some_iff]
  constructor
  · intro hmem
    obtain ⟨before, after, rfl⟩ := List.append_of_mem hmem
    refine ⟨before, after, rfl, fun entry hentry => bne_iff_ne.mpr ?_⟩
    have hnodup := hlisted.nodup
    rw [List.map_append, List.nodup_append] at hnodup
    intro heq
    exact hnodup.2.2 _ (List.mem_map.mpr ⟨entry, hentry, rfl⟩) _ List.mem_cons_self heq.symm
  · rintro ⟨before, after, rfl, -⟩
    exact List.mem_append_right _ List.mem_cons_self

/-- A file can be written if no number needs more than 64 bits. -/
theorem IsListedBy.fits_iff (hlisted : assignment.IsListedBy entries) :
    (∀ entry ∈ entries, entry.2.Fits) ↔
      ∀ n ∈ assignment.numbers, -(2 : Int) ^ 63 ≤ n ∧ n < (2 : Int) ^ 63 := by
  constructor
  · intro hfits n hn
    obtain ⟨setting, hscalar⟩ := mem_numbers_iff.mp hn
    exact hfits _ (hlisted.mem_iff.mpr hscalar)
  · rintro hnumbers ⟨setting, scalar⟩ hentry
    cases scalar with
    | string text => trivial
    | integer n => exact hnumbers n (mem_numbers_iff.mpr ⟨setting, hlisted.mem_iff.mp hentry⟩)

/-- What is read of the file with a line for each setting. -/
theorem IsListedBy.parse?_document (hlisted : assignment.IsListedBy entries) :
    Toml.parse? (document entries).toList =
      if ∀ entry ∈ entries, entry.2.Fits then
        some (entries.map fun entry => (key entry.1, entry.2.value))
      else none := by
  have hkeys : ∀ entry ∈ entries.map fun entry => (key entry.1, entry.2),
      Toml.IsBareKey entry.1 := by
    intro entry hentry
    obtain ⟨⟨setting, scalar⟩, -, rfl⟩ := List.mem_map.mp hentry
    exact isBareKey_key setting
  have hnodup : ((entries.map fun entry => (key entry.1, entry.2)).map Prod.fst).Nodup := by
    have hmap := hlisted.nodup.map key_injective
    rw [List.map_map] at hmap ⊢
    exact hmap
  rw [document, String.toList_ofList, Toml.parse?_document hkeys hnodup]
  simp only [List.forall_mem_map, List.map_map, Function.comp_def]

/-- The table of this file holds the assignment. -/
theorem IsListedBy.isHeldBy (hlisted : assignment.IsListedBy entries) :
    assignment.IsHeldBy (entries.map fun entry => (key entry.1, entry.2.value)) := by
  intro setting _
  rw [Table.get?, lookup_map_key, hlisted.lookup_eq]

/-- No table that is read of a file holds a greater number than 64 bits allow. -/
theorem IsHeldBy.lt {table : Table} (hheld : assignment.IsHeldBy table) {text : List Char}
    (hparse : Toml.parse? text = some table) {n : Int} (hn : n ∈ assignment.numbers) :
    n < (2 : Int) ^ 63 := by
  obtain ⟨setting, hscalar⟩ := mem_numbers_iff.mp hn
  have hconfig : setting ≠ .config := by
    rintro rfl
    cases hscalar
  have hget := hheld setting hconfig
  rw [hscalar] at hget
  obtain ⟨before, after, rfl, -⟩ := List.lookup_eq_some_iff.mp hget
  exact (Toml.isInRange_of_parse? hparse _ (List.mem_append_right _ List.mem_cons_self)).2

theorem IsGivenBy.not_mem_config {occurrences : List Occurrence}
    (hgiven : assignment.IsGivenBy occurrences) : .config ∉ occurrences.map Occurrence.setting := by
  intro hmem
  obtain ⟨occurrence, hoccurrence, heq⟩ := List.mem_map.mp hmem
  have hlookup := List.lookup_eq_none_iff.mp (hgiven.lookup_eq .config) occurrence.item
    (List.mem_map.mpr ⟨occurrence, hoccurrence, rfl⟩)
  exact bne_iff_ne.mp hlookup heq.symm

/-- A number below zero is refused on a command line. -/
theorem IsGivenBy.nonneg {occurrences : List Occurrence} (hgiven : assignment.IsGivenBy occurrences)
    {given : Given} (hset : Given.setAll {} (occurrences.map Occurrence.item) = .ok given) {n : Int}
    (hn : n ∈ assignment.numbers) : 0 ≤ n := by
  obtain ⟨setting, hscalar⟩ := mem_numbers_iff.mp hn
  have hnodup := hgiven.nodup
  rw [← Occurrence.map_fst_item] at hnodup
  have hset := (Given.setAll_eq_ok_iff hnodup).mp hset setting
  rw [hgiven.lookup_eq, hscalar] at hset
  obtain ⟨-, value, hread, -⟩ := hset
  by_contra hneg
  have hcount : count? (toString n) = none := by
    rw [count?_toString, if_neg fun h => hneg h.1]
  have hrefused : setting.read (toString n) = .error .invalidValue := by
    cases setting <;> simp_all [scalar?, Setting.read, CommandLine.valid]
  rw [argumentText, hrefused] at hread
  cases hread

end Assignment

/-! ## Both ways -/

/-- **The same settings from arguments and from a file.** An assignment is given by arguments, in any
order and each in one argument or in two, while no variables are set; its policy, if it has one, is
written in its own letter case. Then every TOML file that holds the assignment leads to the same
configuration, or both are refused. The file with a line for each setting, in any order, does so too if
no number is `2^63` or more; otherwise it is refused. -/
theorem configuration?_agrees {assignment : Assignment}
    (hcase : ∀ text, assignment.policy = some text → HasCaseOfPolicy text)
    {environment files : String → Option String}
    (henvironment : ∀ setting : Setting, environment setting.variableName = none)
    {arguments fileArguments : List String} {occurrences : List Occurrence}
    (hgiven : assignment.IsGivenBy occurrences)
    (harguments : arguments = occurrences.flatMap Occurrence.arguments)
    {file text : String} (hne : file ≠ "") (hfile : files file = some text) {joined : Bool}
    (hclear : Occurrence.IsClear ⟨.config, file, joined⟩)
    (hfileArguments : fileArguments = Occurrence.arguments ⟨.config, file, joined⟩) :
    (∀ table, Toml.parse? text.toList = some table → assignment.IsHeldBy table →
      configuration? environment files fileArguments =
        configuration? environment files arguments) ∧
    ∀ entries, assignment.IsListedBy entries → text = document entries →
      ((∀ n ∈ assignment.numbers, n < (2 : Int) ^ 63) →
        configuration? environment files fileArguments =
          configuration? environment files arguments) ∧
      ((∃ n ∈ assignment.numbers, (2 : Int) ^ 63 ≤ n) →
        configuration? environment files fileArguments = none) := by
  have hfromArguments :=
    configuration?_arguments files henvironment hgiven.isClear hgiven.nodup hgiven.not_mem_config
  have hfromFile := configuration?_file files henvironment hne hfile hclear
  rw [← harguments] at hfromArguments
  rw [← hfileArguments] at hfromFile
  have hheld : ∀ table, Toml.parse? text.toList = some table → assignment.IsHeldBy table →
      configuration? environment files fileArguments =
        configuration? environment files arguments := by
    intro table hparse hheld
    have hnumbers : ∀ n ∈ assignment.numbers, n < (2 : Int) ^ 63 := fun n => hheld.lt hparse
    have hopenapi : table.get? "openapi" = none := hheld .openapi Setting.noConfusion
    rw [hfromFile, hfromArguments, ofToml?_eq hparse hopenapi,
      setAll_eq_ofTable? hnumbers hcase hgiven hheld]
    cases Draft.ofTable? table <;> rfl
  refine ⟨hheld, fun entries hlisted htext => ?_⟩
  have hparse := hlisted.parse?_document
  rw [← htext] at hparse
  have hrefused : ¬(∀ n ∈ assignment.numbers, -(2 : Int) ^ 63 ≤ n ∧ n < (2 : Int) ^ 63) →
      configuration? environment files fileArguments = none := by
    intro hfits
    rw [hfromFile, ofToml?, hparse, if_neg fun h => hfits (hlisted.fits_iff.mp h)]
    rfl
  constructor
  · intro hnumbers
    by_cases hfits : ∀ n ∈ assignment.numbers, -(2 : Int) ^ 63 ≤ n ∧ n < (2 : Int) ^ 63
    · rw [if_pos (hlisted.fits_iff.mpr hfits)] at hparse
      exact hheld _ hparse hlisted.isHeldBy
    · rw [hrefused hfits, hfromArguments]
      cases hset : Given.setAll {} (occurrences.map Occurrence.item) with
      | error e => rfl
      | ok given =>
          refine absurd (fun n hn => ⟨?_, hnumbers n hn⟩) hfits
          have hnonneg := hgiven.nonneg hset hn
          norm_num
          omega
  · rintro ⟨n, hn, hle⟩
    exact hrefused fun h => absurd (h n hn).2 (not_lt.mpr hle)

/-- Texts with quotes and backslashes, and settings in another order. -/
theorem configuration?_agrees_quoted :
    [["--config", "gateway.toml"],
      ["--upstream", "http://h", "--api-url=\"\\", "--max-pushes=0", "--rewrite-policy", "never"]].map
        (configuration? (fun _ => none) fun _ => some
          "max_pushes = 0\nrewrite_policy = \"never\"\napi_url = \"\\\"\\\\\"\nupstream = \"http://h\"\n") =
      List.replicate 2 (some ⟨"http://h", usualListen, usualMaxConnections, none,
        some 0, false, some "\"\\", .never⟩) := by
  let assignment : Assignment :=
    { backendUrl := "http://h", maxPushes := some 0, apiUrl := "\"\\", policy := "never" }
  have hcase : ∀ text, assignment.policy = some text → HasCaseOfPolicy text := by
    intro text htext policy
    obtain rfl := Option.some.inj htext
    cases policy <;> decide +kernel
  have hgiven : assignment.IsGivenBy [⟨.backend, "http://h", false⟩, ⟨.apiUrl, "\"\\", true⟩,
      ⟨.maxPushes, "0", true⟩, ⟨.policy, "never", false⟩] := by
    refine ⟨by decide, by decide +kernel, ?_⟩
    intro setting
    cases setting <;> decide +kernel
  have hlisted : assignment.IsListedBy [(.maxPushes, .integer 0), (.policy, .string "never"),
      (.apiUrl, .string "\"\\"), (.backend, .string "http://h")] := by
    refine ⟨by decide, ?_⟩
    intro setting
    cases setting <;> decide +kernel
  have hne : "gateway.toml" ≠ "" := by decide
  have hclear : Occurrence.IsClear ⟨.config, "gateway.toml", false⟩ := by decide +kernel
  let text : String :=
    "max_pushes = 0\nrewrite_policy = \"never\"\napi_url = \"\\\"\\\\\"\nupstream = \"http://h\"\n"
  let files : String → Option String := fun _ => some text
  have hfile : files "gateway.toml" = some text := rfl
  have hequal : configuration? (fun _ => none) files ["--config", "gateway.toml"] =
      configuration? (fun _ => none) files
        ["--upstream", "http://h", "--api-url=\"\\", "--max-pushes=0", "--rewrite-policy", "never"] :=
    ((configuration?_agrees hcase (fun _ => rfl) hgiven rfl hne hfile hclear rfl).2 _ hlisted
      (by decide +kernel)).1 (by decide)
  rw [List.map_cons, List.map_cons, List.map_nil, ← hequal]
  decide +kernel

/-- A number that needs more than 63 bits and a policy in capital letters are taken on a command line, and
refused in a file. -/
theorem not_forall_configuration?_agrees :
    (∀ item ∈ [(Setting.maxPushes, Scalar.integer (2 ^ 63)), (.policy, .string "Always")],
      let read := configuration? (fun _ => none) fun _ =>
        some (document [(.backend, .string "http://h"), item])
      (read (Occurrence.arguments ⟨.backend, "http://h", true⟩ ++
        Occurrence.arguments ⟨item.1, argumentText item.2, true⟩)).isSome = true ∧
      read (Occurrence.arguments ⟨.config, "gateway.toml", true⟩) = none) ∧
    ¬∀ assignment files occurrences entries file, Assignment.IsGivenBy assignment occurrences →
      assignment.IsListedBy entries → file ≠ "" → files file = some (document entries) →
      configuration? (fun _ => none) files (Occurrence.arguments ⟨.config, file, true⟩) =
        configuration? (fun _ => none) files (occurrences.flatMap Occurrence.arguments) := by
  refine ⟨by decide +kernel, fun hall => ?_⟩
  let assignment : Assignment := { backendUrl := "http://h", maxPushes := some (2 ^ 63) }
  let entries : List (Setting × Scalar) :=
    [(.backend, .string "http://h"), (.maxPushes, .integer (2 ^ 63))]
  have hgiven : assignment.IsGivenBy
      [⟨.backend, "http://h", true⟩, ⟨.maxPushes, "9223372036854775808", true⟩] := by
    refine ⟨by decide, by decide, ?_⟩
    intro setting
    cases setting <;> decide +kernel
  have hlisted : assignment.IsListedBy entries := by
    refine ⟨by decide, ?_⟩
    intro setting
    cases setting <;> decide +kernel
  have hequal := hall assignment (fun _ => some (document entries)) _ entries "gateway.toml" hgiven
    hlisted (by decide) rfl
  revert hequal
  decide +kernel

end Hypermedia.Configuration
