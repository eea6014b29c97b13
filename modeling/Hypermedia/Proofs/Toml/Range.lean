import Hypermedia.Toml.Parser
import Hypermedia.Proofs.Toml.Integer

/-!
# The range of integers in TOML documents

Integers have 64 bits, so a greater one stands in no document.

* `Toml.Value.IsInRange` says so of a value.
* `Toml.isInRange_of_value?` is the step: each value that is read is in range.
* `Toml.isInRange_of_parse?` says so of every value under a key of a document.
-/

namespace Hypermedia.Toml

/-- Whether a value is an integer of 64 bits, or no integer. -/
def Value.IsInRange : Value → Prop
  | .integer n => -(2 : Int) ^ 63 ≤ n ∧ n < (2 : Int) ^ 63
  | _ => True

/-- Whether all values of a table are in range. -/
def Table.IsInRange (table : Table) : Prop :=
  ∀ entry ∈ table, entry.2.IsInRange

/-! ## Values -/

theorem isInRange_of_integerOf? {negative : Bool} {n : Nat} {value : Value}
    (h : integerOf? negative n = some value) : value.IsInRange := by
  unfold integerOf? at h
  split_ifs at h with hnegative hlt hlt
  all_goals
    obtain rfl := Option.some.inj h
    norm_num at hlt
    constructor <;> norm_num <;> omega

theorem isInRange_of_integer? {s rest : List Char} {value : Value}
    (h : integer? s = some (value, rest)) : value.IsInRange := by
  rw [integer?.eq_def] at h
  dsimp only at h
  split at h
  all_goals
    obtain ⟨⟨digits, after⟩, -, h⟩ := Option.bind_eq_some_iff.mp h
    obtain ⟨found, hfound, h⟩ := Option.bind_eq_some_iff.mp h
    obtain ⟨rfl, -⟩ := Prod.mk.inj (Option.some.inj h)
    exact isInRange_of_integerOf? hfound

theorem isInRange_of_decimal? {s rest : List Char} {value : Value}
    (h : decimal? s = some (value, rest)) : value.IsInRange := by
  unfold decimal? at h
  obtain ⟨whole, -, h⟩ := Option.bind_eq_some_iff.mp h
  obtain ⟨fraction, -, h⟩ := Option.bind_eq_some_iff.mp h
  obtain ⟨exponent, -, h⟩ := Option.bind_eq_some_iff.mp h
  dsimp only at h
  split_ifs at h
  obtain ⟨rfl, -⟩ := Prod.mk.inj (Option.some.inj h)
  trivial

theorem isInRange_of_number? {s rest : List Char} {value : Value}
    (h : number? s = some (value, rest)) : value.IsInRange := by
  simp only [number?, Option.orElse_eq_or, Option.or_eq_some_iff] at h
  obtain (hmoment | ⟨-, hdecimal⟩) | ⟨-, hspecial | ⟨-, hinteger⟩⟩ := h
  · obtain ⟨after, -, h⟩ := Option.map_eq_some_iff.mp hmoment
    obtain ⟨rfl, -⟩ := Prod.mk.inj h
    trivial
  · exact isInRange_of_decimal? hdecimal
  · unfold special? at hspecial
    split at hspecial
    · obtain ⟨rfl, -⟩ := Prod.mk.inj (Option.some.inj hspecial)
      trivial
    · obtain ⟨rfl, -⟩ := Prod.mk.inj (Option.some.inj hspecial)
      trivial
    · cases hspecial
  · exact isInRange_of_integer? hinteger

theorem isInRange_of_word? {word : String} {read value : Value} {s rest : List Char}
    (hread : read.IsInRange) (h : word? word read s = some (value, rest)) : value.IsInRange := by
  unfold word? at h
  split_ifs at h
  obtain ⟨rfl, -⟩ := Prod.mk.inj (Option.some.inj h)
  exact hread

theorem isInRange_of_simple? {s rest : List Char} {value : Value}
    (h : simple? s = some (value, rest)) : value.IsInRange := by
  unfold simple? at h
  split at h
  · obtain ⟨found, -, h⟩ := Option.map_eq_some_iff.mp h
    obtain ⟨rfl, -⟩ := Prod.mk.inj h
    trivial
  · obtain ⟨found, -, h⟩ := Option.map_eq_some_iff.mp h
    obtain ⟨rfl, -⟩ := Prod.mk.inj h
    trivial
  · exact isInRange_of_word? (by trivial) h
  · exact isInRange_of_word? (by trivial) h
  · exact isInRange_of_number? h

/-- Every value that is read is in range. -/
theorem isInRange_of_value? {fuel depth : Nat} {s rest : List Char} {value : Value}
    (h : value? fuel depth s = some (value, rest)) : value.IsInRange := by
  cases fuel with
  | zero => simp [value?] at h
  | succ fuel =>
      rw [value?.eq_def] at h
      dsimp only at h
      split at h
      · split_ifs at h
        obtain ⟨found, -, h⟩ := Option.map_eq_some_iff.mp h
        obtain ⟨rfl, -⟩ := Prod.mk.inj h
        trivial
      · split_ifs at h
        split at h
        · obtain ⟨rfl, -⟩ := Prod.mk.inj (Option.some.inj h)
          trivial
        · obtain ⟨found, -, h⟩ := Option.map_eq_some_iff.mp h
          obtain ⟨rfl, -⟩ := Prod.mk.inj h
          trivial
      · exact isInRange_of_simple? h

/-! ## Tables -/

namespace Table

variable {table table' : Table} {value : Value}

theorem isInRange_set (htable : table.IsInRange) (hvalue : value.IsInRange) (key : String) :
    (table.set key value).IsInRange := by
  induction table with
  | nil => exact List.forall_mem_singleton.mpr hvalue
  | cons entry table ih =>
      obtain ⟨hentry, hrest⟩ := List.forall_mem_cons.mp htable
      rw [set]
      split_ifs
      · exact List.forall_mem_cons.mpr ⟨hvalue, hrest⟩
      · exact List.forall_mem_cons.mpr ⟨hentry, ih hrest⟩

/-- A change at the end of a path puts nothing but tables where the path starts. -/
theorem isInRange_of_alter? {dotted : Bool} {act : Origin → Table → Option Table}
    (hact : ∀ {origin table table'}, table.IsInRange → act origin table = some table' →
      table'.IsInRange)
    {path : List String} {origin : Origin} (htable : table.IsInRange)
    (h : alter? dotted act path origin table = some table') : table'.IsInRange := by
  cases path with
  | nil => exact hact htable h
  | cons key path =>
      rw [alter?] at h
      split at h
      · obtain ⟨inner, -, h⟩ := Option.bind_eq_some_iff.mp h
        obtain rfl := Option.some.inj h
        exact isInRange_set htable (by trivial) key
      · split_ifs at h
        obtain ⟨inner, -, h⟩ := Option.bind_eq_some_iff.mp h
        obtain rfl := Option.some.inj h
        exact isInRange_set htable (by trivial) key
      · obtain ⟨inner, -, h⟩ := Option.bind_eq_some_iff.mp h
        obtain rfl := Option.some.inj h
        exact isInRange_set htable (by trivial) key
      · cases h

theorem isInRange_of_insertAt? {path : List String} {key : String} (htable : table.IsInRange)
    (hvalue : value.IsInRange) (h : table.insertAt? path key value = some table') :
    table'.IsInRange := by
  refine isInRange_of_alter? ?_ htable h
  intro origin table table' htable hact
  split_ifs at hact
  obtain rfl := Option.some.inj hact
  exact isInRange_set htable hvalue key

theorem isInRange_of_insertSection? {path : List String} {key : String} {isList : Bool}
    {fill : Table → Option Table} (htable : table.IsInRange)
    (h : table.insertSection? path key isList fill = some table') : table'.IsInRange := by
  refine isInRange_of_alter? ?_ htable h
  intro origin table table' htable hact
  split_ifs at hact
  · obtain ⟨filled, -, hact⟩ := Option.bind_eq_some_iff.mp hact
    split at hact
    · obtain rfl := Option.some.inj hact
      exact isInRange_set htable (by trivial) key
    · obtain rfl := Option.some.inj hact
      exact isInRange_set htable (by trivial) key
    · cases hact
  · split at hact
    · obtain ⟨filled, -, rfl⟩ := Option.map_eq_some_iff.mp hact
      exact isInRange_set htable (by trivial) key
    · obtain ⟨filled, -, rfl⟩ := Option.map_eq_some_iff.mp hact
      exact isInRange_set htable (by trivial) key
    · cases hact

end Table

/-! ## Documents -/

theorem isInRange_of_entry? {s rest : List Char} {entry : Entry}
    (h : entry? s = some (entry, rest)) : entry.value.IsInRange := by
  unfold entry? at h
  obtain ⟨key, -, h⟩ := Option.bind_eq_some_iff.mp h
  obtain ⟨after, -, h⟩ := Option.bind_eq_some_iff.mp h
  obtain ⟨found, hfound, h⟩ := Option.bind_eq_some_iff.mp h
  obtain ⟨rfl, -⟩ := Prod.mk.inj (Option.some.inj h)
  exact isInRange_of_value? hfound

/-- Every value of a line is in range. -/
theorem isInRange_of_lines? {fuel : Nat} {s : List Char} {lines : List Line}
    (h : lines? fuel s = some lines) {entry : Entry} (hentry : .entry entry ∈ lines) :
    entry.value.IsInRange := by
  induction fuel generalizing s lines with
  | zero => cases h
  | succ fuel ih =>
      rw [lines?.eq_def] at h
      dsimp only at h
      split at h
      · obtain rfl := Option.some.inj h
        cases hentry
      · obtain ⟨header, -, h⟩ := Option.bind_eq_some_iff.mp h
        obtain ⟨after, -, h⟩ := Option.bind_eq_some_iff.mp h
        obtain ⟨more, hmore, h⟩ := Option.bind_eq_some_iff.mp h
        obtain rfl := Option.some.inj h
        obtain heq | hmem := List.mem_cons.mp hentry
        · cases heq
        · exact ih hmore hmem
      · split at h
        · exact ih h hentry
        · obtain ⟨⟨found, after⟩, hfound, h⟩ := Option.bind_eq_some_iff.mp h
          obtain ⟨after, -, h⟩ := Option.bind_eq_some_iff.mp h
          obtain ⟨more, hmore, h⟩ := Option.bind_eq_some_iff.mp h
          obtain rfl := Option.some.inj h
          obtain heq | hmem := List.mem_cons.mp hentry
          · obtain rfl := Line.entry.inj heq
            exact isInRange_of_entry? hfound
          · exact ih hmore hmem

theorem mem_of_mem_leadingEntries {lines : List Line} {entry : Entry}
    (h : entry ∈ leadingEntries lines) : .entry entry ∈ lines := by
  induction lines with
  | nil => cases h
  | cons line lines ih =>
      cases line with
      | entry first =>
          obtain rfl | hmem := List.mem_cons.mp h
          · exact List.mem_cons_self
          · exact List.mem_cons_of_mem _ (ih hmem)
      | header header => cases h

theorem isInRange_of_fill? {entries : List Entry} {table table' : Table}
    (hentries : ∀ entry ∈ entries, entry.value.IsInRange) (htable : table.IsInRange)
    (h : fill? entries table = some table') : table'.IsInRange := by
  induction entries generalizing table with
  | nil =>
      obtain rfl := Option.some.inj h
      exact htable
  | cons entry entries ih =>
      obtain ⟨hentry, hrest⟩ := List.forall_mem_cons.mp hentries
      unfold fill? at h
      rw [List.foldlM_cons] at h
      obtain ⟨next, hnext, h⟩ := Option.bind_eq_some_iff.mp h
      exact ih hrest (Table.isInRange_of_insertAt? htable hentry hnext) h

theorem isInRange_of_sections? {lines : List Line} {table table' : Table} (htable : table.IsInRange)
    (h : sections? table lines = some table') : table'.IsInRange := by
  induction lines generalizing table with
  | nil =>
      obtain rfl := Option.some.inj h
      exact htable
  | cons line lines ih =>
      cases line with
      | entry entry => exact ih htable h
      | header header =>
          obtain ⟨next, hnext, h⟩ := Option.bind_eq_some_iff.mp h
          exact ih (Table.isInRange_of_insertSection? htable hnext) h

/-- Every value under a key of a document is in range. -/
theorem isInRange_of_parse? {text : List Char} {table : Table} (h : parse? text = some table) :
    table.IsInRange := by
  unfold parse? at h
  obtain ⟨lines, hlines, h⟩ := Option.bind_eq_some_iff.mp h
  obtain ⟨root, hroot, h⟩ := Option.bind_eq_some_iff.mp h
  have hentries : ∀ entry ∈ leadingEntries lines, entry.value.IsInRange := fun entry hentry =>
    isInRange_of_lines? hlines (mem_of_mem_leadingEntries hentry)
  exact isInRange_of_sections? (isInRange_of_fill? hentries (List.forall_mem_nil _) hroot) h

end Hypermedia.Toml
