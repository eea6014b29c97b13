import Mathlib.Data.List.Basic
import Hypermedia.Description.OfYaml

/-!
# The order of tables

The tables of a description are filled entry by entry as they are read, and every entry goes to the
place of its name. So the paths of a description are in order, in whatever format and in whatever
order they were written.

* `Table.Ordered` is the order, and `Table.Ordered.insert` says that an entry more keeps it.
* `Description.Shape.exists_description` says that reading a description only fills its table.
* `Description.ordered_of_parse` is the order of the paths of every description that is read.
-/

namespace Hypermedia

/-- What is found under a name is an entry. -/
theorem mem_of_lookup_eq_some {α : Type} {name : String} {value : α} {entries : List (String × α)}
    (h : entries.lookup name = some value) : (name, value) ∈ entries := by
  obtain ⟨before, after, rfl, -⟩ := List.lookup_eq_some_iff.mp h
  exact List.mem_append_right _ List.mem_cons_self

namespace Table

variable {α : Type}

/-! ## Tables in order -/

/-- The names increase. -/
def Ordered (table : Table α) : Prop :=
  table.Pairwise fun a b => a.1 < b.1

instance (table : Table α) : Decidable table.Ordered :=
  inferInstanceAs (Decidable (table.Pairwise _))

/-- A table with one more entry has no other new entries. -/
theorem mem_insert {name : String} {value : α} {table : Table α} {entry : String × α}
    (h : entry ∈ table.insert name value) : entry = (name, value) ∨ entry ∈ table := by
  induction table with
  | nil => exact .inl (List.mem_singleton.mp h)
  | cons first rest ih =>
      obtain ⟨other, old⟩ := first
      unfold insert at h
      split_ifs at h with hsame hless
      · rcases List.mem_cons.mp h with rfl | hold
        · exact .inl (by rw [hsame])
        · exact .inr (List.mem_cons_of_mem _ hold)
      · exact List.mem_cons.mp h
      · rcases List.mem_cons.mp h with rfl | hnew
        · exact .inr List.mem_cons_self
        · exact (ih hnew).imp_right (List.mem_cons_of_mem _)

theorem Ordered.nil : Ordered ([] : Table α) :=
  List.Pairwise.nil

/-- An entry goes to the place of its name. -/
theorem Ordered.insert {table : Table α} (h : table.Ordered) (name : String) (value : α) :
    (table.insert name value).Ordered := by
  induction table with
  | nil => exact List.pairwise_singleton _ _
  | cons first rest ih =>
      obtain ⟨other, old⟩ := first
      obtain ⟨hfirst, hrest⟩ := List.pairwise_cons.mp h
      unfold Table.insert
      split_ifs with hsame hless
      · exact List.pairwise_cons.mpr ⟨hfirst, hrest⟩
      · refine List.pairwise_cons.mpr ⟨fun entry hentry => ?_, h⟩
        rcases List.mem_cons.mp hentry with rfl | hlater
        · exact hless
        · exact String.lt_trans hless (hfirst entry hlater)
      · refine List.pairwise_cons.mpr ⟨fun entry hentry => ?_, ih hrest⟩
        rcases mem_insert hentry with rfl | hlater
        · refine Decidable.byContradiction fun hnot => hsame ?_
          exact String.le_antisymm (String.not_lt.mp hnot) (String.not_lt.mp hless)
        · exact hfirst entry hlater

/-- The table of some entries; the last value of a name counts. -/
def ofEntries (entries : List (String × α)) : Table α :=
  entries.foldl (fun table entry => table.insert entry.1 entry.2) []

theorem ordered_ofEntries (entries : List (String × α)) : (ofEntries entries).Ordered :=
  List.foldlRecOn entries _ .nil fun _ h entry _ => h.insert entry.1 entry.2

end Table

/-! ## Descriptions that are read -/

namespace Description

namespace Shape

variable {ν : Type} {m : Type → Type} [Monad m] [LawfulMonad m] {α : Type}

/-- The values of a table may be read before any of them is entered. -/
theorem exists_foldlM_insert (read : ν → m α) (entries : List (String × ν)) :
    ∃ values : m (List (String × α)), ∀ table : Table α,
      (entries.foldlM (fun table (name, value) => do
        let value ← read value
        pure (table.insert name value)) table) =
      (fun read => read.foldl (fun table entry => table.insert entry.1 entry.2) table) <$> values := by
  induction entries with
  | nil => exact ⟨pure [], fun table => by rw [map_pure]; rfl⟩
  | cons entry rest ih =>
      obtain ⟨name, written⟩ := entry
      obtain ⟨values, hvalues⟩ := ih
      refine ⟨(do let value ← read written; (fun more => (name, value) :: more) <$> values),
        fun table => ?_⟩
      rw [List.foldlM_cons, map_bind]
      simp only [bind_assoc, pure_bind, hvalues, Functor.map_map, List.foldl_cons]

/-- Reading a table fills it with the entries that were read. -/
theorem exists_tableOrEmpty (shape : Shape ν m) (read : ν → m α) (written : Option ν) :
    ∃ entries : m (List (String × α)),
      shape.tableOrEmpty read written = Table.ofEntries <$> entries := by
  cases written with
  | none => exact ⟨pure [], by rw [map_pure]; rfl⟩
  | some written =>
      choose values hvalues using exists_foldlM_insert (m := m) read
      refine ⟨shape.table written >>= values, ?_⟩
      rw [map_bind]
      unfold tableOrEmpty tableOf
      exact bind_congr fun entries => hvalues entries []

/-- Reading a description fills the table of its paths. -/
theorem exists_description (shape : Shape ν m) (written : ν) :
    ∃ entries : m (List (String × PathItem)),
      shape.description written = (fun entries => ⟨Table.ofEntries entries⟩) <$> entries := by
  choose entries hentries using exists_tableOrEmpty shape shape.pathItem
  refine ⟨shape.record ["paths"] 0 written >>= fun members => entries (member members 0), ?_⟩
  rw [map_bind]
  unfold description
  refine bind_congr fun members => ?_
  rw [hentries, bind_pure_comp, Functor.map_map]

end Shape

/-- The paths of every description that is read are in order. -/
theorem ordered_of_parse {text : String} {description : Description}
    (h : parse text = .ok description) : description.paths.Ordered := by
  unfold parse at h
  split_ifs at h
  · split at h
    · next found hfound =>
      obtain rfl := Except.ok.inj h
      unfold ofJson? at hfound
      obtain ⟨literal, -, hread⟩ := Option.bind_eq_some_iff.mp hfound
      obtain ⟨entries, hentries⟩ := Shape.exists_description jsonShape literal
      rw [hentries] at hread
      obtain ⟨read, -, rfl⟩ := Option.map_eq_some_iff.mp hread
      exact Table.ordered_ofEntries read
    · cases h
  · split at h
    · next found hfound =>
      obtain rfl := Except.ok.inj h
      unfold ofYaml? at hfound
      obtain ⟨document, -, hdocument⟩ := Option.bind_eq_some_iff.mp hfound
      split at hdocument
      · obtain rfl := Option.some.inj hdocument
        exact .nil
      · next root _ =>
        obtain ⟨entries, hentries⟩ := Shape.exists_description (yamlShape document) root
        rw [hentries, StateT.run'_eq, StateT.run_map] at hdocument
        obtain ⟨outcome, hrun, rfl⟩ := Option.map_eq_some_iff.mp hdocument
        obtain ⟨read, -, rfl⟩ := Option.map_eq_some_iff.mp hrun
        exact Table.ordered_ofEntries read.1
    · cases h

end Description

end Hypermedia
