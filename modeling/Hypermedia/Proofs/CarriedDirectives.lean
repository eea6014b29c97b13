import Mathlib.Data.List.Forall2
import Hypermedia.Proofs.Directive
import Hypermedia.Proofs.Selector.Rerooting
import Hypermedia.Relation

/-!
# The directives that a relation carries

A relation whose document was asked for by parameters of the query carries the selections below its
node as such parameters.

* `Segment.isPrintable_render` and `SelectorTree.isPrintable_of_mem_subSelectors`: below a node
  there are only printable pointers, if the tree was made of such.
* `Node.carriedKinds` are the directives that have selections below a node, and
  `Relation.queryPairs_withDirectives` says what the query of the relation becomes.
* `Relation.withDirectives_carries` reads the directives back. A parameter of the relation itself
  makes room for one that the relation carries, but only if it has the name of that very directive:
  `Relation.withDirectives_keeps_fields`.
-/

namespace Hypermedia

/-! ## Printable pointers -/

namespace Segment

/-- The characters of an escaped key are printable if those of the key are. -/
theorem all_escapeChars {s : List Char} (h : s.all isPrintableChar = true) :
    (escapeChars s).all isPrintableChar = true := by
  unfold escapeChars
  rw [List.all_flatMap, List.all_eq_true]
  intro c hc
  have hprintable := List.all_eq_true.mp h c hc
  split_ifs
  · rfl
  · rfl
  · rw [List.all_cons, hprintable, List.all_nil, Bool.and_true]

/-- The characters of a key are printable if those of its escaped form are. -/
theorem all_unescapeChars {s : List Char} (h : s.all isPrintableChar = true) :
    (unescapeChars s).all isPrintableChar = true := by
  fun_induction unescapeChars s with
  | case1 => rfl
  | case2 rest ih =>
      simp only [List.all_cons, Bool.and_eq_true] at h
      rw [List.all_cons, ih h.2.2]
      rfl
  | case3 rest ih =>
      simp only [List.all_cons, Bool.and_eq_true] at h
      rw [List.all_cons, ih h.2.2]
      rfl
  | case4 c rest hone hzero ih =>
      simp only [List.all_cons, Bool.and_eq_true] at h
      rw [List.all_cons, h.1, ih h.2]
      rfl

/-- What is read from a printable pointer is written in printable ASCII. -/
theorem isPrintable_text_of_mem_ofPointer {pointer : String} (h : isPrintable pointer = true)
    {segment : Segment} (hsegment : segment ∈ ofPointer pointer) :
    isPrintable segment.text = true := by
  unfold ofPointer at hsegment
  split at hsegment
  · cases hsegment
  · next inner _ =>
    obtain ⟨piece, hpiece, rfl⟩ := List.mem_map.mp hsegment
    have hall : piece.all isPrintableChar = true := by
      rw [List.all_eq_true]
      intro c hc
      exact List.all_eq_true.mp h c (Text.mem_of_mem_trimEnds (Text.mem_of_mem_splitOn hpiece hc).1)
    unfold ofPiece
    split_ifs
    · rfl
    · unfold isPrintable
      rw [toList_text_key, String.toList_ofList]
      exact all_escapeChars (all_unescapeChars hall)

/-- A path of printable segments is written in printable ASCII. -/
theorem isPrintable_render {path : List Segment}
    (h : ∀ segment ∈ path, isPrintable segment.text = true) : isPrintable (render path) = true := by
  unfold isPrintable
  rw [toList_render, chars, List.all_flatMap, List.all_eq_true]
  intro segment hsegment
  rw [List.all_cons]
  exact h segment hsegment

end Segment

/-- The pointers below a node are printable if those are that the tree was made of. -/
theorem SelectorTree.isPrintable_of_mem_subSelectors {inserts : List (String × Kind)}
    (h : ∀ entry ∈ inserts, isPrintable entry.1 = true) {path : List Segment} {node : Node}
    (hnode : (ofInserts inserts).root.descend? path = some node) {kind : Kind} {pointer : String}
    (hpointer : pointer ∈ node.subSelectors kind) : isPrintable pointer = true := by
  rw [((means_ofInserts inserts).descend? hnode).mem_subSelectors
    ((sorted_ofInserts inserts).descend? hnode)] at hpointer
  obtain ⟨below, -, ⟨whole, hwhole, hread⟩, rfl⟩ := hpointer
  apply Segment.isPrintable_render
  intro segment hsegment
  apply Segment.isPrintable_text_of_mem_ofPointer (h _ hwhole)
  rw [hread]
  exact List.mem_append_right _ hsegment

/-! ## What a relation carries -/

/-- The directives have different names. -/
theorem Kind.name_injective : Function.Injective Kind.name := by
  intro kind other h
  cases kind <;> cases other <;> first | rfl | exact absurd h (by decide)

theorem Kind.all_all_iff {p : Kind → Bool} : Kind.all.all p = true ↔ ∀ kind, p kind = true := by
  rw [List.all_eq_true]
  exact forall_congr' fun kind => imp_iff_right (by cases kind <;> decide)

/-- Two properties keep the same items of a list exactly if they agree on its items. -/
theorem filter_eq_filter_iff {α : Type} {p q : α → Bool} {items : List α} :
    items.filter p = items.filter q ↔ ∀ item ∈ items, p item = q item := by
  refine ⟨fun heq item hitem => ?_, List.filter_congr⟩
  have hmem : item ∈ items.filter p ↔ item ∈ items.filter q := by rw [heq]
  rw [List.mem_filter, List.mem_filter, and_iff_right hitem, and_iff_right hitem] at hmem
  exact Bool.eq_iff_iff.mpr hmem

/-- The directives with selections below a node. -/
def Node.carriedKinds (node : Node) : List Kind :=
  Kind.all.filter fun kind => !(node.subSelectors kind).isEmpty

namespace Relation

variable {relation : Relation} {node : Node}

/-- Below a node all selections of a directive are written, or there are none. -/
theorem nodeDirectives_eq
    (h : ∀ kind, ∀ pointer ∈ node.subSelectors kind, isPrintable pointer = true) :
    nodeDirectives node =
      node.carriedKinds.map fun kind => (kind.name, Directive.text (node.subSelectors kind)) := by
  unfold nodeDirectives Node.carriedKinds
  rw [← List.filterMap_eq_map, List.filterMap_filter]
  refine List.filterMap_congr fun kind _ => ?_
  by_cases hnone : node.subSelectors kind = []
  · simp [hnone, Directive.render?]
  · have hwritable : Directive.Writable (node.subSelectors kind) := ⟨hnone, h kind⟩
    rw [hwritable.render?_eq]
    simp [hnone]

/-- The query of a relation loses the parameters that have the name of a directive with selections
below the node, and gets those directives. -/
theorem queryPairs_withDirectives (relation : Relation)
    (h : ∀ kind, ∀ pointer ∈ node.subSelectors kind, isPrintable pointer = true) :
    (relation.withDirectives node).url.queryPairs =
      (relation.url.queryPairs.filter fun pair =>
        node.carriedKinds.all fun kind => pair.1 ≠ kind.name) ++
        node.carriedKinds.map fun kind => (kind.name, Directive.text (node.subSelectors kind)) := by
  unfold withDirectives
  dsimp only
  rw [nodeDirectives_eq h]
  split_ifs with hempty
  · have hnone : node.carriedKinds = [] := by simpa using hempty
    simp [hnone]
  · unfold Url.withQueryPairs Url.queryPairs
    rw [Option.getD_some, Query.pairs_render]
    simp only [List.all_map, Function.comp_def]

/-- Only the query of a relation changes. -/
theorem withDirectives_eq (relation : Relation) (node : Node) :
    ∃ query, relation.withDirectives node =
      { relation with url := { relation.url with query := query } } := by
  unfold withDirectives
  dsimp only
  split_ifs
  · exact ⟨relation.url.query, rfl⟩
  · exact ⟨_, rfl⟩

/-- **A relation carries the selections below its node.** Only its query changes. For each directive
with selections below the node the query ends with a parameter of its name, that is read as these
selections in their order. The other parameters come before, as they were, without those that
have the name of such a directive. So no parameter of the relation itself has the name of a
directive in the end, exactly if only such directives are named that have selections below the
node. -/
theorem withDirectives_carries {inserts : List (String × Kind)}
    (hprintable : ∀ entry ∈ inserts, ∀ c ∈ entry.1.toList, 0x20 ≤ c.toNat ∧ c.toNat ≤ 0x7E)
    {path : List Segment} {node : Node}
    (hnode : (SelectorTree.ofInserts inserts).root.descend? path = some node)
    (relation : Relation) :
    (∃ query, relation.withDirectives node =
      { relation with url := { relation.url with query := query } }) ∧
    ∃ carried : List (String × String),
      carried.Forall₂
          (fun pair kind => pair.1 = kind.name ∧
            Directive.parsePaths? pair.2 = some (node.subSelectors kind))
          (Kind.all.filter fun kind => !(node.subSelectors kind).isEmpty) ∧
      (relation.withDirectives node).url.queryPairs =
        (relation.url.queryPairs.filter fun pair =>
          Kind.all.all fun kind => pair.1 ≠ kind.name || (node.subSelectors kind).isEmpty) ++
          carried ∧
      ((relation.withDirectives node).url.queryPairs =
          (relation.url.queryPairs.filter fun pair =>
            Kind.all.all fun kind => pair.1 ≠ kind.name) ++ carried ↔
        ∀ pair ∈ relation.url.queryPairs, ∀ kind : Kind, pair.1 = kind.name →
          node.subSelectors kind ≠ []) := by
  have hbelow : ∀ kind, ∀ pointer ∈ node.subSelectors kind, isPrintable pointer = true := by
    intro kind pointer hpointer
    exact SelectorTree.isPrintable_of_mem_subSelectors
      (fun entry hentry => isPrintable_iff.mpr (hprintable entry hentry)) hnode hpointer
  have hkept : ∀ pair : String × String,
      (node.carriedKinds.all fun kind => pair.1 ≠ kind.name) =
        Kind.all.all fun kind => pair.1 ≠ kind.name || (node.subSelectors kind).isEmpty := by
    intro pair
    unfold Node.carriedKinds
    rw [List.all_filter]
    exact congrArg Kind.all.all (funext fun kind => by rw [Bool.not_not, Bool.or_comm])
  have hpairs := queryPairs_withDirectives relation hbelow
  rw [List.filter_congr fun pair _ => hkept pair] at hpairs
  refine ⟨withDirectives_eq relation node,
    node.carriedKinds.map fun kind => (kind.name, Directive.text (node.subSelectors kind)),
    ?_, hpairs, ?_⟩
  · rw [List.forall₂_map_left_iff]
    refine List.forall₂_same.mpr fun kind hkind => ⟨rfl, ?_⟩
    have hne : node.subSelectors kind ≠ [] := by simpa using (List.mem_filter.mp hkind).2
    exact Directive.Writable.parsePaths?_text ⟨hne, hbelow kind⟩
  · rw [hpairs, List.append_cancel_right_eq, filter_eq_filter_iff]
    refine forall₂_congr fun pair _ => ?_
    rw [Bool.eq_iff_iff, Kind.all_all_iff, Kind.all_all_iff]
    simp only [Bool.or_eq_true, decide_eq_true_eq, List.isEmpty_iff]
    constructor
    · -- A directive that the pair is named after has no selections, and no other one is named.
      intro hagree kind hname hnone
      refine hagree.mp (fun other => ?_) kind hname
      by_cases hother : pair.1 = other.name
      · rw [Kind.name_injective (hother.symm.trans hname)]
        exact .inr hnone
      · exact .inl hother
    · intro hnamed
      refine ⟨fun h kind hname => ?_, fun h kind => .inl (h kind)⟩
      exact hnamed kind hname ((h kind).resolve_left (not_not_intro hname))

/-- An author whose address is to be preloaded and of whom only the name is to be kept. -/
theorem withDirectives_carries_author : ∃ node,
    (SelectorTree.ofInserts
      [("/author/address", .preload), ("/author/name", .fields)]).root.descend?
        [.key "author"] = some node ∧
    ∃ carried, carried.Forall₂
        (fun pair kind => pair.1 = kind.name ∧
          Directive.parsePaths? pair.2 = some (node.subSelectors kind)) [.preload, .fields] ∧
      ((Relation.mk ⟨"http", none, .rooted ["users", "5"], some "preload=stale&lang=fr", none⟩
        true false false).withDirectives node).url.queryPairs = [("lang", "fr")] ++ carried := by
  have hsome : ((SelectorTree.ofInserts [("/author/address", .preload),
      ("/author/name", .fields)]).root.descend? [.key "author"]).isSome = true := by decide
  have hkinds : ((SelectorTree.ofInserts [("/author/address", .preload),
      ("/author/name", .fields)]).root.descend? [.key "author"]).all
        (fun node => Kind.all.all fun kind => !(node.subSelectors kind).isEmpty) = true := by
    decide +kernel
  obtain ⟨node, hnode⟩ := Option.isSome_iff_exists.mp hsome
  rw [hnode, Option.all_some, Kind.all_all_iff] at hkinds
  have hnonempty : ∀ kind, (node.subSelectors kind).isEmpty = false := fun kind => by
    simpa using hkinds kind
  have hprintable : ∀ entry ∈ [("/author/address", Kind.preload), ("/author/name", Kind.fields)],
      isPrintable entry.1 = true := by decide
  obtain ⟨-, carried, hcarried, hpairs, -⟩ := withDirectives_carries
    (fun entry hentry => isPrintable_iff.mp (hprintable entry hentry)) hnode
    ⟨⟨"http", none, .rooted ["users", "5"], some "preload=stale&lang=fr", none⟩, true, false, false⟩
  rw [List.filter_eq_self.mpr fun kind _ => hkinds kind] at hcarried
  simp only [hnonempty, Bool.or_false] at hpairs
  exact ⟨node, hnode, carried, hcarried, hpairs.trans (congrArg (· ++ carried) (by decide +kernel))⟩

/-- A parameter stays, though it has the name of a directive, if that directive has no selections
below the node: nothing is said of the parts of the author to keep, but the author is asked for with
`fields`. -/
theorem withDirectives_keeps_fields : ∃ node,
    (SelectorTree.ofInserts [("/author/address", .preload)]).root.descend?
      [.key "author"] = some node ∧
    node.subSelectors .fields = [] ∧
    ("fields", "\"/old\"") ∈
      ((Relation.mk ⟨"http", none, .rooted ["users", "5"], some "fields=%22%2Fold%22", none⟩
        true false false).withDirectives node).url.queryPairs := by
  have hsome : ((SelectorTree.ofInserts [("/author/address", .preload)]).root.descend?
      [.key "author"]).isSome = true := by decide +kernel
  have hkept : ((SelectorTree.ofInserts [("/author/address", .preload)]).root.descend?
      [.key "author"]).all (fun node => (node.subSelectors .fields).isEmpty &&
        ((Relation.mk ⟨"http", none, .rooted ["users", "5"], some "fields=%22%2Fold%22", none⟩
          true false false).withDirectives node).url.queryPairs.contains ("fields", "\"/old\"")) =
      true := by decide +kernel
  obtain ⟨node, hnode⟩ := Option.isSome_iff_exists.mp hsome
  rw [hnode, Option.all_some, Bool.and_eq_true, List.isEmpty_iff, List.contains_iff_mem] at hkept
  exact ⟨node, hnode, hkept⟩

end Relation

end Hypermedia
