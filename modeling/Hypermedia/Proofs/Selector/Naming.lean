import Hypermedia.Proofs.Selector.Inserts
import Hypermedia.Proofs.Text.Replacement

/-!
# Pointers as names of places

The place of a node is a path of segments, its name the pointer that writes this path.

* `Segment.escapeChars_eq_replaceAll` and `Segment.unescapeChars_eq_replaceAll`: a key is escaped by
  two replacements in the whole key, and unescaped by two others.
* `Segment.ofPointer_render_iff` says exactly which paths are read back from their pointers.
* `SelectorTree.pointers_name_paths` puts both together with the nodes of trees: every node has the
  pointer of its path, and the paths of different nodes are written differently.
-/

namespace Hypermedia

/-! ## Escapes as replacements -/

namespace Segment

open Text

/-- Escaping is two replacements in the whole key, that of the tildes and then that of the slashes.
-/
theorem escapeChars_eq_replaceAll (s : List Char) :
    escapeChars s = replaceAll ['/'] ['~', '1'] (replaceAll ['~'] ['~', '0'] s) := by
  rw [replaceAll_singleton, replaceAll_singleton, List.flatMap_assoc]
  refine List.flatMap_congr fun c _ => ?_
  -- The first replacement brings no slash in, so the second one meets those of the key alone.
  by_cases htilde : c = '~'
  · rw [if_pos htilde, if_pos htilde]
    rfl
  · rw [if_neg htilde, if_neg htilde, List.flatMap_singleton]

/-- Unescaping is two replacements in the whole piece, that of the escaped slashes and then that of
the escaped tildes. -/
theorem unescapeChars_eq_replaceAll (s : List Char) :
    unescapeChars s = replaceAll ['~', '0'] ['~'] (replaceAll ['~', '1'] ['/'] s) := by
  have hone : ['~', '1'] ≠ [] := List.cons_ne_nil _ _
  have hzero : ['~', '0'] ≠ [] := List.cons_ne_nil _ _
  fun_induction unescapeChars s with
  | case1 => rfl
  | case2 rest ih =>
      have hfirst : replaceAll ['~', '1'] ['/'] ('~' :: '1' :: rest) =
          '/' :: replaceAll ['~', '1'] ['/'] rest := replaceAll_append hone ['/'] rest
      have hslash : ¬['~', '0'] <+: '/' :: replaceAll ['~', '1'] ['/'] rest := by simp
      rw [hfirst, replaceAll_cons hslash, ih]
  | case3 rest ih =>
      have htilde : ¬['~', '1'] <+: '~' :: '0' :: rest := by simp
      have hdigit : ¬['~', '1'] <+: '0' :: rest := by simp
      have hsecond := replaceAll_append hzero ['~'] (replaceAll ['~', '1'] ['/'] rest)
      rw [replaceAll_cons htilde, replaceAll_cons hdigit, ih]
      exact hsecond.symm
  | case4 c rest hnotOne hnotZero ih =>
      have hfirst : ¬['~', '1'] <+: c :: rest := by
        rintro ⟨more, hmore⟩
        obtain ⟨rfl, hrest⟩ := List.cons.inj hmore
        exact hnotOne more rfl hrest.symm
      have hsecond : ¬['~', '0'] <+: c :: replaceAll ['~', '1'] ['/'] rest := by
        rintro ⟨more, hmore⟩
        obtain ⟨rfl, hrest⟩ := List.cons.inj hmore
        have hhead : (replaceAll ['~', '1'] ['/'] rest).head? = some '0' := by
          rw [← hrest]
          rfl
        -- The first replacement brings slashes in, so the zero was there before.
        obtain ⟨tail, htail⟩ := List.head?_eq_some_iff.mp
          (head?_of_head?_replaceAll (by decide) hone hhead)
        exact hnotZero tail rfl htail
      rw [replaceAll_cons hfirst, replaceAll_cons hsecond, ih]

/-- In the other order a tilde that was read would count as the start of an escape: the key `~1`
would be read as a slash. -/
example : replaceAll ['~', '1'] ['/'] (replaceAll ['~', '0'] ['~'] (escapeChars ['~', '1'])) =
    ['/'] := by
  decide

/-! ## Paths that are read back -/

/-- A path is read back from its pointer exactly if no key has the text of the wildcard and no empty
key stands at an end. -/
theorem ofPointer_render_iff {path : List Segment} :
    ofPointer (render path) = path ↔ Writable path := by
  refine ⟨fun hread => ?_, ofPointer_render⟩
  rw [← hread]
  exact writable_ofPointer (render path)

/-- A path without empty keys can be written and read back. -/
theorem writable_of_forall {path : List Segment}
    (h : ∀ segment ∈ path, segment ≠ key "" ∧ segment ≠ key "*") : Writable path where
  ne_star := fun segment hsegment => (h segment hsegment).2
  head?_ne := fun hhead => (h _ (List.mem_of_head? hhead)).1 rfl
  getLast?_ne := fun hlast => (h _ (List.mem_of_getLast? hlast)).1 rfl

end Segment

/-! ## The nodes of a tree -/

namespace SelectorTree

open Segment Text

/-- A node has the pointer of its path. -/
theorem pointer_of_descend? {inserts : List (String × Kind)} {path : List Segment} {node : Node}
    (hnode : (ofInserts inserts).root.descend? path = some node) : node.pointer = render path := by
  have hpointer := located_ofInserts inserts path node hnode
  rwa [pointer_root_ofInserts] at hpointer

/-- No key on the way to a node has the text of the wildcard. -/
theorem ne_star_of_descend? {inserts : List (String × Kind)} {path : List Segment} {node : Node}
    (hnode : (ofInserts inserts).root.descend? path = some node) :
    ∀ segment ∈ path, segment ≠ key "*" := by
  intro segment hsegment
  have hsome : ((ofInserts inserts).root.descend? path).isSome = true := by
    rw [hnode]
    rfl
  -- A pointer leads to the node or through it, and none is read with such a key.
  rw [(means_ofInserts inserts).isSome_descend? path (List.ne_nil_of_mem hsegment)] at hsome
  obtain ⟨kind, rest, hasked⟩ := hsome
  exact (writable_of_asked hasked).ne_star segment (List.mem_append_left rest hsegment)

/-- **Pointers name places.** A key is escaped by replacing its tildes and then its slashes, and
unescaped by replacing the escaped slashes and then the escaped tildes. A path of wildcards and of
keys that are neither empty nor `*` is read back from the pointer that writes it, whatever the
characters of the keys are. Different paths are written differently, also with empty keys. Every node
of a tree has the pointer that writes its path, and no key of this path is `*`. -/
theorem pointers_name_paths :
    (∀ name : List Char,
      escapeChars name = replaceAll ['/'] ['~', '1'] (replaceAll ['~'] ['~', '0'] name) ∧
      unescapeChars name = replaceAll ['~', '0'] ['~'] (replaceAll ['~', '1'] ['/'] name)) ∧
    (∀ path : List Segment, (∀ segment ∈ path, segment ≠ key "" ∧ segment ≠ key "*") →
      ofPointer (render path) = path) ∧
    (∀ path other : List Segment, (∀ segment ∈ path, segment ≠ key "*") →
      (∀ segment ∈ other, segment ≠ key "*") → path ≠ other → render path ≠ render other) ∧
    ∀ (inserts : List (String × Kind)) (path : List Segment) (node : Node),
      (ofInserts inserts).root.descend? path = some node →
        node.pointer = render path ∧ ∀ segment ∈ path, segment ≠ key "*" := by
  refine ⟨?_, ?_, ?_, ?_⟩
  · intro name
    exact ⟨escapeChars_eq_replaceAll name, unescapeChars_eq_replaceAll name⟩
  · intro path hpath
    exact ofPointer_render_iff.mpr (writable_of_forall hpath)
  · intro path other hpath hother hne hsame
    exact hne (render_injOn hpath hother hsame)
  · intro inserts path node hnode
    exact ⟨pointer_of_descend? hnode, ne_star_of_descend? hnode⟩

/-- The keys `~1` and `/` are kept apart by their escapes, also in a path with a wildcard. -/
theorem pointers_name_paths_escaped :
    (∀ segment ∈ [key "~1", wildcard, key "/~01"], segment ≠ key "" ∧ segment ≠ key "*") ∧
    ofPointer (render [key "~1", wildcard, key "/~01"]) = [key "~1", wildcard, key "/~01"] ∧
    render [key "~1", wildcard] ≠ render [key "/", wildcard] ∧
    ∃ node, (ofInserts [("/~01/*", .preload)]).root.descend? [key "~1", wildcard] = some node ∧
      node.pointer = render [key "~1", wildcard] := by
  obtain ⟨-, hread, hdistinct, hnodes⟩ := pointers_name_paths
  have hpath : ∀ segment ∈ [key "~1", wildcard, key "/~01"],
      segment ≠ key "" ∧ segment ≠ key "*" := by decide
  have hsome : ((ofInserts [("/~01/*", .preload)]).root.descend?
      [key "~1", wildcard]).isSome = true := by decide
  obtain ⟨node, hnode⟩ := Option.isSome_iff_exists.mp hsome
  refine ⟨hpath, hread _ hpath, hdistinct _ _ ?_ ?_ ?_, node, hnode, (hnodes _ _ node hnode).1⟩
  · decide
  · decide
  · decide

end SelectorTree

end Hypermedia
