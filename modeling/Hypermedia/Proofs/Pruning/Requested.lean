import Mathlib.Data.List.Basic
import Hypermedia.Proofs.Pruning.Paths
import Hypermedia.Proofs.Pruning.Strings

/-!
# What a walk asks for and where the answers go

A walk resolves the strings that are asked for in the whole document, and does nothing to a document
but prune it and put the answers in the places of these strings.

* `Json.strings` are the strings of a document with their paths, `Json.mapStrings` replaces them, and
  `Json.replaceStrings` does so without a state.
* `SelectorTree.request?` is the node that asks for what is at a path, `SelectorTree.requests` are the
  strings of a document that are asked for.
* `Pruning.walk_eq_mapStrings` says what a walk is: pruning, and then answers.
* `SelectorTree.requests_answered` puts this together for whole documents.
-/

namespace Hypermedia

/-! ## The strings of a document -/

namespace Json

mutual

/-- The strings of a document with their paths, in document order. -/
def strings : Json → List (List Step × String)
  | .null => []
  | .bool _ => []
  | .number _ => []
  | .string raw => [([], raw)]
  | .array elements => elementStrings 0 elements
  | .object members => memberStrings members

/-- The strings of the elements of an array from an index on. -/
def elementStrings (index : Nat) : List Json → List (List Step × String)
  | [] => []
  | element :: rest =>
    (strings element).map (fun entry => (.element index :: entry.1, entry.2)) ++
      elementStrings (index + 1) rest

/-- The strings of the members of an object. -/
def memberStrings : List (String × Json) → List (List Step × String)
  | [] => []
  | (name, member) :: rest =>
    (strings member).map (fun entry => (.member name :: entry.1, entry.2)) ++ memberStrings rest

end

variable {m : Type → Type} [Monad m]

mutual

/-- Goes through the strings of a document in document order, and puts others in their places. -/
def mapStrings (f : List Step → String → m String) : Json → m Json
  | .null => pure .null
  | .bool b => pure (.bool b)
  | .number n => pure (.number n)
  | .string raw => do
    let changed ← f [] raw
    pure (.string changed)
  | .array elements => do
    let changed ← mapElementStrings f 0 elements
    pure (.array changed)
  | .object members => do
    let changed ← mapMemberStrings f members
    pure (.object changed)

/-- The same for the elements of an array from an index on. -/
def mapElementStrings (f : List Step → String → m String) (index : Nat) :
    List Json → m (List Json)
  | [] => pure []
  | element :: rest => do
    let changed ← mapStrings (fun path => f (.element index :: path)) element
    let more ← mapElementStrings f (index + 1) rest
    pure (changed :: more)

/-- The same for the members of an object. -/
def mapMemberStrings (f : List Step → String → m String) :
    List (String × Json) → m (List (String × Json))
  | [] => pure []
  | (name, member) :: rest => do
    let changed ← mapStrings (fun path => f (.member name :: path)) member
    let more ← mapMemberStrings f rest
    pure ((name, changed) :: more)

end

/-- The document with other strings in the places of its own. -/
def replaceStrings (g : List Step → String → String) (document : Json) : Json :=
  Id.run (document.mapStrings g)

mutual

/-- Where what takes the place of a string does not depend on the state, nor does the document. -/
theorem mapStrings_run_fst {σ : Type} {f : List Step → String → StateM σ String}
    {g : List Step → String → String}
    (h : ∀ path raw state, ((f path raw).run state).1 = g path raw) : (document : Json) →
      ∀ state, ((document.mapStrings f).run state).1 = document.replaceStrings g
  | .null, _ => rfl
  | .bool _, _ => rfl
  | .number _, _ => rfl
  | .string raw, state => congrArg Json.string (h [] raw state)
  | .array elements, state => congrArg Json.array (mapElementStrings_run_fst h 0 elements state)
  | .object members, state => congrArg Json.object (mapMemberStrings_run_fst h members state)

/-- The same of elements. -/
theorem mapElementStrings_run_fst {σ : Type} {f : List Step → String → StateM σ String}
    {g : List Step → String → String}
    (h : ∀ path raw state, ((f path raw).run state).1 = g path raw) (index : Nat) :
    (elements : List Json) → ∀ state, ((mapElementStrings f index elements).run state).1 =
      Id.run (mapElementStrings (m := Id) g index elements)
  | [], _ => rfl
  | element :: rest, _ =>
      congrArg₂ List.cons (mapStrings_run_fst (fun path => h (.element index :: path)) element _)
        (mapElementStrings_run_fst h (index + 1) rest _)

/-- The same of members. -/
theorem mapMemberStrings_run_fst {σ : Type} {f : List Step → String → StateM σ String}
    {g : List Step → String → String}
    (h : ∀ path raw state, ((f path raw).run state).1 = g path raw) :
    (members : List (String × Json)) → ∀ state, ((mapMemberStrings f members).run state).1 =
      Id.run (mapMemberStrings (m := Id) g members)
  | [], _ => rfl
  | (name, member) :: rest, _ =>
      congrArg₂ (fun changed more => (name, changed) :: more)
        (mapStrings_run_fst (fun path => h (.member name :: path)) member _)
        (mapMemberStrings_run_fst h rest _)

end

mutual

/-- A document whose strings all stay is the same. -/
theorem replaceStrings_eq_self {g : List Step → String → String} : (document : Json) →
    (∀ entry ∈ document.strings, g entry.1 entry.2 = entry.2) → document.replaceStrings g = document
  | .null, _ => rfl
  | .bool _, _ => rfl
  | .number _, _ => rfl
  | .string raw, h => congrArg Json.string (h ([], raw) List.mem_cons_self)
  | .array elements, h => congrArg Json.array (mapElementStrings_eq_self 0 elements h)
  | .object members, h => congrArg Json.object (mapMemberStrings_eq_self members h)

/-- The same of elements. -/
theorem mapElementStrings_eq_self {g : List Step → String → String} (index : Nat) :
    (elements : List Json) → (∀ entry ∈ elementStrings index elements, g entry.1 entry.2 = entry.2) →
      Id.run (mapElementStrings (m := Id) g index elements) = elements
  | [], _ => rfl
  | element :: rest, h =>
      congrArg₂ List.cons
        (replaceStrings_eq_self element fun entry hentry =>
          h (.element index :: entry.1, entry.2)
            (List.mem_append_left _ (List.mem_map_of_mem hentry)))
        (mapElementStrings_eq_self (index + 1) rest fun entry hentry =>
          h entry (List.mem_append_right _ hentry))

/-- The same of members. -/
theorem mapMemberStrings_eq_self {g : List Step → String → String} :
    (members : List (String × Json)) → (∀ entry ∈ memberStrings members, g entry.1 entry.2 = entry.2) →
      Id.run (mapMemberStrings (m := Id) g members) = members
  | [], _ => rfl
  | (name, member) :: rest, h =>
      congrArg₂ (fun changed more => (name, changed) :: more)
        (replaceStrings_eq_self member fun entry hentry =>
          h (.member name :: entry.1, entry.2)
            (List.mem_append_left _ (List.mem_map_of_mem hentry)))
        (mapMemberStrings_eq_self rest fun entry hentry =>
          h entry (List.mem_append_right _ hentry))

end

end Json

/-! ## What is asked for -/

namespace Pruning

/-- The node that asks for what is at a path below a node. -/
def request? (node : Option Node) (path : List Json.Step) : Option Node :=
  (node.bind (·.follow? (path.map Json.Step.name))).filter (·.isSelected .preload)

/-- A node asks for the string at its place if `preload` selects it. -/
theorem request?_nil (node : Node) :
    request? (some node) [] = if node.isSelected .preload then some node else none := rfl

/-- A step leads to what is asked for below a child. -/
theorem request?_cons (node : Option Node) (step : Json.Step) (path : List Json.Step) :
    request? node (step :: path) = request? (node.bind (·.matchChild step.name)) path := by
  unfold request?
  cases node with
  | none => rfl
  | some node => rw [List.map_cons, Option.bind_some, Option.bind_some, Node.follow?_cons]

/-- Of some strings with their paths those that are asked for, with the nodes that ask for them. -/
def requestsIn (node : Option Node) (strings : List (List Json.Step × String)) :
    List (List Json.Step × Node × String) :=
  strings.filterMap fun entry => (request? node entry.1).map fun found => (entry.1, found, entry.2)

theorem requestsIn_append (node : Option Node) (strings more : List (List Json.Step × String)) :
    requestsIn node (strings ++ more) = requestsIn node strings ++ requestsIn node more :=
  List.filterMap_append

/-- What is asked for behind a step is what is asked for below a child. -/
theorem requestsIn_map_cons (node : Option Node) (step : Json.Step)
    (strings : List (List Json.Step × String)) :
    requestsIn node (strings.map fun entry => (step :: entry.1, entry.2)) =
      (requestsIn (node.bind (·.matchChild step.name)) strings).map fun request =>
        (step :: request.1, request.2) := by
  unfold requestsIn
  rw [List.filterMap_map, List.map_filterMap]
  apply List.filterMap_congr
  intro entry _
  rw [Function.comp_apply, request?_cons, Option.map_map]
  rfl

/-- A string is asked for at the node itself if the node is selected. -/
theorem map_requestsIn_string (node : Option Node) (raw : String) :
    (requestsIn node [([], raw)]).map (fun request => (⟨request.2.1, request.2.2⟩ : Found)) =
      foundString node raw := by
  cases node with
  | none => rfl
  | some node =>
      unfold requestsIn foundString
      rw [List.filterMap_cons, request?_nil]
      dsimp only
      split_ifs <;> rfl

mutual

/-- What is asked for in a document are the strings at the paths that lead to a selected node. -/
theorem map_requestsIn_strings (node : Option Node) : (document : Json) →
    (requestsIn node document.strings).map (fun request => (⟨request.2.1, request.2.2⟩ : Found)) =
      found node document
  | .null => rfl
  | .bool _ => rfl
  | .number _ => rfl
  | .string raw => by
      rw [Json.strings, found]
      exact map_requestsIn_string node raw
  | .array elements => by
      rw [Json.strings, found]
      exact map_requestsIn_elementStrings node 0 elements
  | .object members => by
      rw [Json.strings, found]
      exact map_requestsIn_memberStrings node members

/-- The same of elements. -/
theorem map_requestsIn_elementStrings (node : Option Node) (index : Nat) :
    (elements : List Json) →
      (requestsIn node (Json.elementStrings index elements)).map
          (fun request => (⟨request.2.1, request.2.2⟩ : Found)) =
        foundElements node index elements
  | [] => rfl
  | element :: rest => by
      have helement := map_requestsIn_strings
        (node.bind (·.matchChild (Json.Step.element index).name)) element
      rw [Json.elementStrings, foundElements, requestsIn_append, requestsIn_map_cons,
        List.map_append, List.map_map, map_requestsIn_elementStrings node (index + 1) rest]
      exact congrArg (· ++ _) helement

/-- The same of members. -/
theorem map_requestsIn_memberStrings (node : Option Node) : (members : List (String × Json)) →
    (requestsIn node (Json.memberStrings members)).map
        (fun request => (⟨request.2.1, request.2.2⟩ : Found)) =
      foundMembers node members
  | [] => rfl
  | (name, member) :: rest => by
      have hmember := map_requestsIn_strings
        (node.bind (·.matchChild (Json.Step.member name).name)) member
      rw [Json.memberStrings, foundMembers, requestsIn_append, requestsIn_map_cons,
        List.map_append, List.map_map, map_requestsIn_memberStrings node rest]
      exact congrArg (· ++ _) hmember

end

/-- Where no `preload` pointer leads, nothing is asked for. -/
theorem requestsIn_eq_nil {node : Option Node} (h : Unselected node) (document : Json) :
    requestsIn node document.strings = [] := by
  rw [← List.map_eq_nil_iff, map_requestsIn_strings]
  exact found_eq_nil h document

/-! ## What pruning leaves -/

/-- A gap in an array has no strings. -/
theorem elementStrings_behindGap (index : Nat) (kept : List Json) :
    Json.elementStrings index (behindGap kept) = Json.elementStrings (index + 1) kept := by
  cases kept <;> rfl

mutual

/-- What is left of a document holds what is asked for, at the same paths. -/
theorem requestsIn_kept (tree : SelectorTree) (place : Place) (h : place.Marked) :
    (document : Json) → requestsIn place.node (kept tree place document).strings =
      requestsIn place.node document.strings
  | .null => rfl
  | .bool _ => rfl
  | .number _ => rfl
  | .string _ => rfl
  | .array elements => requestsIn_keptElements tree place h 0 elements
  | .object members => requestsIn_keptMembers tree place h members

/-- The same of elements. -/
theorem requestsIn_keptElements (tree : SelectorTree) (place : Place) (h : place.Marked)
    (index : Nat) : (elements : List Json) →
      requestsIn place.node
          (Json.elementStrings index (trim (keptElements tree place index elements))) =
        requestsIn place.node (Json.elementStrings index elements)
  | [] => rfl
  | element :: rest => by
      have hrest := requestsIn_keptElements tree place h (index + 1) rest
      have hstep := requestsIn_map_cons place.node (.element index)
      rw [keptElements, Json.elementStrings, requestsIn_append, hstep]
      cases hmember : place.member? tree (toString index) with
      | none =>
          have hnone : requestsIn
              (place.node.bind (·.matchChild (Json.Step.element index).name)) element.strings = [] :=
            requestsIn_eq_nil (h.unselected_of_pruned hmember) element
          rw [hnone, Option.map_none, trim_none_cons, elementStrings_behindGap, hrest]
          rfl
      | some inner =>
          have hinner : inner.node =
              place.node.bind (·.matchChild (Json.Step.element index).name) :=
            Place.node_of_member? hmember
          rw [Option.map_some, trim_some_cons, Json.elementStrings, requestsIn_append, hstep, hrest,
            ← hinner, requestsIn_kept tree inner (h.member? hmember) element]

/-- The same of members. -/
theorem requestsIn_keptMembers (tree : SelectorTree) (place : Place) (h : place.Marked) :
    (members : List (String × Json)) →
      requestsIn place.node (Json.memberStrings (keptMembers tree place members)) =
        requestsIn place.node (Json.memberStrings members)
  | [] => rfl
  | (name, member) :: rest => by
      have hrest := requestsIn_keptMembers tree place h rest
      have hstep := requestsIn_map_cons place.node (.member name)
      rw [keptMembers, Json.memberStrings, requestsIn_append, hstep]
      cases hmember : place.member? tree name with
      | none =>
          have hnone : requestsIn
              (place.node.bind (·.matchChild (Json.Step.member name).name)) member.strings = [] :=
            requestsIn_eq_nil (h.unselected_of_pruned hmember) member
          rw [hnone]
          exact hrest
      | some inner =>
          have hinner : inner.node = place.node.bind (·.matchChild (Json.Step.member name).name) :=
            Place.node_of_member? hmember
          dsimp only
          rw [Json.memberStrings, requestsIn_append, hstep, hrest, ← hinner,
            requestsIn_kept tree inner (h.member? hmember) member]

end

/-! ## Where the answers go -/

variable {σ : Type} {resolve : Node → String → StateM σ (Option String)}

/-- What takes the place of a string: the answer, if the string is asked for and there is one. -/
def answer (resolve : Node → String → StateM σ (Option String)) (node : Option Node)
    (path : List Json.Step) (raw : String) : StateM σ String :=
  match request? node path with
  | none => pure raw
  | some found => do
    let replacement ← resolve found raw
    pure (replacement.getD raw)

/-- Behind a step that is not pruned, the answers are those at the place it leads to. -/
theorem answer_cons {tree : SelectorTree} {place inner : Place} (step : Json.Step)
    (h : place.member? tree step.name = some inner) :
    (fun path => answer resolve place.node (step :: path)) = answer resolve inner.node := by
  funext path raw
  unfold answer
  rw [request?_cons, Place.node_of_member? h]

/-- A gap in an array has no answers. -/
theorem mapElementStrings_behindGap (f : List Json.Step → String → StateM σ String) (index : Nat)
    (kept : List Json) :
    Json.mapElementStrings f index (behindGap kept) =
      behindGap <$> Json.mapElementStrings f (index + 1) kept := by
  cases kept with
  | nil => rfl
  | cons first more =>
      rw [behindGap_cons, Json.mapElementStrings, Json.mapStrings, pure_bind, Json.mapElementStrings]
      simp only [bind_assoc, pure_bind, map_bind, map_pure, behindGap_cons]

mutual

/-- A walk prunes, and puts the answers in the places of the strings that are asked for. -/
theorem walk_eq_mapStrings (tree : SelectorTree) (place : Place) : (document : Json) →
    walk tree resolve place document =
      (kept tree place document).mapStrings (answer resolve place.node)
  | .null => rfl
  | .bool _ => rfl
  | .number _ => rfl
  | .string raw => by
      rw [walk, kept, Json.mapStrings, answer, resolveString]
      cases place.node with
      | none => rfl
      | some node =>
          rw [request?_nil]
          dsimp only
          split_ifs <;> rfl
  | .array elements => by
      rw [walk, kept, Json.mapStrings, ← trim_walkElements_eq_mapStrings tree place 0 elements,
        bind_map_left]
  | .object members => by
      rw [walk, kept, Json.mapStrings, walkMembers_eq_mapStrings tree place members]

/-- The same of elements. -/
theorem trim_walkElements_eq_mapStrings (tree : SelectorTree) (place : Place) (index : Nat) :
    (elements : List Json) → trim <$> walkElements tree resolve place index elements =
      Json.mapElementStrings (answer resolve place.node) index
        (trim (keptElements tree place index elements))
  | [] => rfl
  | element :: rest => by
      have hrest := trim_walkElements_eq_mapStrings tree place (index + 1) rest
      rw [keptElements]
      cases hmember : place.member? tree (toString index) with
      | none =>
          rw [Option.map_none, trim_none_cons, trim_walkElements_cons_of_none hmember, hrest,
            mapElementStrings_behindGap]
      | some inner =>
          rw [Option.map_some, trim_some_cons, trim_walkElements_cons_of_some hmember, hrest,
            Json.mapElementStrings, answer_cons (.element index) hmember,
            walk_eq_mapStrings tree inner element]

/-- The same of members. -/
theorem walkMembers_eq_mapStrings (tree : SelectorTree) (place : Place) :
    (members : List (String × Json)) → walkMembers tree resolve place members =
      Json.mapMemberStrings (answer resolve place.node) (keptMembers tree place members)
  | [] => rfl
  | (name, member) :: rest => by
      have hrest := walkMembers_eq_mapStrings tree place rest
      rw [walkMembers, keptMembers]
      cases hmember : place.member? tree name with
      | none => exact hrest
      | some inner =>
          dsimp only
          rw [Json.mapMemberStrings, answer_cons (.member name) hmember,
            walk_eq_mapStrings tree inner member, hrest]

end

/-- A resolution that notes its calls is called for each string once, in order. -/
theorem mapM_resolved_noted_run (founds : List Found) (state : σ) (calls : List (Node × String)) :
    ((founds.mapM (Found.resolved (noted resolve))).run (state, calls)).2.2 =
      calls ++ founds.map fun found => (found.node, found.raw) := by
  induction founds generalizing state calls with
  | nil => exact (List.append_nil calls).symm
  | cons found rest ih =>
      have hfirst : ((found.resolved (noted resolve)).run (state, calls)).2 =
          (((resolve found.node found.raw).run state).2, calls ++ [(found.node, found.raw)]) := rfl
      rw [List.mapM_cons, StateT.run_bind]
      have hrest := ih ((resolve found.node found.raw).run state).2
        (calls ++ [(found.node, found.raw)])
      rw [List.append_assoc] at hrest
      rw [← hfirst] at hrest
      exact hrest

end Pruning

/-! ## Whole documents -/

namespace SelectorTree

/-- The node that asks for the string at a path of a document, if there is one. -/
def request? (tree : SelectorTree) (path : List Json.Step) : Option Node :=
  Pruning.request? (some tree.root) path

/-- The strings of a document that a tree asks for, in document order: those whose paths lead to a
node that `preload` selects. -/
def requests (tree : SelectorTree) (document : Json) : List (List Json.Step × Node × String) :=
  Pruning.requestsIn (some tree.root) document.strings

/-- What takes the place of a string at a path of a document: the answer, if the string is asked for
and there is one. -/
def answer {σ : Type} (tree : SelectorTree) (resolve : Node → String → StateM σ (Option String)) :
    List Json.Step → String → StateM σ String :=
  Pruning.answer resolve (some tree.root)

/-- A walk over a document prunes it, and puts the answers in the places of the strings. -/
theorem transform_eq_mapStrings {σ : Type} (tree : SelectorTree)
    (resolve : Node → String → StateM σ (Option String)) (document : Json) :
    transform tree resolve document = (tree.prune document).mapStrings (tree.answer resolve) := by
  rw [prune_eq_kept]
  exact Pruning.walk_eq_mapStrings tree (Pruning.start tree) document

/-- A string at a path that is asked for is one of those that are asked for. -/
theorem mem_found {tree : SelectorTree} {document : Json} {entry : List Json.Step × String}
    (hentry : entry ∈ document.strings) {node : Node} (hnode : tree.request? entry.1 = some node) :
    ⟨node, entry.2⟩ ∈ tree.found document := by
  unfold found
  rw [← Pruning.map_requestsIn_strings, List.mem_map]
  exact ⟨(entry.1, node, entry.2),
    List.mem_filterMap.mpr ⟨entry, hentry, congrArg (Option.map _) hnode⟩, rfl⟩

/-- A string that is asked for is at a path that is asked for. -/
theorem exists_path_of_mem_found {tree : SelectorTree} {document : Json} {found : Found}
    (h : found ∈ tree.found document) :
    ∃ path, (path, found.raw) ∈ document.strings ∧ tree.request? path = some found.node := by
  unfold SelectorTree.found at h
  rw [← Pruning.map_requestsIn_strings, List.mem_map] at h
  obtain ⟨request, hrequest, rfl⟩ := h
  obtain ⟨entry, hentry, hasked⟩ := List.mem_filterMap.mp hrequest
  obtain ⟨node, hnode, rfl⟩ := Option.map_eq_some_iff.mp hasked
  exact ⟨entry.1, hentry, hnode⟩

/-- Pruning leaves what is asked for. -/
theorem found_prune {tree : SelectorTree} (h : tree.root.Marked) (document : Json) :
    tree.found (tree.prune document) = tree.found document := by
  have hfound : tree.found <$> transform tree keepStrings document =
      (tree.found document).mapM (pure : Found → StateM Unit Found) :=
    found_transform h keepStrings document
  rw [List.mapM_pure, List.map_id'] at hfound
  exact congrArg (fun walked => (walked.run ()).1) hfound

/-- The nodes of every tree that is made by insertions are marked. -/
theorem marked_ofInserts (inserts : List (String × Kind)) : (ofInserts inserts).root.Marked := by
  induction inserts using List.reverseRecOn with
  | nil => exact .empty ""
  | append_singleton inserts entry ih =>
      rw [ofInserts_concat]
      exact ih.insert _ _

/-- The calls of a walk are the strings that are asked for. -/
theorem calls_eq {σ : Type} {tree : SelectorTree} (h : tree.root.Marked)
    (resolve : Node → String → StateM σ (Option String)) (document : Json) (state : σ) :
    tree.calls resolve document state = (tree.requests document).map (·.2) := by
  have hfound : tree.calls resolve document state =
      (((tree.found document).mapM (Found.resolved (Pruning.noted resolve))).run
        (state, [])).2.2 :=
    congrArg (fun walked => (walked.run (state, [])).2.2)
      (found_transform h (Pruning.noted resolve) document)
  have hrequests := Pruning.map_requestsIn_strings (some tree.root) document
  rw [hfound, Pruning.mapM_resolved_noted_run, List.nil_append, found, ← hrequests, List.map_map]
  rfl

/-- **Pruning hides nothing that is asked for.** A walk calls its resolution for the strings of the
whole document whose paths lead to a node that `preload` selects, with this node and string, once
each and in document order, whatever is pruned. The pruned document holds all of them at their paths,
and the walk does nothing to it but put the answers in their places. -/
theorem requests_answered (inserts : List (String × Kind)) (document : Json) :
    (ofInserts inserts).requests ((ofInserts inserts).prune document) =
      (ofInserts inserts).requests document ∧
    ∀ {σ : Type} (resolve : Node → String → StateM σ (Option String)),
      (∀ state, (ofInserts inserts).calls resolve document state =
        ((ofInserts inserts).requests document).map (·.2)) ∧
      transform (ofInserts inserts) resolve document =
        ((ofInserts inserts).prune document).mapStrings ((ofInserts inserts).answer resolve) := by
  have hmarked := marked_ofInserts inserts
  refine ⟨?_, fun resolve => ⟨fun state => calls_eq hmarked resolve document state,
    transform_eq_mapStrings _ resolve document⟩⟩
  have hstart : (Pruning.start (ofInserts inserts)).Marked := by
    intro node hnode
    exact Option.some.inj hnode ▸ hmarked
  rw [prune_eq_kept]
  exact Pruning.requestsIn_kept _ _ hstart document

end SelectorTree

end Hypermedia
