import Mathlib.Data.List.Forall2
import Hypermedia.Proofs.Description.Table
import Hypermedia.Proofs.Text.ByteOrder

/-!
# The template that serves a path

A template and a path are compared segment by segment. Where several templates match a path, the
one with the fewest parameters serves it, and the first one of these.

* `Description.Serves` compares two segments, `Description.Matches` a template and a path.
* `Description.matchTemplate?_eq_some_iff` says that matching is decided by this comparison, and
  counts the parameters.
* `Description.leastFirst_eq_some` is the choice of the first pair with the least number.
* `Description.routeOf?_best` puts them together for the paths of a description.
-/

namespace Hypermedia.Description

/-! ## Segments -/

/-- A segment of a template that is a parameter: whatever stands in braces. -/
def IsParameter (segment : List Char) : Prop :=
  ∃ name, segment = '\x7b' :: (name ++ ['\x7d'])

theorem isParameter_iff {segment : List Char} :
    isParameter segment = true ↔ IsParameter segment := by
  unfold isParameter IsParameter
  rw [Bool.and_eq_true, decide_eq_true_eq, decide_eq_true_eq]
  constructor
  · rintro ⟨hhead, hlast⟩
    obtain ⟨rest, rfl⟩ := List.head?_eq_some_iff.mp hhead
    obtain ⟨start, hstart⟩ := List.getLast?_eq_some_iff.mp hlast
    cases start with
    | nil => cases hstart
    | cons first name =>
        obtain ⟨-, rfl⟩ := List.cons.inj hstart
        exact ⟨name, rfl⟩
  · rintro ⟨name, rfl⟩
    exact ⟨rfl, by rw [← List.cons_append, List.getLast?_concat]⟩

instance (segment : List Char) : Decidable (IsParameter segment) :=
  decidable_of_iff _ isParameter_iff

/-- A segment of a template serves a segment of a path: a parameter serves every segment but the
empty one, and any other segment serves itself. -/
def Serves (template path : List Char) : Prop :=
  IsParameter template ∧ path ≠ [] ∨ template = path

/-- A segment that is no parameter serves itself only. -/
theorem serves_iff_of_not_isParameter {t p : List Char} (h : ¬IsParameter t) :
    Serves t p ↔ t = p :=
  or_iff_right fun hserves => h hserves.1

/-- A parameter serves every segment but the empty one. -/
theorem serves_iff_of_isParameter {t p : List Char} (h : IsParameter t) : Serves t p ↔ p ≠ [] := by
  unfold Serves
  rw [and_iff_right h, or_iff_left_iff_imp]
  rintro rfl
  obtain ⟨name, rfl⟩ := h
  exact List.cons_ne_nil _ _

/-! ## Templates -/

/-- The segments of a path or of a template, between its slashes. -/
def segments (text : String) : List (List Char) :=
  Text.splitOn '/' text.toList

/-- A template matches a path: there are as many segments, and each one of the template serves the
one of the path in its place. -/
def Matches (template path : String) : Prop :=
  (segments template).Forall₂ Serves (segments path)

/-- The number of parameters of a template. -/
def parameterCount (template : String) : Nat :=
  (segments template).countP fun segment => IsParameter segment

/-- Segments are matched one by one, and the parameters among them are counted. -/
theorem matchSegments?_eq_some_iff {template path : List (List Char)} {n : Nat} :
    matchSegments? template path = some n ↔
      template.Forall₂ Serves path ∧ (template.countP fun segment => IsParameter segment) = n := by
  induction template generalizing path n with
  | nil =>
      cases path with
      | nil => simp [matchSegments?]
      | cons p path => simp [matchSegments?]
  | cons t template ih =>
      cases path with
      | nil => simp [matchSegments?]
      | cons p path =>
          rw [matchSegments?, List.forall₂_cons]
          by_cases ht : IsParameter t
          · rw [if_pos (isParameter_iff.mpr ht), serves_iff_of_isParameter ht,
              List.countP_cons_of_pos (by simpa using ht)]
            cases p with
            | nil => simp
            | cons c rest =>
                rw [if_neg (by simp), Option.map_eq_some_iff]
                simp only [ih]
                constructor
                · rintro ⟨m, ⟨hserves, rfl⟩, rfl⟩
                  exact ⟨⟨List.cons_ne_nil _ _, hserves⟩, rfl⟩
                · rintro ⟨⟨-, hserves⟩, rfl⟩
                  exact ⟨_, ⟨hserves, rfl⟩, rfl⟩
          · rw [if_neg (mt isParameter_iff.mp ht), serves_iff_of_not_isParameter ht,
              List.countP_cons_of_neg (by simpa using ht)]
            by_cases hsame : t = p
            · rw [if_pos hsame, ih, and_iff_right hsame]
            · simp [hsame]

/-- A template that matches a path is counted with its parameters. -/
theorem matchTemplate?_eq_some_iff {template path : String} {n : Nat} :
    matchTemplate? template path = some n ↔
      Matches template path ∧ parameterCount template = n :=
  matchSegments?_eq_some_iff

theorem isSome_matchTemplate?_iff {template path : String} :
    (matchTemplate? template path).isSome = true ↔ Matches template path := by
  simp only [Option.isSome_iff_exists, matchTemplate?_eq_some_iff, exists_and_left, exists_eq',
    and_true]

/-! ## The first pair with the least number -/

section LeastFirst

variable {α : Type} {pairs : List (Nat × α)}

theorem leastFirst_eq_none_iff : leastFirst pairs = none ↔ pairs = [] := by
  cases pairs with
  | nil => exact iff_of_true rfl rfl
  | cons pair rest =>
      refine iff_of_false (fun h => ?_) (List.cons_ne_nil _ _)
      rw [leastFirst] at h
      split at h
      · cases h
      · split_ifs at h

/-- The pair that is chosen has a smaller number than those before it, and no greater one than
those behind it. -/
theorem leastFirst_eq_some {n : Nat} {a : α} (h : leastFirst pairs = some (n, a)) :
    ∃ before after, pairs = before ++ (n, a) :: after ∧ (∀ pair ∈ before, n < pair.1) ∧
      ∀ pair ∈ after, n ≤ pair.1 := by
  induction pairs generalizing n a with
  | nil => cases h
  | cons first rest ih =>
      obtain ⟨m, b⟩ := first
      rw [leastFirst] at h
      cases hrest : leastFirst rest with
      | none =>
          rw [hrest] at h
          obtain ⟨rfl, rfl⟩ := Prod.mk.inj (Option.some.inj h)
          rw [leastFirst_eq_none_iff.mp hrest]
          exact ⟨[], [], rfl, List.forall_mem_nil _, List.forall_mem_nil _⟩
      | some found =>
          obtain ⟨k, c⟩ := found
          obtain ⟨before, after, hsplit, hbefore, hafter⟩ := ih hrest
          rw [hrest] at h
          dsimp only at h
          split_ifs at h with hless
          · obtain ⟨rfl, rfl⟩ := Prod.mk.inj (Option.some.inj h)
            refine ⟨(m, b) :: before, after, by rw [hsplit]; rfl, fun pair hpair => ?_, hafter⟩
            rcases List.mem_cons.mp hpair with rfl | hmem
            · exact hless
            · exact hbefore pair hmem
          · obtain ⟨rfl, rfl⟩ := Prod.mk.inj (Option.some.inj h)
            refine ⟨[], rest, rfl, List.forall_mem_nil _, fun pair hpair => ?_⟩
            -- No number behind the first pair is less than the least one there.
            rw [hsplit] at hpair
            have hle : m ≤ k := Nat.le_of_not_lt hless
            rcases List.mem_append.mp hpair with hmem | hmem
            · exact Nat.le_of_lt (Nat.lt_of_le_of_lt hle (hbefore pair hmem))
            · rcases List.mem_cons.mp hmem with rfl | hmem
              · exact hle
              · exact Nat.le_trans hle (hafter pair hmem)

end LeastFirst

/-! ## Routes -/

/-- The candidates are the templates with a `get` operation that match, with their numbers of
parameters. -/
theorem mem_matches?_iff {description : Description} {path template : String} {n : Nat} :
    (n, template) ∈ description.matches? path ↔
      (∃ item, (template, item) ∈ description.paths ∧ item.get.isSome = true) ∧
        Matches template path ∧ parameterCount template = n := by
  unfold matches?
  rw [List.mem_filterMap]
  constructor
  · rintro ⟨⟨other, item⟩, hentry, hcandidate⟩
    dsimp only at hcandidate
    split_ifs at hcandidate with hget
    obtain ⟨m, hmatch, hpair⟩ := Option.map_eq_some_iff.mp hcandidate
    obtain ⟨rfl, rfl⟩ := Prod.mk.inj hpair
    exact ⟨⟨item, hentry, hget⟩, matchTemplate?_eq_some_iff.mp hmatch⟩
  · rintro ⟨⟨item, hentry, hget⟩, hmatch⟩
    refine ⟨(template, item), hentry, ?_⟩
    dsimp only
    rw [if_pos hget, matchTemplate?_eq_some_iff.mpr hmatch]
    rfl

/-- The candidates are in the order of their templates. -/
theorem pairwise_matches? {description : Description} (h : description.paths.Ordered)
    (path : String) : (description.matches? path).Pairwise fun a b => a.2 < b.2 := by
  refine List.Pairwise.filterMap _ ?_ h
  rintro ⟨first, item⟩ ⟨second, other⟩ hless a ha b hb
  dsimp only at ha hb
  split_ifs at ha hb
  obtain ⟨m, -, rfl⟩ := Option.map_eq_some_iff.mp ha
  obtain ⟨n, -, rfl⟩ := Option.map_eq_some_iff.mp hb
  exact hless

/-- A template serves a request exactly if one with a `get` operation matches its path. -/
theorem isSome_routeOf?_iff {description : Description} {uri : Uri} :
    (description.routeOf? uri).isSome = true ↔
      ∃ entry ∈ description.paths, entry.2.get.isSome = true ∧ Matches entry.1 uri.path := by
  unfold routeOf?
  rw [Option.isSome_map, Option.isSome_iff_ne_none, ne_eq, leastFirst_eq_none_iff]
  constructor
  · intro hne
    obtain ⟨⟨n, template⟩, hmem⟩ := List.exists_mem_of_ne_nil _ hne
    obtain ⟨⟨item, hentry, hget⟩, hmatch, -⟩ := mem_matches?_iff.mp hmem
    exact ⟨(template, item), hentry, hget, hmatch⟩
  · rintro ⟨⟨template, item⟩, hentry, hget, hmatch⟩ hnil
    have hmem := mem_matches?_iff.mpr ⟨⟨item, hentry, hget⟩, hmatch, rfl⟩
    rw [hnil] at hmem
    cases hmem

/-- The template that serves a request is a match, and no candidate is better. -/
theorem routeOf?_eq_some {description : Description} (hordered : description.paths.Ordered)
    {uri : Uri} {template : String} (h : description.routeOf? uri = some template) :
    (parameterCount template, template) ∈ description.matches? uri.path ∧
      ∀ n other, (n, other) ∈ description.matches? uri.path →
        parameterCount template < n ∨
        parameterCount template = n ∧ (template = other ∨ template < other) := by
  obtain ⟨⟨n, found⟩, hleast, rfl⟩ := Option.map_eq_some_iff.mp h
  obtain ⟨before, after, hsplit, hbefore, hafter⟩ := leastFirst_eq_some hleast
  have hfound : (n, found) ∈ description.matches? uri.path := by
    rw [hsplit]
    exact List.mem_append_right _ List.mem_cons_self
  obtain ⟨-, -, rfl⟩ := mem_matches?_iff.mp hfound
  refine ⟨hfound, fun n other hother => ?_⟩
  rw [hsplit] at hother
  rcases List.mem_append.mp hother with hearlier | hlater
  · exact .inl (hbefore _ hearlier)
  · rcases List.mem_cons.mp hlater with hsame | hlater
    · obtain ⟨rfl, rfl⟩ := Prod.mk.inj hsame
      exact .inr ⟨rfl, .inl rfl⟩
    · -- A candidate behind the chosen one comes after it in the order of the table.
      have horder := pairwise_matches? hordered uri.path
      rw [hsplit, List.pairwise_append, List.pairwise_cons] at horder
      exact (Nat.lt_or_eq_of_le (hafter _ hlater)).imp_right fun hsame =>
        ⟨hsame, .inr (horder.2.1.1 _ hlater)⟩

/-- **The template that serves a path.** There is one exactly if some template with a `get` operation
matches the path: it has as many segments as the path, and segment by segment it is a parameter where
the path has a segment that is not empty, or the same as the path. The one that serves is such a
match with the fewest parameters, and among those the first in the order of bytes. Matching yields the
number of parameters for every match, and nothing for any other pair. -/
theorem routeOf?_best {description : Description} (hordered : description.paths.Ordered)
    (uri : Uri) :
    ((description.routeOf? uri).isSome = true ↔
      ∃ entry ∈ description.paths, entry.2.get.isSome = true ∧ Matches entry.1 uri.path) ∧
    (∀ template, description.routeOf? uri = some template →
      (∃ item, (template, item) ∈ description.paths ∧ item.get.isSome = true) ∧
      Matches template uri.path ∧
      ∀ entry ∈ description.paths, entry.2.get.isSome = true → Matches entry.1 uri.path →
        parameterCount template < parameterCount entry.1 ∨
        parameterCount template = parameterCount entry.1 ∧
          (template = entry.1 ∨ Bytes.ofString template < Bytes.ofString entry.1)) ∧
    ∀ template path,
      (∀ n, matchTemplate? template path = some n ↔
        Matches template path ∧ parameterCount template = n) ∧
      (matchTemplate? template path = none ↔ ¬Matches template path) := by
  refine ⟨isSome_routeOf?_iff, fun template hroute => ?_, fun template path =>
    ⟨fun _ => matchTemplate?_eq_some_iff, ?_⟩⟩
  · obtain ⟨hmem, hbest⟩ := routeOf?_eq_some hordered hroute
    obtain ⟨hitem, hmatch, -⟩ := mem_matches?_iff.mp hmem
    refine ⟨hitem, hmatch, fun entry hentry hget hother => ?_⟩
    have hcandidate := hbest _ entry.1 (mem_matches?_iff.mpr ⟨⟨entry.2, hentry, hget⟩, hother, rfl⟩)
    rwa [← Bytes.ofString_lt_iff] at hcandidate
  · rw [← isSome_matchTemplate?_iff, Option.not_isSome_iff_eq_none]

/-- Two templates that may match the same path. -/
def bookPaths : Description :=
  ⟨[("/books/latest", ⟨some ⟨none, []⟩, []⟩), ("/books/\x7bid\x7d", ⟨some ⟨none, []⟩, []⟩)]⟩

/-- A path that both templates match is served by the one without a parameter. -/
theorem routeOf?_latest :
    bookPaths.paths.Ordered ∧
    bookPaths.routeOf? ⟨none, none, "/books/latest", none⟩ = some "/books/latest" ∧
    Matches "/books/\x7bid\x7d" "/books/latest" ∧
    parameterCount "/books/latest" < parameterCount "/books/\x7bid\x7d" := by
  have hordered : bookPaths.paths.Ordered := by decide
  have hroute : bookPaths.routeOf? ⟨none, none, "/books/latest", none⟩ = some "/books/latest" := by
    decide +kernel
  have hmatch : Matches "/books/\x7bid\x7d" "/books/latest" :=
    isSome_matchTemplate?_iff.mp (by decide +kernel)
  refine ⟨hordered, hroute, hmatch, ?_⟩
  have hbest := ((routeOf?_best hordered _).2.1 _ hroute).2.2 _
    (List.mem_cons_of_mem _ List.mem_cons_self) rfl hmatch
  exact hbest.resolve_right fun hsame => absurd hsame.1 (by decide +kernel)

end Hypermedia.Description
