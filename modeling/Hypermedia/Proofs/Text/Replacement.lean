import Hypermedia.Proofs.Text.Pieces

/-!
# What replacing does

* `replaceAll_append` and `replaceAll_cons` are the two equations of replacing: an occurrence at the
  start is replaced, and otherwise the first symbol stays.
* `replaceAll_singleton` is the case of a needle of one symbol, which is replaced symbol by symbol.
* `exists_parts_replaceAll` says that a text and what replacing makes of it are the same parts, joined
  by the needle and by the replacement.
* `splitOn_replaceAll` says that the pieces may be replaced one by one, if the separator is in neither
  the needle nor the replacement.
-/

namespace Hypermedia.Text

variable {α : Type} [DecidableEq α]

/-! ## Equations -/

/-- What is to be skipped does not matter. -/
theorem replaceFrom_eq_drop (needle replacement : List α) (skip : Nat) (s : List α) :
    replaceFrom needle replacement skip s = replaceAll needle replacement (s.drop skip) := by
  induction skip generalizing s with
  | zero => rfl
  | succ skip ih =>
      cases s with
      | nil => rfl
      | cons c rest => rw [replaceFrom, ih, List.drop_succ_cons]

/-- An occurrence at the start is replaced. -/
theorem replaceAll_append {needle : List α} (hne : needle ≠ []) (replacement s : List α) :
    replaceAll needle replacement (needle ++ s) =
      replacement ++ replaceAll needle replacement s := by
  obtain ⟨c, rest, rfl⟩ := List.exists_cons_of_ne_nil hne
  have hprefix : (c :: rest).isPrefixOf (c :: (rest ++ s)) = true :=
    List.isPrefixOf_iff_prefix.mpr (List.prefix_append (c :: rest) s)
  rw [replaceAll, List.cons_append, replaceFrom, if_pos hprefix, replaceFrom_eq_drop,
    List.length_cons, Nat.add_sub_cancel, List.drop_left]

/-- Without an occurrence at the start, the first symbol stays. -/
theorem replaceAll_cons {needle : List α} {c : α} {s : List α} (h : ¬needle <+: c :: s)
    (replacement : List α) :
    replaceAll needle replacement (c :: s) = c :: replaceAll needle replacement s := by
  rw [replaceAll, replaceFrom, if_neg (mt List.isPrefixOf_iff_prefix.mp h)]
  rfl

/-- A single symbol is replaced wherever it stands. -/
theorem replaceAll_singleton (c : α) (replacement s : List α) :
    replaceAll [c] replacement s = s.flatMap fun d => if d = c then replacement else [d] := by
  induction s with
  | nil => rfl
  | cons d rest ih =>
      rw [List.flatMap_cons, ← ih]
      by_cases hd : d = c
      · subst hd
        rw [if_pos rfl]
        exact replaceAll_append (List.cons_ne_nil d []) replacement rest
      · have hprefix : ¬[c] <+: d :: rest := fun hprefix =>
          hd (List.cons_prefix_cons.mp hprefix).1.symm
        rw [if_neg hd, replaceAll_cons hprefix]
        rfl

/-- What a text starts with after replacing, it started with before, unless the replacement starts
with it. -/
theorem head?_of_head?_replaceAll {needle replacement s : List α} {first c : α} (hc : c ≠ first)
    (hne : needle ≠ []) (h : (replaceAll needle (first :: replacement) s).head? = some c) :
    s.head? = some c := by
  by_cases hprefix : needle <+: s
  · obtain ⟨rest, rfl⟩ := hprefix
    rw [replaceAll_append hne] at h
    exact absurd (Option.some.inj h).symm hc
  · cases s with
    | nil => exact h
    | cons d rest =>
        rw [replaceAll_cons hprefix] at h
        exact h

/-- Induction along the occurrences of a needle. -/
theorem replacing_induction {needle : List α} {P : List α → Prop} (hne : needle ≠ [])
    (nil : P []) (occurs : ∀ s, P s → P (needle ++ s))
    (stays : ∀ c s, ¬needle <+: c :: s → P s → P (c :: s)) (s : List α) : P s := by
  induction hn : s.length using Nat.strongRecOn generalizing s with
  | _ n ih =>
      subst hn
      by_cases hprefix : needle <+: s
      · obtain ⟨rest, rfl⟩ := hprefix
        have hlength := List.length_pos_iff.mpr hne
        exact occurs rest (ih rest.length (by rw [List.length_append]; omega) rest rfl)
      · cases s with
        | nil => exact nil
        | cons c rest => exact stays c rest hprefix (ih rest.length (Nat.lt_succ_self _) rest rfl)

/-! ## Parts -/

/-- A text and what replacing makes of it are the same parts, joined in different ways. -/
theorem exists_parts_replaceAll {needle : List α} (hne : needle ≠ []) (s : List α) :
    ∃ parts ≠ [], List.intercalate needle parts = s ∧
      ∀ replacement, replaceAll needle replacement s = List.intercalate replacement parts := by
  induction s using replacing_induction hne with
  | nil => exact ⟨[[]], List.cons_ne_nil _ _, rfl, fun _ => rfl⟩
  | occurs s ih =>
      obtain ⟨parts, hparts, rfl, hreplaced⟩ := ih
      refine ⟨[] :: parts, List.cons_ne_nil _ _, ?_, fun replacement => ?_⟩
      · rw [List.intercalate_cons_of_ne_nil hparts, List.nil_append]
      · rw [replaceAll_append hne, hreplaced, List.intercalate_cons_of_ne_nil hparts,
          List.nil_append]
  | stays c s hprefix ih =>
      obtain ⟨parts, hparts, rfl, hreplaced⟩ := ih
      obtain ⟨part, more, rfl⟩ := List.exists_cons_of_ne_nil hparts
      have hcons (between : List α) : List.intercalate between ((c :: part) :: more) =
          c :: List.intercalate between (part :: more) := by
        cases more with
        | nil => rw [List.intercalate_singleton, List.intercalate_singleton]
        | cons _ _ => rw [List.intercalate_cons_cons, List.intercalate_cons_cons]; rfl
      refine ⟨(c :: part) :: more, List.cons_ne_nil _ _, hcons needle, fun replacement => ?_⟩
      rw [replaceAll_cons hprefix, hreplaced, hcons]

/-- The occurrences of a symbol in parts that are joined. -/
theorem count_intercalate (c : α) (between : List α) (parts : List (List α)) :
    (List.intercalate between parts).count c =
      parts.flatten.count c + (parts.length - 1) * between.count c := by
  induction parts with
  | nil => simp
  | cons part more ih =>
      cases more with
      | nil => simp
      | cons next rest =>
          rw [List.intercalate_cons_cons, List.count_append, List.count_append, ih]
          simp only [List.flatten_cons, List.count_append, List.length_cons, Nat.add_sub_cancel,
            Nat.succ_mul]
          omega

/-- A symbol of parts that are joined is in one of the parts, or it is in what joins several. -/
theorem mem_intercalate_iff {c : α} {between : List α} {parts : List (List α)} :
    c ∈ List.intercalate between parts ↔
      c ∈ parts.flatten ∨ 1 < parts.length ∧ c ∈ between := by
  have hproduct : 0 < (parts.length - 1) * between.count c ↔
      1 < parts.length ∧ 0 < between.count c := by
    rw [Nat.pos_iff_ne_zero, Nat.mul_ne_zero_iff, ← Nat.pos_iff_ne_zero, ← Nat.pos_iff_ne_zero,
      Nat.sub_pos_iff_lt]
  simp only [← List.count_pos_iff, count_intercalate, Nat.add_pos_iff_pos_or_pos, hproduct]

/-- Where the first symbol of the needle does not occur, nothing is replaced. -/
theorem replaceAll_of_not_mem {c : α} {s : List α} (h : c ∉ s) (needle replacement : List α) :
    replaceAll (c :: needle) replacement s = s := by
  induction s with
  | nil => rfl
  | cons first rest ih =>
      have hprefix : ¬c :: needle <+: first :: rest := fun hprefix =>
        h ((List.cons_prefix_cons.mp hprefix).1 ▸ List.mem_cons_self)
      rw [replaceAll_cons hprefix, ih fun hmem => h (List.mem_cons_of_mem _ hmem)]

/-! ## Pieces -/

/-- Pieces are replaced one by one, if the separator is in neither the needle nor the replacement. -/
theorem splitOn_replaceAll {sep : α} {needle replacement : List α} (hne : needle ≠ [])
    (hneedle : sep ∉ needle) (hreplacement : sep ∉ replacement) (s : List α) :
    splitOn sep (replaceAll needle replacement s) =
      (splitOn sep s).map (replaceAll needle replacement) := by
  induction s using replacing_induction hne with
  | nil => rfl
  | occurs s ih =>
      obtain ⟨piece, pieces, hsplit⟩ := List.exists_cons_of_ne_nil (splitOn_ne_nil sep s)
      rw [hsplit, List.map_cons] at ih
      rw [replaceAll_append hne, splitOn_append_of_not_mem hreplacement ih,
        splitOn_append_of_not_mem hneedle hsplit, List.map_cons, replaceAll_append hne]
  | stays c s hprefix ih =>
      rw [replaceAll_cons hprefix]
      by_cases hc : c = sep
      · rw [splitOn, splitOn, if_pos hc, if_pos hc, ih]
        rfl
      · obtain ⟨piece, pieces, hsplit⟩ := List.exists_cons_of_ne_nil (splitOn_ne_nil sep s)
        rw [hsplit, List.map_cons] at ih
        -- The needle is not at the start of the first piece either.
        have hpiece : ¬needle <+: c :: piece := fun hstart => hprefix
          (hstart.trans (List.cons_prefix_cons.mpr ⟨rfl, prefix_of_splitOn_eq_cons hsplit⟩))
        rw [splitOn_cons_of_ne hc ih, splitOn_cons_of_ne hc hsplit, List.map_cons,
          replaceAll_cons hpiece]

end Hypermedia.Text
