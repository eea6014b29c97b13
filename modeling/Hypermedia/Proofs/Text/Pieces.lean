import Mathlib.Data.List.Basic
import Hypermedia.Text.Pieces

/-!
# What cutting and trimming do

* `splitOn_append_cons` and `splitOn_of_not_mem` are the two equations of cutting: a piece ends at
  the first separator, and without a separator there is one piece.
* `mem_of_mem_splitOn` and `length_splitOn` say what pieces consist of and how many there are.
* `occursIn_iff`, `infix_splitOn_iff` and `infix_dropWhile_iff` say where a needle is found: in one of
  the pieces if it holds no separator, and in what is left if it does not start with what is dropped.
* `exists_takeWhile_ne` and `exists_behindLast` cut a text before the first and behind the last
  occurrence of a symbol.
* `trimEnds_cons` says that a text which neither starts nor ends with a symbol is what trimming
  leaves of it; `head?_trimEnds_ne` and `getLast?_trimEnds_ne` say that trimming leaves nothing
  else.
-/

namespace Hypermedia.Text

variable {α : Type} [DecidableEq α]

/-! ## Cutting -/

/-- A symbol that is no separator goes to the first piece. -/
theorem splitOn_cons_of_ne {sep c : α} (hc : c ≠ sep) {s piece : List α} {pieces : List (List α)}
    (hs : splitOn sep s = piece :: pieces) : splitOn sep (c :: s) = (c :: piece) :: pieces := by
  rw [splitOn, if_neg hc, hs]

/-- Without a separator there is one piece. -/
theorem splitOn_of_not_mem {sep : α} {s : List α} (h : sep ∉ s) : splitOn sep s = [s] := by
  induction s with
  | nil => rfl
  | cons c rest ih =>
      have hc : c ≠ sep := fun heq => h (heq ▸ List.mem_cons_self)
      have hrest : sep ∉ rest := fun hmem => h (List.mem_cons_of_mem _ hmem)
      exact splitOn_cons_of_ne hc (ih hrest)

/-- A piece ends at the first separator. -/
theorem splitOn_append_cons {sep : α} {piece : List α} (h : sep ∉ piece) (s : List α) :
    splitOn sep (piece ++ sep :: s) = piece :: splitOn sep s := by
  induction piece with
  | nil => rw [List.nil_append, splitOn, if_pos rfl]
  | cons c rest ih =>
      have hc : c ≠ sep := fun heq => h (heq ▸ List.mem_cons_self)
      have hrest : sep ∉ rest := fun hmem => h (List.mem_cons_of_mem _ hmem)
      exact splitOn_cons_of_ne hc (ih hrest)

/-- What has no separator goes to the first piece. -/
theorem splitOn_append_of_not_mem {sep : α} {start s piece : List α} {pieces : List (List α)}
    (h : sep ∉ start) (hs : splitOn sep s = piece :: pieces) :
    splitOn sep (start ++ s) = (start ++ piece) :: pieces := by
  induction start with
  | nil => exact hs
  | cons c rest ih =>
      have hc : c ≠ sep := fun heq => h (heq ▸ List.mem_cons_self)
      exact splitOn_cons_of_ne hc (ih fun hmem => h (List.mem_cons_of_mem _ hmem))

/-- The first piece is where the text starts. -/
theorem prefix_of_splitOn_eq_cons {sep : α} {s piece : List α} {pieces : List (List α)}
    (h : splitOn sep s = piece :: pieces) : piece <+: s := by
  induction s generalizing piece pieces with
  | nil =>
      obtain ⟨rfl, -⟩ := List.cons.inj h
      exact List.nil_prefix
  | cons c rest ih =>
      by_cases hc : c = sep
      · rw [splitOn, if_pos hc] at h
        obtain ⟨rfl, -⟩ := List.cons.inj h
        exact List.nil_prefix
      · obtain ⟨next, more, hsplit⟩ := List.exists_cons_of_ne_nil (splitOn_ne_nil sep rest)
        rw [splitOn_cons_of_ne hc hsplit] at h
        obtain ⟨rfl, -⟩ := List.cons.inj h
        exact List.cons_prefix_cons.mpr ⟨rfl, ih hsplit⟩

/-- Pieces that are joined by a separator are cut again. -/
theorem splitOn_intercalate {sep : α} {pieces : List (List α)} (hne : pieces ≠ [])
    (h : ∀ piece ∈ pieces, sep ∉ piece) : splitOn sep (List.intercalate [sep] pieces) = pieces := by
  induction pieces with
  | nil => exact absurd rfl hne
  | cons piece rest ih =>
      have hpiece := h piece List.mem_cons_self
      cases rest with
      | nil => rw [List.intercalate_singleton, splitOn_of_not_mem hpiece]
      | cons next more =>
          rw [List.intercalate_cons_cons, List.append_assoc, List.singleton_append,
            splitOn_append_cons hpiece, ih (List.cons_ne_nil _ _)]
          exact fun other hother => h other (List.mem_cons_of_mem _ hother)

/-- What has no separator comes before the first one. -/
theorem cutAt_append_of_not_mem {sep : α} {start : List α} (h : sep ∉ start) (s : List α) :
    cutAt sep (start ++ s) = (start ++ (cutAt sep s).1, (cutAt sep s).2) := by
  induction start with
  | nil => rfl
  | cons c rest ih =>
      have hc : c ≠ sep := fun heq => h (heq ▸ List.mem_cons_self)
      rw [List.cons_append, cutAt, if_neg hc, ih fun hmem => h (List.mem_cons_of_mem _ hmem)]
      rfl

/-- Without a separator everything comes before it. -/
theorem cutAt_of_not_mem {sep : α} {s : List α} (h : sep ∉ s) : cutAt sep s = (s, none) := by
  have hcut := cutAt_append_of_not_mem h []
  rwa [cutAt, List.append_nil] at hcut

/-- What comes before the separator has none. -/
theorem not_mem_cutAt (sep : α) (s : List α) : sep ∉ (cutAt sep s).1 := by
  induction s with
  | nil => exact List.not_mem_nil
  | cons c rest ih =>
      rw [cutAt]
      split_ifs with hc
      · exact List.not_mem_nil
      · rw [List.mem_cons, not_or]
        exact ⟨fun heq => hc heq.symm, ih⟩

/-- What comes before the separator, and the separator with what follows it, are the text. -/
theorem append_cutAt (sep : α) (s : List α) :
    (cutAt sep s).1 ++ (cutAt sep s).2.elim [] (sep :: ·) = s := by
  induction s with
  | nil => rfl
  | cons c rest ih =>
      rw [cutAt]
      split_ifs with hc
      · rw [hc]
        rfl
      · exact congrArg (c :: ·) ih

/-- A piece consists of symbols of the text, without the separator. -/
theorem mem_of_mem_splitOn {sep c : α} {s piece : List α} (hpiece : piece ∈ splitOn sep s)
    (hc : c ∈ piece) : c ∈ s ∧ c ≠ sep := by
  induction s generalizing piece with
  | nil =>
      obtain rfl := List.mem_singleton.mp hpiece
      cases hc
  | cons first rest ih =>
      rw [splitOn] at hpiece
      split_ifs at hpiece with hsep
      · rcases List.mem_cons.mp hpiece with rfl | hpiece
        · cases hc
        · exact (ih hpiece hc).imp (List.mem_cons_of_mem _) id
      · obtain ⟨next, more, hsplit⟩ := List.exists_cons_of_ne_nil (splitOn_ne_nil sep rest)
        simp only [hsplit] at hpiece ih
        rcases List.mem_cons.mp hpiece with rfl | hpiece
        · rcases List.mem_cons.mp hc with rfl | hc
          · exact ⟨List.mem_cons_self, hsep⟩
          · exact (ih List.mem_cons_self hc).imp (List.mem_cons_of_mem _) id
        · exact (ih (List.mem_cons_of_mem _ hpiece) hc).imp (List.mem_cons_of_mem _) id

/-- There is one piece more than there are separators. -/
theorem length_splitOn (sep : α) (s : List α) : (splitOn sep s).length = s.count sep + 1 := by
  induction s with
  | nil => rfl
  | cons c rest ih =>
      by_cases hc : c = sep
      · rw [splitOn, if_pos hc, List.length_cons, ih, hc, List.count_cons_self]
      · obtain ⟨piece, pieces, hsplit⟩ := List.exists_cons_of_ne_nil (splitOn_ne_nil sep rest)
        rw [splitOn_cons_of_ne hc hsplit, List.count_cons_of_ne (by simpa using hc), ← ih, hsplit]
        rfl

/-- What does not start with a separator does not start with an empty piece. -/
theorem head?_splitOn_ne {sep : α} {s : List α} (hne : s ≠ []) (h : s.head? ≠ some sep) :
    (splitOn sep s).head? ≠ some [] := by
  cases s with
  | nil => exact absurd rfl hne
  | cons c rest =>
      have hc : c ≠ sep := fun heq => h (heq ▸ rfl)
      rw [splitOn, if_neg hc]
      split <;> simp

/-- What does not end with a separator does not end with an empty piece. -/
theorem getLast?_splitOn_ne {sep : α} {s : List α} (hne : s ≠ []) (h : s.getLast? ≠ some sep) :
    (splitOn sep s).getLast? ≠ some [] := by
  induction s with
  | nil => exact absurd rfl hne
  | cons c rest ih =>
      by_cases hrest : rest = []
      · subst hrest
        have hc : c ≠ sep := fun heq => h (heq ▸ rfl)
        rw [splitOn, if_neg hc]
        simp [splitOn]
      · have hlast : rest.getLast? ≠ some sep := by
          intro heq
          apply h
          rw [List.getLast?_cons, heq]
          rfl
        have hpieces := ih hrest hlast
        obtain ⟨piece, pieces, hsplit⟩ := List.exists_cons_of_ne_nil (splitOn_ne_nil sep rest)
        rw [splitOn]
        split
        · rw [hsplit, List.getLast?_cons_cons, ← hsplit]
          exact hpieces
        · rw [hsplit] at hpieces ⊢
          cases pieces with
          | nil => simp
          | cons next more =>
              rw [List.getLast?_cons_cons] at hpieces ⊢
              exact hpieces

/-! ## Finding -/

/-- A needle occurs where it stands between other symbols. -/
theorem occursIn_iff {needle s : List α} : occursIn needle s = true ↔ needle <:+: s := by
  induction s with
  | nil => simp [occursIn]
  | cons c rest ih =>
      rw [occursIn, Bool.or_eq_true, List.isPrefixOf_iff_prefix, ih, List.infix_cons_iff]

/-- A piece stands in the text. -/
theorem infix_of_mem_splitOn {sep : α} {s piece : List α} (h : piece ∈ splitOn sep s) :
    piece <:+: s := by
  induction s generalizing piece with
  | nil =>
      obtain rfl := List.mem_singleton.mp h
      exact List.infix_refl _
  | cons c rest ih =>
      by_cases hc : c = sep
      · rw [splitOn, if_pos hc] at h
        rcases List.mem_cons.mp h with rfl | hpiece
        · exact List.nil_infix
        · exact List.infix_cons (ih hpiece)
      · obtain ⟨first, more, hsplit⟩ := List.exists_cons_of_ne_nil (splitOn_ne_nil sep rest)
        rw [splitOn_cons_of_ne hc hsplit] at h
        rcases List.mem_cons.mp h with rfl | hpiece
        · exact (List.cons_prefix_cons.mpr ⟨rfl, prefix_of_splitOn_eq_cons hsplit⟩).isInfix
        · exact List.infix_cons (ih (hsplit ▸ List.mem_cons_of_mem _ hpiece))

/-- What comes before a text leaves its pieces, or adds to the first of them. -/
theorem exists_infix_splitOn_append {sep : α} (start : List α) {s piece : List α}
    (h : piece ∈ splitOn sep s) : ∃ longer ∈ splitOn sep (start ++ s), piece <:+: longer := by
  induction start with
  | nil => exact ⟨piece, h, List.infix_refl _⟩
  | cons c rest ih =>
      obtain ⟨longer, hlonger, hinfix⟩ := ih
      by_cases hc : c = sep
      · refine ⟨longer, ?_, hinfix⟩
        rw [List.cons_append, splitOn, if_pos hc]
        exact List.mem_cons_of_mem _ hlonger
      · obtain ⟨first, more, hsplit⟩ :=
          List.exists_cons_of_ne_nil (splitOn_ne_nil sep (rest ++ s))
        rw [List.cons_append, splitOn_cons_of_ne hc hsplit]
        rw [hsplit] at hlonger
        rcases List.mem_cons.mp hlonger with rfl | hmore
        · exact ⟨c :: longer, List.mem_cons_self, List.infix_cons hinfix⟩
        · exact ⟨longer, List.mem_cons_of_mem _ hmore, hinfix⟩

/-- A needle without separators stands in the text exactly if it stands in one of its pieces. -/
theorem infix_splitOn_iff {sep : α} {needle s : List α} (h : sep ∉ needle) :
    needle <:+: s ↔ ∃ piece ∈ splitOn sep s, needle <:+: piece := by
  constructor
  · rintro ⟨before, after, rfl⟩
    obtain ⟨first, more, hsplit⟩ := List.exists_cons_of_ne_nil (splitOn_ne_nil sep after)
    have hpieces := splitOn_append_of_not_mem h hsplit
    obtain ⟨piece, hpiece, hinfix⟩ :=
      exists_infix_splitOn_append before (hpieces ▸ List.mem_cons_self)
    refine ⟨piece, by rwa [List.append_assoc], ?_⟩
    exact (List.prefix_append needle first).isInfix.trans hinfix
  · rintro ⟨piece, hpiece, hinfix⟩
    exact hinfix.trans (infix_of_mem_splitOn hpiece)

/-- A needle that does not start with what is dropped stands in what is left. -/
theorem infix_dropWhile_iff {β : Type} {p : β → Bool} {c : β} {needle s : List β}
    (h : p c = false) : c :: needle <:+: s.dropWhile p ↔ c :: needle <:+: s := by
  induction s with
  | nil => exact Iff.rfl
  | cons first rest ih =>
      by_cases hfirst : p first = true
      · rw [List.dropWhile_cons_of_pos hfirst, ih, List.infix_cons_iff]
        constructor
        · exact .inr
        · rintro (hstarts | hinfix)
          · obtain ⟨rfl, -⟩ := List.cons_prefix_cons.mp hstarts
            rw [hfirst] at h
            cases h
          · exact hinfix
      · rw [List.dropWhile_cons_of_neg hfirst]

/-- What comes after the first symbols with a property. -/
theorem drop_length_takeWhile {β : Type} (p : β → Bool) (s : List β) :
    s.drop (s.takeWhile p).length = s.dropWhile p := by
  induction s with
  | nil => rfl
  | cons c rest ih =>
      cases hc : p c with
      | true => rw [List.takeWhile_cons_of_pos hc, List.dropWhile_cons_of_pos hc, List.length_cons,
          List.drop_succ_cons, ih]
      | false =>
          rw [List.takeWhile_cons_of_neg (by simp [hc]), List.dropWhile_cons_of_neg (by simp [hc])]
          rfl

/-! ## Before the first and behind the last -/

/-- What comes before a symbol does not hold it. -/
theorem not_mem_takeWhile_ne (sep : α) (s : List α) : sep ∉ s.takeWhile (· ≠ sep) := by
  intro hmem
  have hne := List.all_eq_true.mp List.all_takeWhile sep hmem
  simp at hne

/-- What does not hold a symbol comes before it. -/
theorem takeWhile_append_of_not_mem {sep : α} {start : List α} (h : sep ∉ start) (s : List α) :
    (start ++ s).takeWhile (· ≠ sep) = start ++ s.takeWhile (· ≠ sep) := by
  apply List.takeWhile_append_of_pos
  intro c hc
  have hne : c ≠ sep := fun heq => h (heq ▸ hc)
  exact decide_eq_true hne

theorem takeWhile_of_not_mem {sep : α} {s : List α} (h : sep ∉ s) :
    s.takeWhile (· ≠ sep) = s := by
  have hnil := takeWhile_append_of_not_mem h []
  rwa [List.append_nil, List.takeWhile_nil, List.append_nil] at hnil

theorem takeWhile_append_cons {sep : α} {start : List α} (h : sep ∉ start) (rest : List α) :
    (start ++ sep :: rest).takeWhile (· ≠ sep) = start := by
  rw [takeWhile_append_of_not_mem h, List.takeWhile_cons_of_neg (by simp), List.append_nil]

/-- A text is what it has before a symbol, and what starts with the symbol. -/
theorem exists_takeWhile_ne (sep : α) (s : List α) :
    ∃ after, s = s.takeWhile (· ≠ sep) ++ after ∧ (after = [] ∨ ∃ rest, after = sep :: rest) := by
  refine ⟨s.dropWhile (· ≠ sep), List.takeWhile_append_dropWhile.symm, ?_⟩
  cases hrest : s.dropWhile (· ≠ sep) with
  | nil => exact .inl rfl
  | cons c rest =>
      have hhead := List.head?_dropWhile_not (fun c => decide (c ≠ sep)) s
      rw [hrest] at hhead
      obtain rfl : c = sep := by simpa using hhead
      exact .inr ⟨rest, rfl⟩

/-- What comes behind the last occurrence of a symbol. -/
def behindLast (sep : α) (s : List α) : List α :=
  (s.reverse.takeWhile (· ≠ sep)).reverse

theorem not_mem_behindLast (sep : α) (s : List α) : sep ∉ behindLast sep s := by
  intro hmem
  exact not_mem_takeWhile_ne sep s.reverse (List.mem_reverse.mp hmem)

/-- A text is what it has up to the last occurrence, and what comes behind. -/
theorem exists_behindLast (sep : α) (s : List α) :
    ∃ start, s = start ++ behindLast sep s ∧ (start = [] ∨ ∃ before, start = before ++ [sep]) := by
  obtain ⟨after, hsplit, hafter⟩ := exists_takeWhile_ne sep s.reverse
  refine ⟨after.reverse, ?_, ?_⟩
  · rw [behindLast, ← List.reverse_append, ← hsplit, List.reverse_reverse]
  · rcases hafter with rfl | ⟨rest, rfl⟩
    · exact .inl rfl
    · exact .inr ⟨rest.reverse, List.reverse_cons⟩

theorem behindLast_of_not_mem {sep : α} {s : List α} (h : sep ∉ s) : behindLast sep s = s := by
  have hreverse : sep ∉ s.reverse := fun hmem => h (List.mem_reverse.mp hmem)
  unfold behindLast
  rw [takeWhile_of_not_mem hreverse, List.reverse_reverse]

/-- What comes behind an occurrence with no other behind it. -/
theorem behindLast_append_cons {sep : α} (start : List α) {s : List α} (h : sep ∉ s) :
    behindLast sep (start ++ sep :: s) = s := by
  have hreverse : sep ∉ s.reverse := fun hmem => h (List.mem_reverse.mp hmem)
  unfold behindLast
  rw [List.reverse_append, List.reverse_cons, List.append_assoc, List.singleton_append,
    takeWhile_append_cons hreverse, List.reverse_reverse]

/-! ## Trimming -/

/-- Dropping a symbol leaves something that does not start with it. -/
theorem head?_dropWhile_ne (c : α) (s : List α) :
    (s.dropWhile (· = c)).head? ≠ some c := by
  intro h
  have hnot := List.head?_dropWhile_not (fun x => decide (x = c)) s
  rw [h] at hnot
  simp at hnot

/-- Where nothing is to be dropped, nothing is. -/
theorem dropWhile_of_head?_ne {c : α} {s : List α} (h : s.head? ≠ some c) :
    s.dropWhile (· = c) = s := by
  cases s with
  | nil => rfl
  | cons first rest =>
      have hfirst : first ≠ c := fun heq => h (heq ▸ rfl)
      rw [List.dropWhile_cons_of_neg (by simpa using hfirst)]

/-- A text that does not end with a symbol is what trimming its end leaves of it. -/
theorem trimEnd_of_getLast?_ne {c : α} {s : List α} (h : s.getLast? ≠ some c) :
    trimEnd c s = s := by
  have hhead : s.reverse.head? ≠ some c := by rwa [List.head?_reverse]
  unfold trimEnd
  rw [dropWhile_of_head?_ne hhead, List.reverse_reverse]

/-- A text that neither starts nor ends with a symbol is what trimming leaves of it. -/
theorem trimEnds_cons {c : α} {s : List α} (hhead : s.head? ≠ some c)
    (hlast : s.getLast? ≠ some c) : trimEnds c (c :: s) = s := by
  unfold trimEnds
  rw [List.dropWhile_cons_of_pos (by simp), dropWhile_of_head?_ne hhead,
    trimEnd_of_getLast?_ne hlast]

/-- Trimming the end of a text leaves every other symbol. -/
theorem mem_trimEnd_or_eq {sep c : α} {s : List α} (h : c ∈ s) : c ∈ trimEnd sep s ∨ c = sep := by
  unfold trimEnd
  rw [List.mem_reverse]
  have hsplit : c ∈ s.reverse.takeWhile (· = sep) ++ s.reverse.dropWhile (· = sep) := by
    rwa [List.takeWhile_append_dropWhile, List.mem_reverse]
  rcases List.mem_append.mp hsplit with htrimmed | hleft
  · exact .inr (of_decide_eq_true (List.all_eq_true.mp List.all_takeWhile c htrimmed))
  · exact .inl hleft

/-- What is left after trimming was there before. -/
theorem mem_of_mem_trimEnds {sep c : α} {s : List α} (h : c ∈ trimEnds sep s) : c ∈ s := by
  unfold trimEnds trimEnd at h
  have hinner := (List.dropWhile_sublist _).subset (List.mem_reverse.mp h)
  exact (List.dropWhile_sublist _).subset (List.mem_reverse.mp hinner)

/-- What is left after trimming does not end with the symbol. -/
theorem getLast?_trimEnds_ne (c : α) (s : List α) : (trimEnds c s).getLast? ≠ some c := by
  unfold trimEnds trimEnd
  rw [List.getLast?_reverse]
  exact head?_dropWhile_ne c _

/-- What is left after trimming does not start with the symbol. -/
theorem head?_trimEnds_ne (c : α) (s : List α) : (trimEnds c s).head? ≠ some c := by
  intro h
  -- What is left is a prefix of what is left after trimming the start.
  have hsuffix := List.dropWhile_suffix (fun x => decide (x = c))
    (l := (s.dropWhile (· = c)).reverse)
  have hprefix : trimEnds c s <+: s.dropWhile (· = c) := by
    rw [← List.reverse_suffix]
    simpa [trimEnds, trimEnd] using hsuffix
  obtain ⟨rest, hrest⟩ := hprefix
  apply head?_dropWhile_ne c s
  rw [← hrest, List.head?_append, h]
  rfl

end Hypermedia.Text
