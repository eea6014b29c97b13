import Hypermedia.Proofs.Text.Printable
import Hypermedia.Url.Punycode

/-!
# Punycode may stand in a URL

* `Punycode.all_encode` says that what is written for a label may stand in a URL, if the ASCII
  characters of the label may.
* `Punycode.mem_or_isUrlChar_of_decode?` says where the characters of a text come from that can be
  read: they are in the label, or they may stand in a URL.
-/

namespace Hypermedia.Url.Punycode

/-! ## Digits -/

/-- A digit is written with a character that may stand in a URL. -/
theorem isUrlChar_digitChar {d : Nat} (h : d < 36) : isUrlChar (digitChar d) = true := by
  have hall : ∀ d < 36, isUrlChar (digitChar d) = true := by decide
  exact hall d h

/-- A character that is read as a digit may stand in a URL. -/
theorem isUrlChar_of_digit? {c : Char} {d : Nat} (h : digit? c = some d) : isUrlChar c = true := by
  apply isUrlChar_of_isAlphanum
  unfold digit? at h
  delta Char.isAlphanum Char.isAlpha Char.isUpper Char.isLower Char.isDigit
  simp only [Bool.and_eq_true, Bool.or_eq_true, decide_eq_true_eq, Char.le_def] at h ⊢
  split_ifs at h with hsmall hcapital hdecimal
  · exact .inl (.inr hsmall)
  · exact .inl (.inl hcapital)
  · exact .inr hdecimal

theorem threshold_pos (bias k : Nat) : 0 < threshold bias k := by
  unfold threshold
  split_ifs with h
  · decide
  · omega

theorem threshold_le (bias k : Nat) : threshold bias k ≤ 26 := by
  unfold threshold
  split_ifs
  · decide
  · exact Nat.min_le_left _ _

/-! ## Writing -/

/-- A difference is written with such characters. -/
theorem all_numberDigits (bias k n : Nat) :
    (numberDigits bias k n).all isUrlChar = true := by
  induction n using Nat.strongRecOn generalizing k with
  | ind n ih =>
      have hpos := threshold_pos bias k
      have hle := threshold_le bias k
      rw [numberDigits]
      split_ifs with hmore
      · have hlt : (n - threshold bias k) / (36 - threshold bias k) < n :=
          Nat.lt_of_le_of_lt (Nat.div_le_self _ _) (by omega)
        have hdigit : (n - threshold bias k) % (36 - threshold bias k) < 36 - threshold bias k :=
          Nat.mod_lt _ (by omega)
        rw [List.all_cons, ih _ hlt, isUrlChar_digitChar (by omega)]
        rfl
      · rw [List.all_cons, isUrlChar_digitChar (by omega)]
        rfl

/-- What has been written stays so when one character of the label is passed. -/
theorem Writer.all_pass {basic n : Nat} {w : Writer} {c : Char}
    (h : w.out.all isUrlChar = true) : (w.pass basic n c).out.all isUrlChar = true := by
  unfold pass
  split_ifs
  · exact h
  · rw [List.all_append, h, all_numberDigits]
    rfl
  · exact h

/-- The same of the characters of a label. -/
theorem Writer.all_foldl_pass {basic n : Nat} {w : Writer} {label : List Char}
    (h : w.out.all isUrlChar = true) :
    (label.foldl (pass basic n) w).out.all isUrlChar = true := by
  induction label generalizing w with
  | nil => exact h
  | cons c rest ih => exact ih (all_pass h)

/-- The same of all rounds. -/
theorem all_rounds {label : List Char} {basic next : Nat} {w : Writer} {numbers : List Nat}
    (h : w.out.all isUrlChar = true) :
    (rounds label basic w next numbers).out.all isUrlChar = true := by
  induction numbers generalizing w next with
  | nil => exact h
  | cons n rest ih => exact ih (Writer.all_foldl_pass h)

/-- A label is written with characters that may stand in a URL, if its ASCII characters may. -/
theorem all_encode {label : List Char}
    (h : ∀ c ∈ label, c.toNat < 0x80 → isUrlChar c = true) :
    (encode label).all isUrlChar = true := by
  have hbasic : (label.filter (·.toNat < 0x80)).all isUrlChar = true := by
    rw [List.all_eq_true]
    intro c hc
    obtain ⟨hmem, hascii⟩ := List.mem_filter.mp hc
    exact h c hmem (of_decide_eq_true hascii)
  refine all_rounds ?_
  dsimp only
  split_ifs
  · rfl
  · rw [List.all_append, hbasic]
    rfl

/-! ## Reading -/

/-- The characters of a difference that is read may stand in a URL. -/
theorem isUrlChar_of_number? {bias k weight n : Nat} {s rest : List Char} {v : Nat}
    (h : number? bias k weight n s = some (v, rest)) :
    ∀ c ∈ s, c ∈ rest ∨ isUrlChar c = true := by
  induction s generalizing k weight n with
  | nil =>
      intro c hc
      cases hc
  | cons first tail ih =>
      rw [number?] at h
      obtain ⟨d, hdigit, hrest⟩ := Option.bind_eq_some_iff.mp h
      intro c hc
      rcases List.mem_cons.mp hc with rfl | htail
      · exact .inr (isUrlChar_of_digit? hdigit)
      · dsimp only at hrest
        split_ifs at hrest
        · obtain ⟨-, rfl⟩ := Prod.mk.inj (Option.some.inj hrest)
          exact .inl htail
        · exact ih hrest c htail

/-- What is inserted into a label is read from such characters, and nothing of the label is lost. -/
theorem mem_of_insertAll {n i bias : Nat} {label s out : List Char}
    (h : insertAll n i bias label s = some out) :
    (∀ c ∈ label, c ∈ out) ∧ ∀ c ∈ s, isUrlChar c = true := by
  fun_induction insertAll n i bias label s with
  | case1 n i bias label s hempty =>
      rw [List.isEmpty_iff] at hempty
      exact ⟨fun c hc => Option.some.inj h ▸ hc, by simp [hempty]⟩
  | case2 => cases h
  | case3 n i bias label s hempty delta rest found hlt count n' place hvalid ih =>
      obtain ⟨hout, hrest⟩ := ih h
      refine ⟨fun c hc => hout c ?_, fun c hc => ?_⟩
      · rw [← List.take_append_drop place label] at hc
        rcases List.mem_append.mp hc with hbefore | hafter
        · exact List.mem_append_left _ hbefore
        · exact List.mem_append_right _ (List.mem_cons_of_mem _ hafter)
      · exact (isUrlChar_of_number? found c hc).elim (hrest c) id
  | case4 => cases h

/-- The last hyphen cuts a text into two parts. -/
theorem mem_cutLastHyphen {s : List Char} {c : Char} (hc : c ∈ s) :
    c ∈ (cutLastHyphen s).1 ∨ c = '-' ∨ c ∈ (cutLastHyphen s).2 := by
  unfold cutLastHyphen
  dsimp only
  split_ifs with hfront
  · exact .inr (.inr hc)
  · -- What stands before the tail ends with the hyphen.
    have hsplit : s = (s.reverse.dropWhile (· ≠ '-')).reverse ++
        (s.reverse.takeWhile (· ≠ '-')).reverse := by
      rw [← List.reverse_append, List.takeWhile_append_dropWhile, List.reverse_reverse]
    have hlength : s.length - (s.reverse.takeWhile (· ≠ '-')).length =
        (s.reverse.dropWhile (· ≠ '-')).reverse.length := by
      have hsum := congrArg List.length hsplit
      rw [List.length_append, List.length_reverse, List.length_reverse] at hsum
      rw [List.length_reverse]
      omega
    have htake : s.take (s.length - (s.reverse.takeWhile (· ≠ '-')).length) =
        (s.reverse.dropWhile (· ≠ '-')).reverse := by
      rw [hlength]
      exact (congrArg _ hsplit).trans List.take_left
    rw [htake]
    rw [hsplit, List.mem_append] at hc
    have hhead := List.head?_dropWhile_not (fun c => decide (c ≠ '-')) s.reverse
    cases hdrop : s.reverse.dropWhile (· ≠ '-') with
    | nil =>
        rw [hdrop] at hc
        exact .inr (.inr (hc.resolve_left List.not_mem_nil))
    | cons hyphen before =>
        rw [hdrop] at hc hhead
        rw [List.reverse_cons, List.dropLast_concat]
        rw [List.reverse_cons, List.mem_append, List.mem_singleton] at hc
        have hhyphen : hyphen = '-' := by simpa using hhead
        rcases hc with (hbefore | hlast) | htail
        · exact .inl hbefore
        · exact .inr (.inl (hlast.trans hhyphen))
        · exact .inr (.inr htail)

/-- The characters of a text that can be read are in the label, or they may stand in a URL. -/
theorem mem_or_isUrlChar_of_decode? {s label : List Char} (h : decode? s = some label) :
    ∀ c ∈ s, c ∈ label ∨ isUrlChar c = true := by
  unfold decode? at h
  dsimp only at h
  split_ifs at h
  obtain ⟨hbasic, hrest⟩ := mem_of_insertAll h
  intro c hc
  rcases mem_cutLastHyphen hc with hfront | rfl | htail
  · exact .inl (hbasic c hfront)
  · exact .inr rfl
  · exact .inr (hrest c htail)

end Hypermedia.Url.Punycode
