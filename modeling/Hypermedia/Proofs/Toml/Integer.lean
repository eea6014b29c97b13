import Mathlib.Data.Nat.Digits.Defs
import Hypermedia.Toml.Number
import Hypermedia.Proofs.Text.Decimal

/-!
# Reading integers in TOML

An integer in decimal digits at the end of a line. Reading a value tries dates, times, numbers with a
point and the names of special numbers before it, so each of these has to fail.

* `Toml.integerOf?_natAbs` says which integers there are: those of 64 bits.
* `Toml.number?_integerText` says that the text of an integer is read as the integer, and refused if it
  has more bits.
-/

namespace Hypermedia.Toml

variable {digits rest : List Char}

/-! ## Digits -/

/-- The number that decimal digits write. -/
theorem natOf_ten (hdigits : digits.all Char.isDigit = true) :
    natOf 10 digits = Nat.ofDigitChars 10 digits 0 := by
  rw [← Text.foldl_digits, natOf]
  apply List.foldl_ext
  intro n c hc
  have hdigit := List.all_eq_true.mp hdigits c hc
  rw [Char.isDigit_iff_toNat] at hdigit
  have hle : '0' ≤ c ∧ c ≤ '9' := hdigit
  simp [Text.hexDigit?, hle]

/-- Further digits are read up to the end of the line. -/
theorem go_append (found : List Char) (hdigits : digits.all Char.isDigit = true) :
    digits?.go Char.isDigit found (digits ++ '\n' :: rest) = some (found ++ digits, '\n' :: rest) := by
  induction digits generalizing found with
  | nil => simp [digits?.go]
  | cons c digits ih =>
      rw [List.all_cons, Bool.and_eq_true] at hdigits
      have hmark : c ≠ '_' := by
        rintro rfl
        cases hdigits.1
      rw [List.cons_append, digits?.go.eq_def]
      split
      · next heq => cases heq
      · next heq => exact absurd (List.cons.inj heq).1 hmark
      · next heq =>
        obtain ⟨rfl, rfl⟩ := List.cons.inj heq
        rw [if_neg hmark, if_pos hdigits.1, ih _ hdigits.2]
        simp

/-- The digits of a number are read up to the end of the line. -/
theorem digits?_toDigits (n : Nat) :
    digits? Char.isDigit (Nat.toDigits 10 n ++ '\n' :: rest) =
      some (Nat.toDigits 10 n, '\n' :: rest) := by
  have hdigits := Text.all_isDigit_toDigits n
  obtain ⟨c, more, hwritten, hc⟩ := Text.exists_toDigits n
  rw [hwritten, List.all_cons, Bool.and_eq_true] at hdigits
  rw [hwritten, List.cons_append, digits?, if_pos hc, go_append [c] hdigits.2]
  rfl

/-- The digits of a number are a decimal integer. -/
theorem whole?_toDigits (n : Nat) :
    whole? (Nat.toDigits 10 n ++ '\n' :: rest) = some (Nat.toDigits 10 n, '\n' :: rest) := by
  by_cases hn : n = 0
  · rw [hn, Nat.toDigits_zero]
    rfl
  · rw [whole?.eq_def]
    split
    · next heq =>
      have hhead := congrArg List.head? heq
      rw [List.head?_append_of_ne_nil _ Nat.toDigits_ne_nil] at hhead
      exact absurd hhead (Text.head?_toDigits hn)
    · exact digits?_toDigits n

/-! ## What does not start with a date or a time -/

/-- A field ends at a digit or at the end of the line. -/
theorem mark?_of_field? (hdigits : digits.all Char.isDigit = true) {c : Char}
    (hc : c.isDigit = false) (hline : c ≠ '\n') {length low high n : Nat} {after : List Char}
    (hfield : field? length low high (digits ++ '\n' :: rest) = some (n, after)) :
    mark? c after = none := by
  unfold field? at hfield
  dsimp only at hfield
  split_ifs at hfield with hvalid
  simp only [Bool.and_eq_true, decide_eq_true_eq] at hvalid
  obtain ⟨-, rfl⟩ := Prod.mk.inj (Option.some.inj hfield)
  obtain ⟨⟨⟨hlength, hall⟩, -⟩, -⟩ := hvalid
  have hle : length ≤ digits.length := by
    by_contra hlt
    have hmem : '\n' ∈ (digits ++ '\n' :: rest).take length := by
      rw [List.take_append, List.mem_append]
      right
      obtain ⟨k, hk⟩ : ∃ k, length - digits.length = k + 1 :=
        ⟨length - digits.length - 1, by omega⟩
      rw [hk]
      exact List.mem_cons_self
    cases List.all_eq_true.mp hall '\n' hmem
  rw [List.drop_append_of_le_length hle]
  cases hdrop : digits.drop length with
  | nil => exact if_neg hline
  | cons d more =>
      have hmem : d ∈ digits := List.mem_of_mem_drop (hdrop ▸ List.mem_cons_self)
      have hd := List.all_eq_true.mp hdigits d hmem
      refine if_neg ?_
      rintro rfl
      rw [hc] at hd
      cases hd

/-- Digits alone are no date and no time. -/
theorem moment?_digits (hdigits : digits.all Char.isDigit = true) :
    moment? (digits ++ '\n' :: rest) = none := by
  have hdate : date? (digits ++ '\n' :: rest) = none := by
    unfold date?
    cases hfield : field? 4 0 9999 (digits ++ '\n' :: rest) with
    | none => rfl
    | some found =>
        have hmark := mark?_of_field? hdigits (c := '-') rfl (by decide) hfield
        simp [hmark]
  have htime : time? (digits ++ '\n' :: rest) = none := by
    unfold time?
    cases hfield : field? 2 0 23 (digits ++ '\n' :: rest) with
    | none => rfl
    | some found =>
        have hmark := mark?_of_field? hdigits (c := ':') rfl (by decide) hfield
        simp [hmark]
  simp [moment?, dateAndTime?, hdate, htime]

/-- A sign starts no date and no time. -/
theorem moment?_minus (s : List Char) : moment? ('-' :: s) = none := by
  have hfield : ∀ length low high, field? (length + 1) low high ('-' :: s) = none := by
    intro length low high
    simp [field?, List.take_succ_cons]
  have hdate : date? ('-' :: s) = none := by
    simp [date?, hfield]
  have htime : time? ('-' :: s) = none := by
    simp [time?, hfield]
  simp [moment?, dateAndTime?, hdate, htime]

/-! ## Integers -/

/-- The integers there are: those of 64 bits. -/
theorem integerOf?_natAbs (n : Int) :
    integerOf? (n < 0) n.natAbs =
      if -(2 : Int) ^ 63 ≤ n ∧ n < (2 : Int) ^ 63 then some (.integer n) else none := by
  unfold integerOf?
  by_cases hn : n < 0
  · have habs : -(n.natAbs : Int) = n := by omega
    simp only [hn, decide_true, if_true, habs]
    congr 1
    apply propext
    norm_num
    omega
  · have habs : (n.natAbs : Int) = n := by omega
    simp only [hn, decide_false, Bool.false_eq_true, if_false, habs]
    congr 1
    apply propext
    norm_num
    omega

/-- The decimal text of an integer. -/
def integerText (n : Int) : List Char :=
  (toString n).toList

theorem integerText_ofNat (n : Nat) : integerText n = Nat.toDigits 10 n :=
  Nat.toList_repr

theorem integerText_negSucc (n : Nat) :
    integerText (.negSucc n) = '-' :: Nat.toDigits 10 (n + 1) := by
  rw [integerText, Int.toString_eq_repr]
  exact (String.toList_append ..).trans (congrArg ('-' :: ·) Nat.toList_repr)

/-- The text of an integer starts with a minus or a digit. -/
theorem exists_integerText (n : Int) :
    ∃ c more, integerText n = c :: more ∧ (c = '-' ∨ c.isDigit = true) := by
  cases n with
  | ofNat m =>
      obtain ⟨c, more, hdigits, hc⟩ := Text.exists_toDigits m
      exact ⟨c, more, (integerText_ofNat m).trans hdigits, .inr hc⟩
  | negSucc m => exact ⟨'-', _, integerText_negSucc m, .inl rfl⟩

/-- The text of an integer: a minus if it is negative, and the digits of its amount. -/
theorem sign_integerText (n : Int) (rest : List Char) :
    sign (integerText n ++ rest) = (decide (n < 0), Nat.toDigits 10 n.natAbs ++ rest) := by
  cases n with
  | ofNat m =>
      rw [Int.ofNat_eq_natCast, integerText_ofNat, sign.eq_def]
      split
      · next heq => exact absurd heq (Text.toDigits_append_ne_cons m rest rfl _)
      · next heq => exact absurd heq (Text.toDigits_append_ne_cons m rest rfl _)
      · simp
  | negSucc m => simp [integerText_negSucc, sign, Int.negSucc_lt_zero]

/-- The text of an integer is no date and no time. -/
theorem moment?_integerText (n : Int) : moment? (integerText n ++ '\n' :: rest) = none := by
  cases n with
  | ofNat m =>
      rw [Int.ofNat_eq_natCast, integerText_ofNat]
      exact moment?_digits (Text.all_isDigit_toDigits m)
  | negSucc m =>
      rw [integerText_negSucc]
      exact moment?_minus _

/-- The text of an integer has no point and no exponent. -/
theorem decimal?_integerText (n : Int) : decimal? (integerText n ++ '\n' :: rest) = none := by
  simp [decimal?, sign_integerText, whole?_toDigits, fraction?, exponent?]

/-- The text of an integer is no name of a special number. -/
theorem special?_integerText (n : Int) : special? (integerText n ++ '\n' :: rest) = none := by
  rw [special?, sign_integerText]
  dsimp only
  split
  · next heq => exact absurd heq (Text.toDigits_append_ne_cons _ _ rfl _)
  · next heq => exact absurd heq (Text.toDigits_append_ne_cons _ _ rfl _)
  · rfl

/-- A zero is followed by the end of the line only, so nothing looks like a base. -/
theorem integerText_ne_zero_cons (n : Int) {c : Char} (hc : c ≠ '\n') (more : List Char) :
    integerText n ++ '\n' :: rest ≠ '0' :: c :: more := by
  intro heq
  have hsign := sign_integerText n ('\n' :: rest)
  rw [heq] at hsign
  have hdigits := (Prod.mk.inj hsign).2
  by_cases hn : n.natAbs = 0
  · rw [hn, Nat.toDigits_zero] at hdigits
    exact hc (List.cons.inj (List.cons.inj hdigits).2).1
  · have hhead := congrArg List.head? hdigits
    rw [List.head?_append_of_ne_nil _ Nat.toDigits_ne_nil] at hhead
    exact Text.head?_toDigits hn hhead.symm

/-- The text of an integer is read as the integer. -/
theorem integer?_integerText (n : Int) :
    integer? (integerText n ++ '\n' :: rest) =
      (integerOf? (n < 0) n.natAbs).map (·, '\n' :: rest) := by
  rw [integer?.eq_def]
  dsimp only
  split
  · next heq => exact absurd heq (integerText_ne_zero_cons n (by decide) _)
  · next heq => exact absurd heq (integerText_ne_zero_cons n (by decide) _)
  · next heq => exact absurd heq (integerText_ne_zero_cons n (by decide) _)
  · simp only [sign_integerText, whole?_toDigits, Option.bind_eq_bind, Option.bind_some,
      natOf_ten (Text.all_isDigit_toDigits _), Nat.ofDigitChars_ten_toDigits]
    exact Option.map_eq_bind.symm

/-- The text of an integer is read as the integer, and refused if that has more than 64 bits. -/
theorem number?_integerText (n : Int) (rest : List Char) :
    number? (integerText n ++ '\n' :: rest) =
      (integerOf? (n < 0) n.natAbs).map (·, '\n' :: rest) := by
  rw [number?, moment?_integerText, decimal?_integerText, special?_integerText,
    integer?_integerText]
  rfl

end Hypermedia.Toml
