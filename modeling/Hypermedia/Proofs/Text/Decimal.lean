import Mathlib.Data.List.Basic
import Hypermedia.Text.Pieces

/-!
# Decimal digits

Numbers are read by adding up their digits.

* `Text.foldl_digits` says that what readers add up is the number that the digits write.
* `Text.head?_toDigits` says that a number is written without leading zeros.
-/

namespace Hypermedia.Text

/-- What readers add up is the number that the digits write. -/
theorem foldl_digits (digits : List Char) :
    digits.foldl (fun n c => n * 10 + (c.toNat - '0'.toNat)) 0 = Nat.ofDigitChars 10 digits 0 := by
  rw [Nat.ofDigitChars_eq_foldl]
  congr 1
  funext n c
  rw [Nat.mul_comm]

theorem all_isDigit_toDigits (n : Nat) : (Nat.toDigits 10 n).all Char.isDigit = true :=
  List.all_eq_true.mpr fun _ => Nat.isDigit_of_mem_toDigits (by omega) (Nat.le_refl 10)

/-- A number has a first digit. -/
theorem exists_toDigits (n : Nat) :
    ∃ c more, Nat.toDigits 10 n = c :: more ∧ c.isDigit = true := by
  cases hdigits : Nat.toDigits 10 n with
  | nil => exact absurd hdigits Nat.toDigits_ne_nil
  | cons c more =>
      refine ⟨c, more, rfl, ?_⟩
      exact List.all_eq_true.mp (all_isDigit_toDigits n) c (hdigits ▸ List.mem_cons_self)

/-- A text that starts with a number starts with no other character than a digit. -/
theorem toDigits_append_ne_cons (n : Nat) (rest : List Char) {c : Char} (hc : c.isDigit = false)
    (more : List Char) : Nat.toDigits 10 n ++ rest ≠ c :: more := by
  intro heq
  obtain ⟨d, digits, hdigits, hd⟩ := exists_toDigits n
  rw [hdigits, List.cons_append] at heq
  rw [(List.cons.inj heq).1, hc] at hd
  cases hd

/-- A number other than zero is written without leading zeros. -/
theorem head?_toDigits {n : Nat} (hn : n ≠ 0) : (Nat.toDigits 10 n).head? ≠ some '0' := by
  induction n using Nat.strongRecOn with
  | ind n ih =>
      by_cases hlt : n < 10
      · intro hhead
        have hdigits := Nat.toDigits_of_lt_base hlt
        rw [hdigits] at hhead
        rw [Option.some.inj hhead] at hdigits
        have hread := Nat.ofDigitChars_ten_toDigits (n := n)
        rw [hdigits] at hread
        exact hn hread.symm
      · have hdiv : n / 10 ≠ 0 := by omega
        rw [Nat.toDigits_of_base_le (by omega) (by omega),
          List.head?_append_of_ne_nil _ Nat.toDigits_ne_nil]
        exact ih (n / 10) (by omega) hdiv

end Hypermedia.Text
