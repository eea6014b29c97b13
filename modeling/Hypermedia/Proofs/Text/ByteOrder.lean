import Mathlib.Data.List.Basic
import Hypermedia.Proofs.Text.Utf8

/-!
# The order of characters is the order of bytes

Texts are compared by their characters. Comparing the bytes of their UTF-8 encoding gives the same
order, because the first bytes in which two characters differ are ordered like the characters.

* `Utf8.encodeChar_append_lt` compares two characters, whatever follows them.
* `Bytes.ofString_lt_iff` compares texts.
-/

namespace Hypermedia

namespace Utf8

/-- The digits of a number to the base 64. -/
theorem exists_digits (n : Nat) : ∃ high third second first,
    n = ((high * 64 + third) * 64 + second) * 64 + first ∧ n / 262144 = high ∧
      n / 4096 % 64 = third ∧ n / 64 % 64 = second ∧ n % 64 = first ∧
      third < 64 ∧ second < 64 ∧ first < 64 := by
  refine ⟨n / 262144, n / 4096 % 64, n / 64 % 64, n % 64, ?_, rfl, rfl, rfl, rfl, ?_, ?_, ?_⟩
  all_goals omega

/-- Two characters are ordered like their bytes, whatever follows. -/
theorem encodeChar_append_lt {c d : Char} (h : c < d) (rest more : Bytes) :
    String.utf8EncodeChar c ++ rest < String.utf8EncodeChar d ++ more := by
  have hlt : c.val.toNat < d.val.toNat := UInt32.lt_iff_toNat_lt.mp h
  have hmax : d.val.toNat < 0x110000 := by
    have hvalid : d.val.toNat < 0xD800 ∨ 0xDFFF < d.val.toNat ∧ d.val.toNat < 0x110000 := d.valid
    omega
  unfold String.utf8EncodeChar
  generalize c.val.toNat = m at hlt
  generalize d.val.toNat = n at hlt hmax
  obtain ⟨m₃, m₂, m₁, m₀, hm, hm₃, hm₂, hm₁, hm₀, hlt₂, hlt₁, hlt₀⟩ := exists_digits m
  obtain ⟨n₃, n₂, n₁, n₀, hn, hn₃, hn₂, hn₁, hn₀, hlt₂', hlt₁', hlt₀'⟩ := exists_digits n
  dsimp only
  rw [hm₃, hm₂, hm₁, hm₀, hn₃, hn₂, hn₁, hn₀]
  split_ifs <;>
    simp only [List.cons_append, List.nil_append, List.cons_lt_cons_iff, UInt8.lt_iff_toNat_lt,
      ← UInt8.toNat_inj, UInt8.toNat_ofNat'] <;>
    clear hm₃ hm₂ hm₁ hm₀ hn₃ hn₂ hn₁ hn₀ <;>
    omega

/-- What comes before in the order of characters comes before in the order of bytes. -/
theorem encode_lt_of_lt {s t : List Char} (h : s < t) : encode s < encode t := by
  have hlex : List.Lex (· < ·) s t := h
  unfold encode
  induction hlex with
  | @nil c rest =>
      obtain ⟨byte, more, hbytes⟩ := List.exists_cons_of_ne_nil (encodeChar_ne_nil c)
      rw [List.flatMap_nil, List.flatMap_cons, hbytes]
      exact List.Lex.nil
  | rel hchar =>
      rw [List.flatMap_cons, List.flatMap_cons]
      exact encodeChar_append_lt hchar _ _
  | cons hrest ih =>
      rw [List.flatMap_cons, List.flatMap_cons]
      exact List.append_left_lt (ih hrest)

end Utf8

/-- Texts are ordered like their bytes. -/
theorem Bytes.ofString_lt_iff (a b : String) : Bytes.ofString a < Bytes.ofString b ↔ a < b := by
  have hmono : ∀ {s t : String}, s < t → Bytes.ofString s < Bytes.ofString t :=
    fun hlt => Utf8.encode_lt_of_lt (String.lt_iff.mp hlt)
  refine ⟨fun hbytes => ?_, hmono⟩
  refine Decidable.byContradiction fun hnot => ?_
  by_cases hgt : b < a
  · exact List.lt_asymm (hmono hgt) hbytes
  · have heq : a = b := String.le_antisymm (String.not_lt.mp hgt) (String.not_lt.mp hnot)
    subst heq
    exact List.lt_irrefl _ hbytes

end Hypermedia
