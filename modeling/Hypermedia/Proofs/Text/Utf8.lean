import Mathlib.Data.List.Basic
import Hypermedia.Proofs.Text.Pieces
import Hypermedia.Text.Utf8

/-!
# UTF-8 is read back

* `Utf8.units_one`, `Utf8.units_two`, `Utf8.units_three` and `Utf8.units_four` are the equations of
  reading for well-formed sequences of each length.
* `Utf8.units_encodeChar_append` says that the bytes of a character are read as that character,
  whatever follows; `Utf8.decodeLossy_encode` says the same of texts.
* `Utf8.splitOn_encode` and `Utf8.cutAt_encode` say that bytes may be cut at a character of ASCII
  instead of characters, because its byte occurs in no other character.
-/

namespace Hypermedia.Utf8

/-! ## Reading one sequence -/

theorem units_one {b : UInt8} (h : b.toNat < 0x80) (rest : Bytes) :
    units (b :: rest) = some (Char.ofNat b.toNat) :: units rest := by
  rw [units.eq_def]
  exact if_pos (UInt8.lt_iff_toNat_lt.mpr h)

theorem units_two {b c : UInt8} (hb : 0xC2 ≤ b.toNat ∧ b.toNat ≤ 0xDF)
    (hc : isContinuation c = true) (rest : Bytes) :
    units (b :: c :: rest) =
      some (Char.ofNat (b.toNat % 32 * 64 + payload c)) :: units rest := by
  have hone : ¬b < 0x80 := by
    simp only [UInt8.lt_iff_toNat_lt, UInt8.toNat_ofNat]
    omega
  have htwo : 0xC2 ≤ b ∧ b ≤ 0xDF := by simpa [UInt8.le_iff_toNat_le] using hb
  rw [units.eq_def]
  simp only [hone, htwo, hc, if_false, decide_true, Bool.and_self, if_true]

theorem units_three {b c d : UInt8} (hb : 0xE0 ≤ b.toNat ∧ b.toNat ≤ 0xEF)
    (hc : followsThree b c = true) (hd : isContinuation d = true) (rest : Bytes) :
    units (b :: c :: d :: rest) =
      some (Char.ofNat (b.toNat % 16 * 4096 + payload c * 64 + payload d)) :: units rest := by
  have hone : ¬b < 0x80 := by
    simp only [UInt8.lt_iff_toNat_lt, UInt8.toNat_ofNat]
    omega
  have htwo : ¬b ≤ 0xDF := by
    simp only [UInt8.le_iff_toNat_le, UInt8.toNat_ofNat]
    omega
  have hthree : 0xE0 ≤ b ∧ b ≤ 0xEF := by simpa [UInt8.le_iff_toNat_le] using hb
  rw [units.eq_def]
  simp only [hone, htwo, hthree, hc, hd, if_false, if_true, decide_true, decide_false,
    Bool.and_self, Bool.and_false, Bool.false_eq_true]

theorem units_four {b c d e : UInt8} (hb : 0xF0 ≤ b.toNat ∧ b.toNat ≤ 0xF4)
    (hc : followsFour b c = true) (hd : isContinuation d = true) (he : isContinuation e = true)
    (rest : Bytes) :
    units (b :: c :: d :: e :: rest) =
      some (Char.ofNat (b.toNat % 8 * 262144 + payload c * 4096 + payload d * 64 + payload e)) ::
        units rest := by
  have hone : ¬b < 0x80 := by
    simp only [UInt8.lt_iff_toNat_lt, UInt8.toNat_ofNat]
    omega
  have htwo : ¬b ≤ 0xDF := by
    simp only [UInt8.le_iff_toNat_le, UInt8.toNat_ofNat]
    omega
  have hthree : ¬b ≤ 0xEF := by
    simp only [UInt8.le_iff_toNat_le, UInt8.toNat_ofNat]
    omega
  have hfour : 0xF0 ≤ b ∧ b ≤ 0xF4 := by simpa [UInt8.le_iff_toNat_le] using hb
  rw [units.eq_def]
  simp only [hone, htwo, hthree, hfour, hc, hd, he, if_false, if_true, decide_true, decide_false,
    Bool.and_self, Bool.and_false, Bool.false_eq_true]

/-! ## The bytes of a character -/

/-- Every character has bytes. -/
theorem encodeChar_ne_nil (c : Char) : String.utf8EncodeChar c ≠ [] := by
  unfold String.utf8EncodeChar
  dsimp only
  split_ifs <;> exact List.cons_ne_nil _ _

/-- A character of ASCII is one byte. -/
theorem encodeChar_of_lt {c : Char} (h : c.toNat < 0x80) :
    String.utf8EncodeChar c = [UInt8.ofNat c.toNat] := by
  have hnumber : c.val.toNat = c.toNat := rfl
  unfold String.utf8EncodeChar
  rw [hnumber, if_pos (by omega)]

theorem isContinuation_iff {b : UInt8} :
    isContinuation b = true ↔ 0x80 ≤ b.toNat ∧ b.toNat ≤ 0xBF := by
  simp [isContinuation, UInt8.le_iff_toNat_le]

/-- A continuation that makes no overlong form and no surrogate may follow. -/
theorem followsThree_of_bounds {b c : UInt8} (hc : 0x80 ≤ c.toNat ∧ c.toNat ≤ 0xBF)
    (hlow : b.toNat = 0xE0 → 0xA0 ≤ c.toNat) (hhigh : b.toNat = 0xED → c.toNat ≤ 0x9F) :
    followsThree b c = true := by
  unfold followsThree
  split_ifs with hfirst hlast
  · simpa [UInt8.le_iff_toNat_le] using ⟨hlow (congrArg UInt8.toNat hfirst), hc.2⟩
  · simpa [UInt8.le_iff_toNat_le] using ⟨hc.1, hhigh (congrArg UInt8.toNat hlast)⟩
  · exact isContinuation_iff.mpr hc

/-- A continuation that makes no overlong form and does not exceed the last code point may follow. -/
theorem followsFour_of_bounds {b c : UInt8} (hc : 0x80 ≤ c.toNat ∧ c.toNat ≤ 0xBF)
    (hlow : b.toNat = 0xF0 → 0x90 ≤ c.toNat) (hhigh : b.toNat = 0xF4 → c.toNat ≤ 0x8F) :
    followsFour b c = true := by
  unfold followsFour
  split_ifs with hfirst hlast
  · simpa [UInt8.le_iff_toNat_le] using ⟨hlow (congrArg UInt8.toNat hfirst), hc.2⟩
  · simpa [UInt8.le_iff_toNat_le] using ⟨hc.1, hhigh (congrArg UInt8.toNat hlast)⟩
  · exact isContinuation_iff.mpr hc

/-- The bytes of a character are read as that character, whatever follows. -/
theorem units_encodeChar_append (c : Char) (rest : Bytes) :
    units (String.utf8EncodeChar c ++ rest) = some c :: units rest := by
  have hvalid : c.toNat < 0xD800 ∨ 0xDFFF < c.toNat ∧ c.toNat < 0x110000 := c.valid
  have hread : ∀ n, n = c.toNat → Char.ofNat n = c := fun n hn => by rw [hn, Char.ofNat_toNat]
  have hnumber : c.val.toNat = c.toNat := rfl
  have hbyte : ∀ n, n < 256 → (UInt8.ofNat n).toNat = n := fun n hn => UInt8.toNat_ofNat_of_lt hn
  have hcontinues : ∀ n, isContinuation (UInt8.ofNat (n % 64 + 128)) = true := by
    intro n
    rw [isContinuation_iff, hbyte _ (by omega)]
    omega
  unfold String.utf8EncodeChar
  rw [hnumber]
  generalize c.toNat = n at hvalid hread
  have hfirst := hbyte (n % 64 + 128) (by omega)
  have hsecond := hbyte (n / 64 % 64 + 128) (by omega)
  have hthird := hbyte (n / 4096 % 64 + 128) (by omega)
  dsimp only
  split_ifs with hone htwo hthree
  · have hlead := hbyte n (by omega)
    rw [List.singleton_append, units_one (by omega), hlead, hread n rfl]
  · have hlead := hbyte (n / 64 % 32 + 192) (by omega)
    rw [List.cons_append, List.singleton_append, units_two (by omega) (hcontinues _), hread]
    unfold payload
    omega
  · have hlead := hbyte (n / 4096 % 16 + 224) (by omega)
    rw [List.cons_append, List.cons_append, List.singleton_append, units_three (by omega)
      (followsThree_of_bounds (by omega) (by omega) (by omega)) (hcontinues _), hread]
    unfold payload
    omega
  · have hlead := hbyte (n / 262144 % 8 + 240) (by omega)
    rw [List.cons_append, List.cons_append, List.cons_append, List.singleton_append,
      units_four (by omega) (followsFour_of_bounds (by omega) (by omega) (by omega))
        (hcontinues _) (hcontinues _), hread]
    unfold payload
    omega

/-- The bytes of a text are read as that text. -/
theorem decodeLossy_encode (s : List Char) : decodeLossy (encode s) = s := by
  unfold decodeLossy encode
  induction s with
  | nil => rfl
  | cons c rest ih =>
      rw [List.flatMap_cons, units_encodeChar_append, List.map_cons, ih]
      rfl

/-! ## Cutting bytes -/

/-- A byte of ASCII is the only byte of its character. -/
theorem toNat_eq_of_mem_encodeChar {c : Char} {b : UInt8} (h : b ∈ String.utf8EncodeChar c)
    (hb : b.toNat < 0x80) : c.toNat = b.toNat := by
  have hnumber : c.val.toNat = c.toNat := rfl
  unfold String.utf8EncodeChar at h
  rw [hnumber] at h
  dsimp only at h
  split_ifs at h
  all_goals
    simp only [List.mem_cons, List.not_mem_nil, or_false, ← UInt8.toNat_inj,
      UInt8.toNat_ofNat'] at h
    omega

section

variable {sep : Char}

/-- The byte of a character of ASCII occurs in no other character. -/
theorem not_mem_encodeChar (hsep : sep.toNat < 0x80) {c : Char} (h : c ≠ sep) :
    UInt8.ofNat sep.toNat ∉ String.utf8EncodeChar c := by
  intro hmem
  have hbyte : (UInt8.ofNat sep.toNat).toNat = sep.toNat :=
    UInt8.toNat_ofNat_of_lt (Nat.lt_trans hsep (by decide))
  have hsame := toNat_eq_of_mem_encodeChar hmem (by omega)
  rw [hbyte] at hsame
  exact h (Char.toNat_inj.mp hsame)

/-- Bytes may be cut at a character of ASCII instead of characters. -/
theorem splitOn_encode (hsep : sep.toNat < 0x80) (s : List Char) :
    Text.splitOn (UInt8.ofNat sep.toNat) (encode s) = (Text.splitOn sep s).map encode := by
  unfold encode
  induction s with
  | nil => rfl
  | cons c rest ih =>
      rw [List.flatMap_cons]
      by_cases hc : c = sep
      · subst hc
        rw [encodeChar_of_lt hsep, List.singleton_append, Text.splitOn, if_pos rfl, ih,
          Text.splitOn, if_pos rfl]
        rfl
      · obtain ⟨piece, pieces, hpieces⟩ :=
          List.exists_cons_of_ne_nil (Text.splitOn_ne_nil sep rest)
        rw [hpieces, List.map_cons] at ih
        rw [Text.splitOn_append_of_not_mem (not_mem_encodeChar hsep hc) ih, Text.splitOn,
          if_neg hc, hpieces]
        rfl

/-- The same for cutting once. -/
theorem cutAt_encode (hsep : sep.toNat < 0x80) (s : List Char) :
    Text.cutAt (UInt8.ofNat sep.toNat) (encode s) =
      (encode (Text.cutAt sep s).1, (Text.cutAt sep s).2.map encode) := by
  unfold encode
  induction s with
  | nil => rfl
  | cons c rest ih =>
      rw [List.flatMap_cons]
      by_cases hc : c = sep
      · subst hc
        rw [encodeChar_of_lt hsep, List.singleton_append, Text.cutAt, if_pos rfl, Text.cutAt,
          if_pos rfl]
        rfl
      · rw [Text.cutAt_append_of_not_mem (not_mem_encodeChar hsep hc), ih, Text.cutAt, if_neg hc]
        rfl

end

end Hypermedia.Utf8
