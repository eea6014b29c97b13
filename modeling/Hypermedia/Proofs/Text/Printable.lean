import Mathlib.Tactic.Common
import Hypermedia.Text.Percent
import Hypermedia.Text.Quoted

/-!
# Printable text

* `isPrintable` is whether a text consists of printable ASCII, `isPrintableChar` the same of a
  character.
* `isUrlText` and `isUrlChar` are the same without the blank and the angle brackets, between which a
  URL can stand in other text.
* Text stays so when it is put together, and encodings and numbers are written so: `all_encode`,
  `all_toDigits` and `isUrlText_toString`.
-/

namespace Hypermedia

/-- Whether a character is printable ASCII. -/
def isPrintableChar (c : Char) : Bool :=
  0x20 ≤ c.toNat && c.toNat ≤ 0x7E

/-- Whether a text consists of printable ASCII. -/
def isPrintable (text : String) : Bool :=
  text.toList.all isPrintableChar

theorem isPrintableChar_iff {c : Char} :
    isPrintableChar c = true ↔ 0x20 ≤ c.toNat ∧ c.toNat ≤ 0x7E := by
  simp [isPrintableChar]

theorem isPrintable_iff {text : String} :
    isPrintable text = true ↔ ∀ c ∈ text.toList, 0x20 ≤ c.toNat ∧ c.toNat ≤ 0x7E := by
  unfold isPrintable
  rw [List.all_eq_true]
  exact forall₂_congr fun c _ => isPrintableChar_iff

/-- Whether a character may stand in a URL that stands between angle brackets: printable ASCII other
than the blank and these. -/
def isUrlChar (c : Char) : Bool :=
  isPrintableChar c && c ≠ ' ' && c ≠ '<' && c ≠ '>'

/-- Whether a text consists of such characters. -/
def isUrlText (text : String) : Bool :=
  text.toList.all isUrlChar

theorem isUrlChar_iff {c : Char} :
    isUrlChar c = true ↔ isPrintableChar c = true ∧ c ∉ " <>".toList := by
  simp [isUrlChar, and_assoc]

theorem isPrintableChar_of_isUrlChar {c : Char} (h : isUrlChar c = true) :
    isPrintableChar c = true :=
  (isUrlChar_iff.mp h).1

theorem ne_of_isUrlChar {c : Char} (h : isUrlChar c = true) : c ≠ '>' := by
  rintro rfl
  cases h

/-- Text of such characters is in every class that holds them. -/
theorem all_of_all_isUrlChar {p : Char → Bool} (hp : ∀ c, isUrlChar c = true → p c = true)
    {s : List Char} (h : s.all isUrlChar = true) : s.all p = true := by
  rw [List.all_eq_true] at h ⊢
  intro c hc
  exact hp c (h c hc)

theorem isPrintable_of_isUrlText {text : String} (h : isUrlText text = true) :
    isPrintable text = true :=
  all_of_all_isUrlChar (fun _ => isPrintableChar_of_isUrlChar) h

/-- Letters and digits may stand in a URL. -/
theorem isUrlChar_of_isAlphanum {c : Char} (h : c.isAlphanum = true) : isUrlChar c = true := by
  have hsigns : c ∉ " <>".toList := by
    have hnone : (" <>".toList.all fun sign => !sign.isAlphanum) = true := by decide
    intro hin
    have hsign := List.all_eq_true.mp hnone c hin
    rw [h] at hsign
    cases hsign
  delta Char.isAlphanum Char.isAlpha Char.isUpper Char.isLower Char.isDigit at h
  simp only [Bool.or_eq_true, Bool.and_eq_true, decide_eq_true_eq, UInt32.le_iff_toNat_le] at h
  have hbounds : ∀ low high : Char, 0x20 ≤ low.toNat → high.toNat ≤ 0x7E →
      low.val.toNat ≤ c.val.toNat ∧ c.val.toNat ≤ high.val.toNat → isUrlChar c = true :=
    fun low high hlow hhigh hc => isUrlChar_iff.mpr
      ⟨isPrintableChar_iff.mpr ⟨Nat.le_trans hlow hc.1, Nat.le_trans hc.2 hhigh⟩, hsigns⟩
  rcases h with (hupper | hlower) | hdigit
  · exact hbounds 'A' 'Z' (by decide) (by decide) hupper
  · exact hbounds 'a' 'z' (by decide) (by decide) hlower
  · exact hbounds '0' '9' (by decide) (by decide) hdigit

/-! ## Putting text together -/

@[simp] theorem isPrintable_append (a b : String) :
    isPrintable (a ++ b) = (isPrintable a && isPrintable b) := by
  unfold isPrintable
  rw [String.toList_append, List.all_append]

@[simp] theorem isPrintable_ofList (s : List Char) :
    isPrintable (.ofList s) = s.all isPrintableChar := by
  unfold isPrintable
  rw [String.toList_ofList]

@[simp] theorem isUrlText_append (a b : String) :
    isUrlText (a ++ b) = (isUrlText a && isUrlText b) := by
  unfold isUrlText
  rw [String.toList_append, List.all_append]

@[simp] theorem isUrlText_ofList (s : List Char) : isUrlText (.ofList s) = s.all isUrlChar := by
  unfold isUrlText
  rw [String.toList_ofList]

/-- Pieces with a separator between them are in a class if all of that is. -/
theorem all_intercalate {α : Type} {p : α → Bool} {separator : List α} {pieces : List (List α)}
    (hseparator : separator.all p = true) (hpieces : ∀ piece ∈ pieces, piece.all p = true) :
    (separator.intercalate pieces).all p = true := by
  induction pieces with
  | nil => rfl
  | cons piece rest ih =>
      have hrest := ih fun other hother => hpieces other (List.mem_cons_of_mem _ hother)
      have hpiece := hpieces piece List.mem_cons_self
      cases rest with
      | nil => simpa [List.intercalate] using hpiece
      | cons next more =>
          rw [List.intercalate_cons_cons, List.all_append, List.all_append, hpiece, hseparator, hrest]
          rfl

/-! ## Numbers -/

/-- A digit of any base may stand in a URL. -/
theorem isUrlChar_digitChar (n : Nat) : isUrlChar n.digitChar = true := by
  have hdigit : ∀ n < 16, isUrlChar n.digitChar = true := by decide
  by_cases hsmall : n < 16
  · exact hdigit n hsmall
  · rw [Nat.digitChar_eq_star.mpr (by omega)]
    rfl

/-- So may a number. -/
theorem all_toDigits {base : Nat} (hbase : 1 < base) (n : Nat) :
    (Nat.toDigits base n).all isUrlChar = true := by
  induction n using Nat.strongRecOn with
  | ind n ih =>
      rw [Nat.toDigits_eq_if hbase]
      split_ifs with hsmall
      · simp [isUrlChar_digitChar]
      · have hlt : n / base < n := Nat.div_lt_self (by omega) hbase
        rw [List.all_append, ih _ hlt]
        simp [isUrlChar_digitChar]

/-- So may a decimal number. -/
theorem isUrlText_toString (n : Nat) : isUrlText (toString n) = true := by
  unfold isUrlText
  rw [Nat.toString_eq_repr, Nat.toList_repr]
  exact all_toDigits (by decide) n

/-! ## Percent-encoding -/

namespace Percent

/-- A byte is written with characters that may stand in a URL. -/
theorem all_encodeByte (b : UInt8) : (encodeByte b).all isUrlChar = true := by
  have hdigit : ∀ n < 16, isUrlChar (hexUpper n) = true := by decide
  have hhigh : b.toNat / 16 < 16 := by
    have := b.toNat_lt
    omega
  have hlow : b.toNat % 16 < 16 := Nat.mod_lt _ (by decide)
  unfold encodeByte
  simp [hdigit _ hhigh, hdigit _ hlow]
  rfl

/-- What is encoded is in a class that holds such characters, if what stands for itself is. -/
theorem all_encodeChar {p keeps : Char → Bool} (hp : ∀ c, isUrlChar c = true → p c = true) {c : Char}
    (hkeeps : keeps c = true → p c = true) : (encodeChar keeps c).all p = true := by
  unfold encodeChar encodeBytes
  split_ifs with hplain
  · rw [List.all_cons, hkeeps hplain]
    rfl
  · rw [List.all_flatMap, List.all_eq_true]
    exact fun b _ => all_of_all_isUrlChar hp (all_encodeByte b)

/-- The same of a whole text. -/
theorem all_encode {p keeps : Char → Bool} (hp : ∀ c, isUrlChar c = true → p c = true)
    {s : List Char} (hkeeps : ∀ c ∈ s, keeps c = true → p c = true) :
    (encode keeps s).all p = true := by
  unfold encode
  rw [List.all_flatMap, List.all_eq_true]
  exact fun c hc => all_encodeChar hp (hkeeps c hc)

end Percent

end Hypermedia
