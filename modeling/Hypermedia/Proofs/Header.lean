import Hypermedia.Header
import Hypermedia.Proofs.Text.Printable
import Hypermedia.Proofs.Text.Utf8

/-!
# Text in header fields

* Printable text stands in a header field as it is: `fieldValue?_ofString` and
  `readable?_ofString`.
* `Headers.getAll` after a field was appended, inserted or removed.
-/

namespace Hypermedia

/-! ## Text and its bytes -/

@[simp] theorem Bytes.ofString_empty : Bytes.ofString "" = [] := rfl

@[simp] theorem Bytes.ofString_append (a b : String) :
    Bytes.ofString (a ++ b) = Bytes.ofString a ++ Bytes.ofString b := by
  unfold Bytes.ofString Utf8.encode
  rw [String.toList_append, List.flatMap_append]

/-- Printable text is one byte for each character. -/
theorem Bytes.ofString_of_isPrintable {text : String} (h : isPrintable text = true) :
    Bytes.ofString text = text.toList.map fun c => UInt8.ofNat c.toNat := by
  unfold Bytes.ofString Utf8.encode
  unfold isPrintable at h
  generalize text.toList = s at h ⊢
  induction s with
  | nil => rfl
  | cons c rest ih =>
      rw [List.all_cons, Bool.and_eq_true, isPrintableChar_iff] at h
      rw [List.flatMap_cons, ih h.2, Utf8.encodeChar_of_lt (by omega)]
      rfl

/-- Printable text is readable in a header field. -/
theorem readable?_ofString {text : String} (h : isPrintable text = true) :
    readable? (Bytes.ofString text) = some text := by
  rw [Bytes.ofString_of_isPrintable h]
  unfold isPrintable at h
  rw [List.all_eq_true] at h
  have hbyte : ∀ c ∈ text.toList, (UInt8.ofNat c.toNat).toNat = c.toNat := by
    intro c hc
    have hc := isPrintableChar_iff.mp (h c hc)
    exact UInt8.toNat_ofNat_of_lt (Nat.lt_of_le_of_lt hc.2 (by decide))
  unfold readable?
  rw [if_pos, List.map_map, List.map_congr_left (g := id), List.map_id, String.ofList_toList]
  · intro c hc
    simp [hbyte c hc, Char.ofNat_toNat]
  · rw [List.all_map, List.all_eq_true]
    intro c hc
    have hrange := isPrintableChar_iff.mp (h c hc)
    simp only [Function.comp_apply, isReadableByte, Bool.or_eq_true, Bool.and_eq_true,
      decide_eq_true_eq, UInt8.le_iff_toNat_le, hbyte c hc]
    exact .inr hrange

/-- Printable text may stand in a header field. -/
theorem isFieldByte_of_isPrintable {text : String} (h : isPrintable text = true) :
    (Bytes.ofString text).all isFieldByte = true := by
  rw [Bytes.ofString_of_isPrintable h, List.all_map, List.all_eq_true]
  unfold isPrintable at h
  rw [List.all_eq_true] at h
  intro c hc
  have hrange := isPrintableChar_iff.mp (h c hc)
  have hbyte : (UInt8.ofNat c.toNat).toNat = c.toNat :=
    UInt8.toNat_ofNat_of_lt (Nat.lt_of_le_of_lt hrange.2 (by decide))
  simp only [Function.comp_apply, isFieldByte, Bool.or_eq_true, Bool.and_eq_true,
    decide_eq_true_eq, UInt8.le_iff_toNat_le, hbyte]
  refine .inr ⟨hrange.1, fun heq => ?_⟩
  have hnat := congrArg UInt8.toNat heq
  rw [hbyte] at hnat
  have : (0x7F : UInt8).toNat = 127 := rfl
  omega

/-! ## Header fields -/

namespace Headers

@[simp] theorem getAll_append_self (headers : Headers) (name : String) (value : Bytes) :
    (headers.append name value).getAll name = headers.getAll name ++ [value] := by
  simp [append, getAll]

@[simp] theorem getAll_remove_self (headers : Headers) (name : String) :
    (headers.remove name).getAll name = [] := by
  simp [remove, getAll]

@[simp] theorem getAll_insert_self (headers : Headers) (name : String) (value : Bytes) :
    (headers.insert name value).getAll name = [value] := by
  simp [insert]

@[simp] theorem get?_insert_self (headers : Headers) (name : String) (value : Bytes) :
    (headers.insert name value).get? name = some value := by
  simp [get?]

/-- Another name keeps its values when a field is appended. -/
theorem getAll_append_of_ne {name other : String} (h : other ≠ name) (headers : Headers)
    (value : Bytes) : (headers.append other value).getAll name = headers.getAll name := by
  simp [append, getAll, h]

/-- The same where the field is appended on a condition. -/
theorem getAll_ite_append_of_ne {name other : String} (h : other ≠ name) (condition : Bool)
    (headers : Headers) (value : Bytes) :
    (if condition then headers.append other value else headers).getAll name =
      headers.getAll name := by
  split_ifs
  · exact getAll_append_of_ne h headers value
  · rfl

/-- Another name keeps its values when fields are removed. -/
theorem getAll_remove_of_ne {name other : String} (h : other ≠ name) (headers : Headers) :
    (headers.remove other).getAll name = headers.getAll name := by
  unfold remove getAll
  rw [List.filter_filter]
  congr 1
  apply List.filter_congr
  intro field _
  by_cases hfield : field.1 = name
  · simp [hfield, Ne.symm h]
  · simp [hfield]

/-- Another name keeps its values when a field is inserted. -/
theorem getAll_insert_of_ne {name other : String} (h : other ≠ name) (headers : Headers)
    (value : Bytes) : (headers.insert other value).getAll name = headers.getAll name := by
  unfold insert
  rw [getAll_append_of_ne h, getAll_remove_of_ne h]

/-- Another name keeps its values when several values are appended. -/
theorem getAll_appendAll_of_ne {name other : String} (h : other ≠ name) (headers : Headers)
    (values : List Bytes) : (headers.appendAll other values).getAll name = headers.getAll name := by
  unfold appendAll
  induction values generalizing headers with
  | nil => rfl
  | cons value rest ih => rw [List.foldl_cons, ih, getAll_append_of_ne h]

/-- Values that are appended come after the others. -/
theorem getAll_appendAll_self (headers : Headers) (name : String) (values : List Bytes) :
    (headers.appendAll name values).getAll name = headers.getAll name ++ values := by
  unfold appendAll
  induction values generalizing headers with
  | nil => simp
  | cons value rest ih =>
      rw [List.foldl_cons, ih, getAll_append_self, List.append_assoc]
      rfl

end Headers

end Hypermedia
