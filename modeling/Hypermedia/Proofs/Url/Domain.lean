import Hypermedia.Proofs.Url.Punycode
import Hypermedia.Url.Domain.Ascii

/-!
# Domain names may stand in a URL

`Domain.all_toAscii?` says that a domain name is written with characters that may stand in a URL, in
whatever script it was given. A label that is not ASCII is written in Punycode; one that is, is valid
in its own script, and so it holds nothing but such characters.
-/

namespace Hypermedia.Url.Domain

/-! ## Labels -/

/-- A character of a valid label may stand in a URL if it is ASCII. -/
theorem isUrlChar_of_isValidLabel {label : List Char} (h : isValidLabel label = true)
    {c : Char} (hc : c ∈ label) (hascii : c.toNat < 0x80) : isUrlChar c = true := by
  unfold isValidLabel at h
  simp only [Bool.and_eq_true, Bool.not_eq_true', List.any_eq_false] at h
  have hallowed := h.1.1.1 c hc
  have hsigns : c ∉ " <>".toList := by
    have hforbidden : " <>".toList.all isForbidden = true := by decide
    exact fun hin => hallowed (List.all_eq_true.mp hforbidden c hin)
  simp only [isForbidden, Bool.or_eq_true, decide_eq_true_eq, not_or] at hallowed
  exact isUrlChar_iff.mpr ⟨isPrintableChar_iff.mpr ⟨by omega, by omega⟩, hsigns⟩

/-- A character of a label that is valid in its own script may stand in a URL if it is ASCII. -/
theorem isUrlChar_of_ownScript? {label own : List Char} (hown : ownScript? label = some own)
    (hvalid : isValidLabel own = true) {c : Char} (hc : c ∈ label) (hascii : c.toNat < 0x80) :
    isUrlChar c = true := by
  unfold ownScript? at hown
  split_ifs at hown with hstart
  · -- A label in Punycode: its characters are in the label that it stands for, or they are digits.
    cases hdecode : Punycode.decode? (label.drop encodedStart.length) with
    | none => simp [hdecode] at hown
    | some decoded =>
        simp only [hdecode] at hown
        split_ifs at hown
        obtain rfl := Option.some.inj hown
        obtain ⟨text, rfl⟩ := List.isPrefixOf_iff_prefix.mp hstart
        rw [List.drop_left] at hdecode
        rcases List.mem_append.mp hc with hmark | htext
        · have hall : encodedStart.all isUrlChar = true := by decide
          exact List.all_eq_true.mp hall c hmark
        · rcases Punycode.mem_or_isUrlChar_of_decode? hdecode c htext with hmem | hchar
          · exact isUrlChar_of_isValidLabel hvalid hmem hascii
          · exact hchar
  · obtain rfl := Option.some.inj hown
    exact isUrlChar_of_isValidLabel hvalid hc hascii

/-- A label that is valid in its own script is written with such characters. -/
theorem all_encodeLabel? {label own encoded : List Char} (hown : ownScript? label = some own)
    (hvalid : isValidLabel own = true) (hencoded : encodeLabel? label = some encoded) :
    encoded.all isUrlChar = true := by
  unfold encodeLabel? at hencoded
  split_ifs at hencoded with hascii
  · obtain rfl := Option.some.inj hencoded
    rw [List.all_eq_true] at hascii ⊢
    intro c hc
    exact isUrlChar_of_ownScript? hown hvalid hc (of_decide_eq_true (hascii c hc))
  · obtain rfl := Option.some.inj hencoded
    rw [List.all_append, Punycode.all_encode fun c hc =>
      isUrlChar_of_ownScript? hown hvalid hc]
    rfl

/-! ## Names -/

/-- Where every element becomes something, what they become are the values of the elements. -/
theorem mem_of_mapM {α β : Type} {f : α → Option β} {as : List α} {bs : List β}
    (h : as.mapM f = some bs) :
    (∀ a ∈ as, ∃ b ∈ bs, f a = some b) ∧ ∀ b ∈ bs, ∃ a ∈ as, f a = some b := by
  induction as generalizing bs with
  | nil =>
      obtain rfl := Option.some.inj h
      simp
  | cons a rest ih =>
      rw [List.mapM_cons] at h
      obtain ⟨b, hb, h⟩ := Option.bind_eq_some_iff.mp h
      obtain ⟨more, hmore, h⟩ := Option.bind_eq_some_iff.mp h
      obtain rfl := Option.some.inj h
      obtain ⟨hforward, hbackward⟩ := ih hmore
      constructor
      · intro other hother
        rcases List.mem_cons.mp hother with rfl | hrest
        · exact ⟨b, List.mem_cons_self, hb⟩
        · obtain ⟨value, hvalue, hof⟩ := hforward other hrest
          exact ⟨value, List.mem_cons_of_mem _ hvalue, hof⟩
      · intro value hvalue
        rcases List.mem_cons.mp hvalue with rfl | hrest
        · exact ⟨a, List.mem_cons_self, hb⟩
        · obtain ⟨other, hother, hof⟩ := hbackward value hrest
          exact ⟨other, List.mem_cons_of_mem _ hother, hof⟩

/-- A domain name is written with characters that may stand in a URL. -/
theorem all_toAscii? {bytes : Bytes} {domain : List Char} (h : toAscii? bytes = some domain) :
    domain.all isUrlChar = true := by
  unfold toAscii? at h
  obtain ⟨name, hname, h⟩ := Option.bind_eq_some_iff.mp h
  obtain ⟨own, hown, h⟩ := Option.bind_eq_some_iff.mp h
  dsimp only at h
  split_ifs at h with hvalid
  obtain ⟨encoded, hencoded, rfl⟩ := Option.map_eq_some_iff.mp h
  rw [Bool.and_eq_true, List.all_eq_true] at hvalid
  refine all_intercalate (by decide) fun piece hpiece => ?_
  obtain ⟨label, hlabel, hpiece⟩ := (mem_of_mapM hencoded).2 piece hpiece
  obtain ⟨script, hscript, hlabelOwn⟩ := (mem_of_mapM hown).1 label hlabel
  exact all_encodeLabel? hlabelOwn (hvalid.1 script hscript) hpiece

end Hypermedia.Url.Domain
