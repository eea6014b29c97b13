import Hypermedia.Proofs.Url.Domain
import Hypermedia.Url.Host

/-!
# Hosts may stand in a URL

`Host.isUrlText_text_of_parse` and `Host.isUrlText_text_of_parseOther` say that a host that was read
is written with characters that may stand in a URL, be it a name or an address.
-/

namespace Hypermedia.Url

/-! ## Addresses -/

/-- Texts with a separator between them may stand in a URL if all of that may. -/
theorem isUrlText_intercalate {separator : String} {pieces : List String}
    (hseparator : isUrlText separator = true)
    (hpieces : ∀ piece ∈ pieces, isUrlText piece = true) :
    isUrlText (separator.intercalate pieces) = true := by
  unfold isUrlText
  rw [String.toList_intercalate]
  refine all_intercalate hseparator fun piece hpiece => ?_
  obtain ⟨text, htext, rfl⟩ := List.mem_map.mp hpiece
  exact hpieces text htext

theorem Ipv4.isUrlText_text (address : Nat) : isUrlText (Ipv4.text address) = true := by
  refine isUrlText_intercalate rfl fun piece hpiece => ?_
  obtain ⟨unit, -, rfl⟩ := List.mem_map.mp hpiece
  exact isUrlText_toString _

theorem Ipv6.isUrlText_joined (groups : List Nat) : isUrlText (Ipv6.joined groups) = true := by
  refine isUrlText_intercalate rfl fun piece hpiece => ?_
  obtain ⟨group, -, rfl⟩ := List.mem_map.mp hpiece
  rw [isUrlText_ofList]
  exact all_toDigits (by decide) group

theorem Ipv6.isUrlText_text (groups : List Nat) : isUrlText (Ipv6.text groups) = true := by
  unfold Ipv6.text
  dsimp only
  split_ifs
  · exact isUrlText_joined groups
  · rw [isUrlText_append, isUrlText_append, isUrlText_joined, isUrlText_joined]
    rfl

/-! ## Hosts -/

namespace Host

variable {host : Host}

/-- The characters that stand for themselves in a name of no known form are printable. -/
theorem isPrintableChar_of_isPrintable {c : Char} (h : Host.isPrintable c = true) :
    isPrintableChar c = true := by
  simp only [Host.isPrintable, Bool.and_eq_true, decide_eq_true_eq] at h
  rw [isPrintableChar_iff]
  omega

theorem isUrlText_text_of_parseBracketed {rest : List Char} (h : parseBracketed rest = .ok host) :
    isUrlText host.text = true := by
  unfold parseBracketed at h
  split_ifs at h
  split at h
  · next groups _ =>
    obtain rfl := Except.ok.inj h
    rw [text, isUrlText_append, isUrlText_append, Ipv6.isUrlText_text]
    rfl
  · cases h

/-- The host of a URL of the web or of a file may stand in a URL. -/
theorem isUrlText_text_of_parse {s : List Char} (h : parse s = .ok host) :
    isUrlText host.text = true := by
  unfold parse at h
  split at h
  · exact isUrlText_text_of_parseBracketed h
  · split at h
    · cases h
    · next domain hdomain =>
      split_ifs at h
      · split at h
        · next address _ =>
          obtain rfl := Except.ok.inj h
          exact Ipv4.isUrlText_text address
        · cases h
      · obtain rfl := Except.ok.inj h
        rw [text, isUrlText_ofList]
        exact Domain.all_toAscii? hdomain

/-- So may the host of any other URL, which must not hold a blank or an angle bracket. -/
theorem isUrlText_text_of_parseOther {s : List Char} (h : parseOther s = .ok host) :
    isUrlText host.text = true := by
  unfold parseOther at h
  split at h
  · exact isUrlText_text_of_parseBracketed h
  · split_ifs at h with hforbidden
    obtain rfl := Except.ok.inj h
    rw [text, isUrlText_ofList]
    refine Percent.all_encode (fun _ => id) fun c hc hprintable => ?_
    have hsigns : c ∉ " <>".toList := by
      have hall : " <>".toList.all isForbidden = true := by decide
      exact fun hin => hforbidden (List.any_eq_true.mpr ⟨c, hc, List.all_eq_true.mp hall c hin⟩)
    exact isUrlChar_iff.mpr ⟨isPrintableChar_of_isPrintable hprintable, hsigns⟩

end Host

end Hypermedia.Url
