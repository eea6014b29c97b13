import Hypermedia.Gateway.Backend
import Hypermedia.Proofs.Authority

/-!
# Where connections to a backend go

A backend is given by a URL with the scheme `http`. Connections go to the host of its authority, at the
port that is written behind the host.

* `Uri.exists_of_parse?` says where scheme and authority of an absolute target stand in its text.
* `Backend.writtenPort?` is the port that is written behind a host.
* `Backend.address_of_parse` says that connections go to the host and this port, for every URL that is
  accepted; what is no port number is not refused, but counts as port 80.
  `Backend.not_forall_writtenPort?` are such URLs.
-/

namespace Hypermedia

namespace Uri

/-- Whether a character ends the authority of a target. -/
def endsAuthority (c : Char) : Bool :=
  c = '/' || c = '?' || c = '#'

/-- A scheme is followed by `://`. -/
theorem eq_of_splitScheme? {s scheme rest : List Char} (h : splitScheme? s = some (scheme, rest)) :
    s = scheme ++ ("://".toList ++ rest) := by
  have hsplit := List.takeWhile_append_dropWhile (p := isSchemeChar) (l := s)
  unfold splitScheme? at h
  dsimp only at h
  rw [Text.drop_length_takeWhile] at h
  split at h
  · next hrest =>
    obtain ⟨rfl, rfl⟩ := Prod.mk.inj (Option.some.inj h)
    rw [hrest] at hsplit
    exact hsplit.symm
  · cases h

/-- Where the parts of an absolute target stand in its text. -/
theorem exists_of_parse? {text : String} {uri : Uri} {kept : String} (h : parse? text = some uri)
    (hscheme : uri.scheme = some kept) :
    ∃ scheme authority rest : List Char,
      text.toList = scheme ++ ("://".toList ++ (authority ++ rest)) ∧
      kept = keepScheme scheme ∧ uri.authority = some (.ofList authority) ∧
      isAuthority authority = true ∧ authority.all (!endsAuthority ·) = true ∧
      rest.head?.all endsAuthority = true := by
  have habsolute : readAbsolute? text.toList = some uri := by
    unfold parse? at h
    split_ifs at h
    split at h
    · cases h
    · obtain rfl := Option.some.inj h
      cases hscheme
    · obtain ⟨⟨path, query⟩, -, rfl⟩ := Option.map_eq_some_iff.mp h
      cases hscheme
    · exact h
  unfold readAbsolute? at habsolute
  split at habsolute
  · split_ifs at habsolute
    obtain rfl := Option.some.inj habsolute
    cases hscheme
  · next scheme rest hsplit =>
    dsimp only at habsolute
    split_ifs at habsolute with hvalid
    obtain ⟨⟨path, query⟩, -, rfl⟩ := Option.map_eq_some_iff.mp habsolute
    simp only [Bool.and_eq_true] at hvalid
    let inside : Char → Bool := fun c => c ≠ '/' && c ≠ '?' && c ≠ '#'
    have hinside : ∀ c, inside c = !endsAuthority c := by
      intro c
      simp [inside, endsAuthority]
    refine ⟨scheme, rest.takeWhile inside, rest.dropWhile inside, ?_, ?_, rfl, hvalid.2, ?_, ?_⟩
    · rw [List.takeWhile_append_dropWhile]
      exact eq_of_splitScheme? hsplit
    · exact (Option.some.inj hscheme).symm
    · rw [List.all_eq_true]
      intro c hc
      rw [← hinside]
      exact List.all_eq_true.mp List.all_takeWhile c hc
    · have hend := List.head?_dropWhile_not inside rest
      cases hrest : (rest.dropWhile inside).head? with
      | none => rfl
      | some c =>
          rw [hrest] at hend
          simpa [hinside] using hend

/-- Whatever is kept as `http` was written so, in some letter case. -/
theorem toLower_of_keepScheme {scheme : List Char} (h : keepScheme scheme = "http") :
    (String.ofList scheme).toLower = "http" := by
  unfold keepScheme at h
  dsimp only at h
  split_ifs at h
  · exact h
  · rw [h]
    decide +kernel

end Uri

namespace Backend

/-- The port that is written behind a host: 80 if nothing is, or a colon alone, and otherwise the
decimal number behind the colon, if it has sixteen bits. -/
def writtenPort? : List Char → Option Nat
  | [] => some 80
  | [':'] => some 80
  | ':' :: digits =>
    if digits.all Char.isDigit && Nat.ofDigitChars 10 digits 0 < 65536 then
      some (Nat.ofDigitChars 10 digits 0)
    else none
  | _ => none

variable {backend : Backend} {user host after : List Char}

/-- The port of a backend is the one that is written behind the host. -/
theorem port_of_writtenPort? (h : Authority.Parts backend.authority.toList user host after)
    {port : Nat} (hport : writtenPort? after = some port) : backend.port = port := by
  unfold Backend.port
  unfold writtenPort? at hport
  split at hport
  · rw [Authority.port?_of_parts_eq_none h List.not_mem_nil]
    exact Option.some.inj hport
  · rw [Authority.port?_of_parts h [] rfl List.not_mem_nil]
    exact Option.some.inj hport
  · next digits hne =>
    split_ifs at hport with hvalid
    rw [Bool.and_eq_true, decide_eq_true_eq] at hvalid
    have hcolon : ':' ∉ digits := by
      intro hmem
      have hdigit := List.all_eq_true.mp hvalid.1 ':' hmem
      cases hdigit
    rw [Authority.port?_of_parts h [] rfl hcolon,
      Authority.portNumber?_of_digits (fun hnil => hne (by rw [hnil])) hvalid.1, if_pos hvalid.2]
    exact Option.some.inj hport
  · cases hport

/-- **Where connections to a backend go.** The URL of a backend that is accepted has the scheme `http`,
in any letter case, and an authority up to the next slash, question mark or fragment. The authority has
parts, and connections go to its host, without user information and with its brackets, and to the port
that is written behind it. Whatever stands behind the host, this port is what is read behind the last
colon; what is no port number is not refused, but counts as port 80. -/
theorem address_of_parse {text : String} (h : parse text = .ok backend) :
    (∃ scheme rest : List Char,
      text.toList = scheme ++ ("://".toList ++ (backend.authority.toList ++ rest)) ∧
      (String.ofList scheme).toLower = "http" ∧
      backend.authority.toList.all (!Uri.endsAuthority ·) = true ∧
      rest.head?.all Uri.endsAuthority = true) ∧
    (∃ user host after, Authority.Parts backend.authority.toList user host after) ∧
    ∀ user host after, Authority.Parts backend.authority.toList user host after →
      (∀ port, writtenPort? after = some port →
        backend.address = .ofList host ++ ":" ++ toString port) ∧
      (':' ∉ after → backend.address = .ofList host ++ ":" ++ toString usualPort) ∧
      ∀ start written, after = start ++ ':' :: written → ':' ∉ written →
        backend.address = .ofList host ++ ":" ++
          toString ((Authority.portNumber? written).getD usualPort) := by
  unfold parse at h
  split at h
  · cases h
  · next uri huri =>
    split_ifs at h with hscheme
    split at h
    · next authority hauthority =>
      obtain rfl := Except.ok.inj h
      obtain ⟨scheme, written, rest, htext, hkept, hwritten, hread, hinside, hend⟩ :=
        Uri.exists_of_parse? huri hscheme
      obtain rfl : authority = .ofList written := Option.some.inj (hauthority.symm.trans hwritten)
      refine ⟨⟨scheme, rest, ?_, ?_, ?_, hend⟩, ?_, ?_⟩
      · simp only [htext, String.toList_ofList]
      · exact Uri.toLower_of_keepScheme hkept.symm
      · rwa [String.toList_ofList]
      · obtain ⟨user, after, hparts⟩ :=
          Authority.exists_parts (.ofList written) (by rwa [String.toList_ofList])
        exact ⟨user, _, after, hparts⟩
      · intro user host after hparts
        have hhost : Backend.host ⟨.ofList written⟩ = .ofList host := by
          rw [← String.toList_inj, String.toList_ofList]
          exact Authority.host_of_parts hparts
        refine ⟨fun port hport => ?_, fun hcolon => ?_, fun start number hafter hcolon => ?_⟩
        · rw [address, hhost, port_of_writtenPort? hparts hport]
        · rw [address, hhost, Backend.port, Authority.port?_of_parts_eq_none hparts hcolon]
          rfl
        · rw [address, hhost, Backend.port, Authority.port?_of_parts hparts start hafter hcolon]
    · cases h

/-- User information is left out, brackets are kept. -/
theorem address_of_parse_bracketed :
    parse "HTTP://user:8080@[::1]:8081/api?page=1" = .ok ⟨"user:8080@[::1]:8081"⟩ ∧
    address ⟨"user:8080@[::1]:8081"⟩ = "[::1]:8081" := by
  have hparse : parse "HTTP://user:8080@[::1]:8081/api?page=1" = .ok ⟨"user:8080@[::1]:8081"⟩ := by
    decide +kernel
  have hparts : Authority.Parts "user:8080@[::1]:8081".toList "user:8080@".toList "[::1]".toList
      ":8081".toList :=
    ⟨by decide, .inr ⟨"user:8080".toList, by decide⟩, by decide, .inl ⟨"::1".toList, by decide⟩⟩
  exact ⟨hparse, ((address_of_parse hparse).2.2 _ _ _ hparts).1 8081 (by decide)⟩

/-- A URL with something behind its host that is no port number is accepted, and connections go to
port 80. -/
theorem not_forall_writtenPort? :
    (["http://api:abc", "http://api:65536", "http://[::1]:8o80"].map fun text =>
      (parse text).toOption.map address) = [some "api:80", some "api:80", some "[::1]:80"] ∧
    ¬∀ text backend user host after, parse text = .ok backend →
      Authority.Parts backend.authority.toList user host after →
      (writtenPort? after).isSome = true := by
  refine ⟨by decide +kernel, fun hall => ?_⟩
  have hparse : parse "http://api:abc" = .ok ⟨"api:abc"⟩ := by decide +kernel
  have hparts : Authority.Parts "api:abc".toList [] "api".toList ":abc".toList :=
    ⟨by decide, .inl rfl, by decide, .inr ⟨by decide, by decide, .inr ⟨"abc".toList, by decide⟩⟩⟩
  have hsome := hall _ _ _ _ _ hparse hparts
  cases hsome

end Backend

end Hypermedia
