import Mathlib.Data.List.Induction
import Hypermedia.Proofs.Text.Decimal
import Hypermedia.Proofs.Text.Pieces
import Hypermedia.Uri

/-!
# The parts of an authority

An authority is user information up to an `@`, a host, and what follows the host.

* `Uri.Scanned` is what is known of an authority that was read up to some character; by
  `Uri.scanned_run` it holds along the reading, so that an opened bracket is closed behind it.
* `Authority.Parts` are the parts of an authority; `Authority.exists_parts` says that every authority
  that is read has them, with the host that `Authority.host` finds.
* `Authority.port?_of_parts` and `Authority.port?_of_parts_eq_none` say that the port is what follows the
  host, though the reader looks for the last colon of all.
-/

namespace Hypermedia

/-! ## Reading an authority -/

namespace Uri

/-- What is known of an authority after some of its characters: if a bracket came, it is noted, and if
it was closed, no bracket has come since. -/
structure Scanned (s : List Char) (scan : AuthorityScan) : Prop where
  /-- Brackets are noted. -/
  opened : '[' ∈ s → scan.opened = true
  /-- A bracket is closed after it was opened. -/
  opened_of_closed : scan.closed = true → scan.opened = true
  /-- No bracket comes behind the closing one. -/
  closed : scan.closed = true → ∃ before after, s = before ++ ']' :: after ∧ '[' ∉ after

/-- One more character. -/
theorem Scanned.next {s : List Char} {scan later : AuthorityScan} {c : Char} (h : Scanned s scan)
    (hnext : scan.next? c = some later) : Scanned (s ++ [c]) later := by
  -- Any character but a bracket leaves what is known of brackets.
  have hother : c ≠ '[' → later.opened = scan.opened → later.closed = scan.closed →
      Scanned (s ++ [c]) later := by
    intro hc hopened hclosed
    refine ⟨fun hmem => ?_, fun hdone => ?_, fun hdone => ?_⟩
    · rw [hopened]
      rcases List.mem_append.mp hmem with hmem | hmem
      · exact h.opened hmem
      · exact absurd (List.mem_singleton.mp hmem).symm hc
    · rw [hopened]
      exact h.opened_of_closed (hclosed ▸ hdone)
    · obtain ⟨before, after, rfl, hafter⟩ := h.closed (hclosed ▸ hdone)
      refine ⟨before, after ++ [c], by simp, fun hmem => ?_⟩
      rcases List.mem_append.mp hmem with hmem | hmem
      · exact hafter hmem
      · exact hc (List.mem_singleton.mp hmem).symm
  unfold AuthorityScan.next? at hnext
  dsimp only at hnext
  split_ifs at hnext with hchar hcolon hmany hopen hrefused hclose hrefused hat hpercent <;>
    obtain rfl := Option.some.inj hnext
  · exact hother (by rintro rfl; cases hcolon) rfl rfl
  · -- The bracket is opened; it cannot have been closed, since it was not open.
    have hnot : scan.closed = false := by
      rw [Bool.eq_false_iff]
      intro hdone
      exact hrefused (by simp [h.opened_of_closed hdone])
    refine ⟨fun _ => rfl, fun _ => rfl, fun hdone => ?_⟩
    rw [hnot] at hdone
    cases hdone
  · refine ⟨fun hmem => ?_, fun _ => ?_, fun _ => ⟨s, [], by rw [hclose], List.not_mem_nil⟩⟩
    · simp_all
    · simp_all
  · exact hother hopen rfl rfl
  · exact hother hopen rfl rfl
  · exact hother hopen rfl rfl

/-- The same along a whole authority. -/
theorem scanned_run {s : List Char} {scan : AuthorityScan}
    (h : s.foldlM AuthorityScan.next? {} = some scan) : Scanned s scan := by
  induction s using List.reverseRecOn generalizing scan with
  | nil =>
      obtain rfl := Option.some.inj h
      refine ⟨fun hmem => ?_, fun hdone => ?_, fun hdone => ?_⟩
      · cases hmem
      · cases hdone
      · cases hdone
  | append_singleton s c ih =>
      rw [List.foldlM_append] at h
      obtain ⟨earlier, hearlier, hlast⟩ := Option.bind_eq_some_iff.mp h
      rw [List.foldlM_cons] at hlast
      obtain ⟨later, hnext, hdone⟩ := Option.bind_eq_some_iff.mp hlast
      obtain rfl := Option.some.inj hdone
      exact (ih hearlier).next hnext

/-- A bracket that is opened in an authority is closed behind it. -/
theorem closes_of_isAuthority {start rest : List Char}
    (h : isAuthority (start ++ '[' :: rest) = true) : ']' ∈ rest := by
  unfold isAuthority at h
  split at h
  · cases h
  · next scan hscan =>
    have hscanned := scanned_run hscan
    have hopened : scan.opened = true := hscanned.opened (by simp)
    have hclosed : scan.closed = true := by
      simp only [Bool.and_eq_true, beq_iff_eq] at h
      rw [← h.1.1.1, hopened]
    obtain ⟨before, after, hsplit, hafter⟩ := hscanned.closed hclosed
    rcases List.append_eq_append_iff.mp hsplit with ⟨more, rfl, hmore⟩ | ⟨more, rfl, hmore⟩
    · cases more with
      | nil =>
          obtain ⟨hcontra, -⟩ := List.cons.inj hmore
          cases hcontra
      | cons c more =>
          obtain ⟨-, rfl⟩ := List.cons.inj hmore
          simp
    · cases more with
      | nil =>
          obtain ⟨hcontra, -⟩ := List.cons.inj hmore
          cases hcontra
      | cons c more =>
          obtain ⟨-, rfl⟩ := List.cons.inj hmore
          exact absurd (by simp) hafter

end Uri

/-! ## Parts -/

namespace Authority

/-- The parts of an authority. -/
structure Parts (authority user host after : List Char) : Prop where
  /-- The authority consists of them. -/
  eq : authority = user ++ (host ++ after)
  /-- The user information ends with an `@`. -/
  user : user = [] ∨ ∃ name, user = name ++ ['@']
  /-- No `@` comes behind it. -/
  at_not_mem : '@' ∉ host ++ after
  /-- A host in brackets ends at the closing one, any other before the first colon. -/
  host : (∃ inner, host = '[' :: inner ++ [']'] ∧ ']' ∉ inner) ∨
    (host.head? ≠ some '[' ∧ ':' ∉ host ∧ (after = [] ∨ ∃ rest, after = ':' :: rest))

/-- Every authority that is read has parts. -/
theorem exists_parts (authority : String) (h : Uri.isAuthority authority.toList = true) :
    ∃ user after, Parts authority.toList user (host authority).toList after := by
  obtain ⟨user, hsplit, huser⟩ := Text.exists_behindLast '@' authority.toList
  have hat := Text.not_mem_behindLast '@' authority.toList
  have hwithout : withoutUser authority.toList = Text.behindLast '@' authority.toList := rfl
  unfold host
  rw [hwithout]
  generalize Text.behindLast '@' authority.toList = s at hsplit hat
  split
  · next rest =>
    -- The host is in brackets, and the closing one comes behind the opening one.
    have hclosed : ']' ∈ rest := Uri.closes_of_isAuthority (hsplit ▸ h)
    have hinner := Text.not_mem_takeWhile_ne ']' rest
    obtain ⟨after, hrest, hafter⟩ := Text.exists_takeWhile_ne ']' rest
    rcases hafter with rfl | ⟨after, rfl⟩
    · rw [List.append_nil] at hrest
      exact absurd (hrest ▸ hclosed) hinner
    · have heq : '[' :: rest = '[' :: rest.takeWhile (· ≠ ']') ++ [']'] ++ after := by
        rw [List.append_assoc, List.singleton_append, List.cons_append, ← hrest]
      refine ⟨user, after, ?_⟩
      rw [String.toList_ofList]
      exact ⟨heq ▸ hsplit, huser, heq ▸ hat, .inl ⟨_, rfl, hinner⟩⟩
  · next hopen =>
    obtain ⟨after, hs, hafter⟩ := Text.exists_takeWhile_ne ':' s
    refine ⟨user, after, ?_⟩
    rw [String.toList_ofList]
    refine ⟨hs ▸ hsplit, huser, hs ▸ hat, .inr ⟨?_, Text.not_mem_takeWhile_ne ':' s, hafter⟩⟩
    intro hhead
    cases hhost : s.takeWhile (· ≠ ':') with
    | nil =>
        rw [hhost] at hhead
        cases hhead
    | cons c rest =>
        rw [hhost] at hhead hs
        obtain rfl := Option.some.inj hhead
        exact hopen _ hs

/-- The host of an authority with these parts. -/
theorem host_of_parts {authority : String} {user host after : List Char}
    (h : Parts authority.toList user host after) :
    (Authority.host authority).toList = host := by
  have hwithout : withoutUser authority.toList = host ++ after := by
    change Text.behindLast '@' authority.toList = host ++ after
    rcases h.user with rfl | ⟨name, rfl⟩
    · rw [h.eq, List.nil_append, Text.behindLast_of_not_mem h.at_not_mem]
    · rw [h.eq, List.append_assoc, List.singleton_append,
        Text.behindLast_append_cons _ h.at_not_mem]
  unfold Authority.host
  rw [hwithout]
  rcases h.host with ⟨inner, rfl, hinner⟩ | ⟨hhead, hcolon, hafter⟩
  · have htake := Text.takeWhile_append_cons hinner after
    rw [List.append_assoc, List.singleton_append, List.cons_append]
    change (String.ofList ('[' :: (inner ++ ']' :: after).takeWhile (· ≠ ']') ++ [']'])).toList = _
    rw [htake, String.toList_ofList]
  · have htake : (host ++ after).takeWhile (· ≠ ':') = host := by
      rcases hafter with rfl | ⟨rest, rfl⟩
      · rw [List.append_nil, Text.takeWhile_of_not_mem hcolon]
      · exact Text.takeWhile_append_cons hcolon rest
    split
    · next rest hopen =>
      exfalso
      cases host with
      | nil => rcases hafter with rfl | ⟨more, rfl⟩ <;> cases hopen
      | cons c more => exact hhead (congrArg some (List.cons.inj hopen).1)
    · rw [String.toList_ofList, htake]

/-! ## Ports -/

/-- A port number is read from its digits. -/
theorem portNumber?_of_digits {digits : List Char} (hne : digits ≠ [])
    (hdigits : digits.all Char.isDigit = true) :
    portNumber? digits =
      if Nat.ofDigitChars 10 digits 0 < 65536 then some (Nat.ofDigitChars 10 digits 0)
      else none := by
  unfold portNumber?
  split
  · next rest => cases hdigits
  · dsimp only
    rw [Text.foldl_digits, hdigits]
    simp [hne]

/-- What holds another character than digits and plus signs is no port number. -/
theorem portNumber?_eq_none {s : List Char} {c : Char} (hmem : c ∈ s) (hdigit : c.isDigit = false)
    (hplus : c ≠ '+') : portNumber? s = none := by
  have hnot : ∀ digits : List Char, c ∈ digits → digits.all Char.isDigit = false := by
    intro digits hin
    rw [List.all_eq_false]
    exact ⟨c, hin, by simp [hdigit]⟩
  unfold portNumber?
  split
  · next rest =>
    have hin : c ∈ rest := (List.mem_cons.mp hmem).resolve_left hplus
    simp [hnot rest hin]
  · simp [hnot s hmem]

/-- Behind a character that no port number holds, and without a colon behind it, no port is found. -/
theorem port?_eq_none {authority : String} (before after : List Char) (mark : Char)
    (h : authority.toList = before ++ mark :: after) (hdigit : mark.isDigit = false)
    (hplus : mark ≠ '+') (hcolon : ':' ∉ mark :: after) : port? authority = none := by
  unfold port?
  dsimp only
  split_ifs with hmem
  swap
  · rfl
  change portNumber? (Text.behindLast ':' authority.toList) = none
  obtain ⟨start, hsplit, hstart⟩ := Text.exists_behindLast ':' authority.toList
  rcases hstart with rfl | ⟨start, rfl⟩
  · rw [List.contains_iff_mem, hsplit] at hmem
    exact absurd hmem (Text.not_mem_behindLast ':' authority.toList)
  · -- The last colon comes before the character, which then stands behind it.
    have hmark : mark ∈ Text.behindLast ':' authority.toList := by
      rw [h, List.append_assoc, List.singleton_append] at hsplit
      rw [h]
      generalize Text.behindLast ':' (before ++ mark :: after) = port at hsplit
      rcases List.append_eq_append_iff.mp hsplit with ⟨more, rfl, hmore⟩ | ⟨more, rfl, hmore⟩
      · exact absurd (hmore ▸ by simp) hcolon
      · cases more with
        | nil => exact absurd ((List.cons.inj hmore).1 ▸ List.mem_cons_self) hcolon
        | cons c more => exact (List.cons.inj hmore).2 ▸ by simp
    exact portNumber?_eq_none hmark hdigit hplus

variable {authority : String} {user host after : List Char}

/-- The port is what is read behind the last colon that follows the host. -/
theorem port?_of_parts (h : Parts authority.toList user host after) (start : List Char)
    {port : List Char} (hafter : after = start ++ ':' :: port) (hport : ':' ∉ port) :
    port? authority = portNumber? port := by
  have hsplit : authority.toList = (user ++ (host ++ start)) ++ ':' :: port := by
    rw [h.eq, hafter]
    simp
  unfold port?
  dsimp only
  rw [if_pos (by rw [hsplit]; simp), hsplit]
  exact congrArg portNumber? (Text.behindLast_append_cons _ hport)

/-- Without a colon behind the host there is no port: behind a colon in the user information comes the
`@`, and behind one in brackets the closing bracket. -/
theorem port?_of_parts_eq_none (h : Parts authority.toList user host after) (hafter : ':' ∉ after) :
    port? authority = none := by
  rcases h.host with ⟨inner, rfl, -⟩ | ⟨-, hhost, -⟩
  · refine port?_eq_none (user ++ '[' :: inner) after ']' ?_ rfl (by decide) ?_
    · rw [h.eq]
      simp
    · simpa using hafter
  · rcases h.user with rfl | ⟨name, rfl⟩
    · have hnone : ':' ∉ authority.toList := by
        rw [h.eq]
        simp [hhost, hafter]
      unfold port?
      dsimp only
      rw [if_neg (by simpa using hnone)]
    · refine port?_eq_none name (host ++ after) '@' ?_ rfl (by decide) ?_
      · rw [h.eq]
        simp
      · simp [hhost, hafter]

end Authority

end Hypermedia
