import Hypermedia.Eligibility
import Hypermedia.Proofs.Header
import Hypermedia.Proofs.Text.Pieces

/-!
# Responses that must not be transformed

A server forbids to transform a response by the directive `no-transform` of `cache-control`. The names
of directives compare without regard to letter case, and the lines of the field make one list.

* `Eligibility.hasWord_iff` says what it means for a word to occur in a text.
* `CacheControl.directives` are the names of the directives that a line lists, and
  `CacheControl.standsIn_of_mem_directives` says where in the line they stand.
* `CacheControl.not_isEligibleResponse` says that a response is not processed if its first line can be
  read and lists the directive in lower case; `CacheControl.isEligibleResponse_overlooked` are
  responses that are processed although they list it, one for each of these conditions.
-/

namespace Hypermedia

/-! ## Words -/

namespace Eligibility

/-- Whether a text ends with a word character; `inWord` is for the empty text. -/
def endsWithWordChar (inWord : Bool) (s : List Char) : Bool :=
  (s.getLast?.map isWordChar).getD inWord

theorem endsWithWordChar_cons (inWord : Bool) (c : Char) (s : List Char) :
    endsWithWordChar inWord (c :: s) = endsWithWordChar (isWordChar c) s := by
  cases s <;> simp [endsWithWordChar, List.getLast?_cons]

/-- A word is found where it occurs and no word character touches it. -/
theorem hasWordFrom_iff {word : List Char} (hne : word ≠ []) {inWord : Bool} {s : List Char} :
    hasWordFrom word inWord s = true ↔
      ∃ before after, s = before ++ (word ++ after) ∧
        endsWithWordChar inWord before = false ∧ startsWithWordChar after = false := by
  induction s generalizing inWord with
  | nil => simp [hasWordFrom, hne]
  | cons c rest ih =>
      rw [hasWordFrom, Bool.or_eq_true, ih]
      simp only [Bool.and_eq_true, Bool.not_eq_true', List.isPrefixOf_iff_prefix]
      constructor
      · rintro (⟨⟨hword, ⟨after, hsplit⟩⟩, hafter⟩ | ⟨before, after, rfl, hbefore, hafter⟩)
        · rw [← hsplit, List.drop_left] at hafter
          exact ⟨[], after, hsplit.symm, hword, hafter⟩
        · exact ⟨c :: before, after, rfl, by rwa [endsWithWordChar_cons], hafter⟩
      · rintro ⟨before, after, hsplit, hbefore, hafter⟩
        cases before with
        | nil =>
            rw [List.nil_append] at hsplit
            rw [hsplit, List.drop_left]
            exact .inl ⟨⟨hbefore, List.prefix_append _ _⟩, hafter⟩
        | cons first before =>
            obtain ⟨rfl, rfl⟩ := List.cons.inj hsplit
            rw [endsWithWordChar_cons] at hbefore
            exact .inr ⟨before, after, rfl, hbefore, hafter⟩

/-- A word occurs in a text if it stands there and no word character touches it. -/
theorem hasWord_iff {word text : String} (hne : word ≠ "") :
    hasWord word text = true ↔
      ∃ before after, text.toList = before ++ (word.toList ++ after) ∧
        endsWithWordChar false before = false ∧ startsWithWordChar after = false :=
  hasWordFrom_iff (mt String.toList_eq_nil_iff.mp hne)

end Eligibility

/-! ## Lists of directives -/

namespace CacheControl

/-- Where the reading of a list stands: outside of quoted text, inside, or inside and behind a
backslash. -/
inductive Quoting where
  /-- Outside of quoted text. -/
  | outside
  /-- Inside quoted text. -/
  | inside
  /-- Inside quoted text, behind a backslash. -/
  | escaped
  deriving DecidableEq, Repr

/-- Where the reading stands behind a byte. -/
def Quoting.next : Quoting → UInt8 → Quoting
  | outside, b => if b = 0x22 then inside else outside
  | inside, b => if b = 0x22 then outside else if b = 0x5C then escaped else inside
  | escaped, _ => inside

/-- The members of a list, between the commas outside of quoted text. -/
def members (quoting : Quoting) : Bytes → List Bytes
  | [] => [[]]
  | b :: rest =>
    if quoting = .outside && b = 0x2C then [] :: members .outside rest
    else
      match members (quoting.next b) rest with
      | [] => [[b]]
      | member :: more => (b :: member) :: more

/-- Whether a byte is a blank or a tab. -/
def isBlank (b : UInt8) : Bool :=
  b = 0x20 || b = 0x09

/-- A member without the blanks around it. -/
def trimBlanks (member : Bytes) : Bytes :=
  ((member.dropWhile isBlank).reverse.dropWhile isBlank).reverse

/-- The names of the directives that a line lists; what follows an equals sign is a value. -/
def directives (line : Bytes) : List Bytes :=
  (members .outside line).map fun member => (Text.cutAt 0x3D (trimBlanks member)).1

/-- A letter in lower case; other bytes stay. -/
def lowerByte (b : UInt8) : UInt8 :=
  if 0x41 ≤ b && b ≤ 0x5A then b + 0x20 else b

/-- Whether a line lists a directive, in any letter case; the name is given in lower case. -/
def Lists (line : Bytes) (name : String) : Prop :=
  ∃ directive ∈ directives line, directive.map lowerByte = Bytes.ofString name

instance (line : Bytes) (name : String) : Decidable (Lists line name) :=
  inferInstanceAs (Decidable (∃ directive ∈ directives line, _))

/-! ## Where directives stand -/

/-- Whether a byte stands between the names of directives and what is around them. -/
def isSeparator (b : UInt8) : Bool :=
  b = 0x2C || b = 0x3D || isBlank b

/-- A part stands in a line, and what touches it are separators. -/
def StandsIn (part line : Bytes) : Prop :=
  ∃ before after, line = before ++ (part ++ after) ∧
    before.getLast?.all isSeparator = true ∧ after.head?.all isSeparator = true

namespace StandsIn

variable {part middle line : Bytes}

theorem trans (h : StandsIn part middle) (hmiddle : StandsIn middle line) : StandsIn part line := by
  obtain ⟨before, after, rfl, hbefore, hafter⟩ := h
  obtain ⟨start, rest, rfl, hstart, hrest⟩ := hmiddle
  refine ⟨start ++ before, after ++ rest, by simp, ?_, ?_⟩
  · rw [List.getLast?_append]
    cases hlast : before.getLast? with
    | none => exact hstart
    | some b => rwa [hlast] at hbefore
  · rw [List.head?_append]
    cases hhead : after.head? with
    | none => exact hrest
    | some b => rwa [hhead] at hafter

theorem reverse (h : StandsIn part line) : StandsIn part.reverse line.reverse := by
  obtain ⟨before, after, rfl, hbefore, hafter⟩ := h
  exact ⟨after.reverse, before.reverse, by simp, by simpa using hafter, by simpa using hbefore⟩

/-- What is left without the blanks at the start. -/
theorem dropWhile (line : Bytes) : StandsIn (line.dropWhile isBlank) line := by
  refine ⟨line.takeWhile isBlank, [], by simp, ?_, rfl⟩
  cases hlast : (line.takeWhile isBlank).getLast? with
  | none => rfl
  | some b =>
      have hblank : isBlank b = true :=
        List.all_eq_true.mp List.all_takeWhile b (List.mem_of_getLast? hlast)
      simp [isSeparator, hblank]

theorem trimBlanks (member : Bytes) : StandsIn (trimBlanks member) member := by
  have hend := (dropWhile (member.dropWhile isBlank).reverse).reverse
  rw [List.reverse_reverse] at hend
  exact hend.trans (dropWhile member)

/-- What comes before an equals sign. -/
theorem cutAt (line : Bytes) : StandsIn (Text.cutAt 0x3D line).1 line := by
  refine ⟨[], (Text.cutAt 0x3D line).2.elim [] (0x3D :: ·), (Text.append_cutAt 0x3D line).symm, rfl,
    ?_⟩
  cases (Text.cutAt 0x3D line).2 <;> rfl

/-- What comes behind a comma. -/
theorem behindComma (h : StandsIn part middle) (start : Bytes) :
    StandsIn part (start ++ 0x2C :: middle) :=
  h.trans ⟨start ++ [0x2C], [], by simp, by simp [isSeparator], rfl⟩

end StandsIn

theorem members_ne_nil (quoting : Quoting) (line : Bytes) : members quoting line ≠ [] := by
  cases line with
  | nil => exact List.cons_ne_nil _ _
  | cons b rest =>
      rw [members]
      split_ifs
      · exact List.cons_ne_nil _ _
      · split <;> exact List.cons_ne_nil _ _

/-- The first member is what a line starts with, up to a comma, and the others come behind commas. -/
theorem exists_of_members {quoting : Quoting} {line first : Bytes} {more : List Bytes}
    (h : members quoting line = first :: more) :
    (∃ after, line = first ++ after ∧ after.head?.all isSeparator = true) ∧
      ∀ member ∈ more, ∃ start rest, line = start ++ 0x2C :: rest ∧ StandsIn member rest := by
  induction line generalizing quoting first more with
  | nil =>
      obtain ⟨rfl, rfl⟩ := List.cons.inj h
      exact ⟨⟨[], rfl, rfl⟩, by simp⟩
  | cons b rest ih =>
      rw [members] at h
      split_ifs at h with hcomma
      · -- The line goes on behind a comma, where its next member is the first one.
        obtain ⟨rfl, rfl⟩ := List.cons.inj h
        simp only [Bool.and_eq_true, decide_eq_true_eq] at hcomma
        obtain ⟨-, rfl⟩ := hcomma
        refine ⟨⟨0x2C :: rest, rfl, rfl⟩, fun member hmember => ?_⟩
        obtain ⟨next, others, hnext⟩ := List.exists_cons_of_ne_nil (members_ne_nil .outside rest)
        obtain ⟨⟨after, hrest, hafter⟩, hothers⟩ := ih hnext
        rw [hnext] at hmember
        rcases List.mem_cons.mp hmember with rfl | hmember
        · exact ⟨[], rest, rfl, [], after, hrest, rfl, hafter⟩
        · obtain ⟨start, tail, rfl, hstands⟩ := hothers member hmember
          exact ⟨0x2C :: start, tail, rfl, hstands⟩
      · obtain ⟨next, others, hnext⟩ :=
          List.exists_cons_of_ne_nil (members_ne_nil (quoting.next b) rest)
        rw [hnext] at h
        obtain ⟨rfl, rfl⟩ := List.cons.inj h
        obtain ⟨⟨after, rfl, hafter⟩, hothers⟩ := ih hnext
        refine ⟨⟨after, rfl, hafter⟩, fun member hmember => ?_⟩
        obtain ⟨start, tail, hrest, hstands⟩ := hothers member hmember
        exact ⟨b :: start, tail, by rw [hrest]; rfl, hstands⟩

theorem standsIn_of_mem_members {quoting : Quoting} {line member : Bytes}
    (h : member ∈ members quoting line) : StandsIn member line := by
  obtain ⟨first, more, hmembers⟩ := List.exists_cons_of_ne_nil (members_ne_nil quoting line)
  obtain ⟨⟨after, hline, hafter⟩, hmore⟩ := exists_of_members hmembers
  rw [hmembers] at h
  rcases List.mem_cons.mp h with rfl | hmember
  · exact ⟨[], after, hline, rfl, hafter⟩
  · obtain ⟨start, rest, rfl, hstands⟩ := hmore member hmember
    exact hstands.behindComma start

/-- The name of a directive stands in the line that lists it, between separators. -/
theorem standsIn_of_mem_directives {line directive : Bytes} (h : directive ∈ directives line) :
    StandsIn directive line := by
  obtain ⟨member, hmember, rfl⟩ := List.mem_map.mp h
  exact ((StandsIn.cutAt _).trans (.trimBlanks member)).trans (standsIn_of_mem_members hmember)

/-! ## Lines that can be read -/

/-- A separator is no word character. -/
theorem isWordChar_of_isSeparator {b : UInt8} (h : isSeparator b = true) :
    Eligibility.isWordChar (Char.ofNat b.toNat) = false := by
  simp only [isSeparator, isBlank, Bool.or_eq_true, decide_eq_true_eq] at h
  rcases h with (rfl | rfl) | rfl | rfl <;> decide

/-- What can be read is one character for each byte. -/
theorem toList_of_readable? {value : Bytes} {text : String} (h : readable? value = some text) :
    text.toList = value.map fun b => Char.ofNat b.toNat := by
  unfold readable? at h
  split_ifs at h
  rw [← Option.some.inj h, String.toList_ofList]

/-- A printable word that stands between separators occurs in the text of the line. -/
theorem hasWord_of_standsIn {line : Bytes} {text word : String} (hne : word ≠ "")
    (hword : isPrintable word = true) (hread : readable? line = some text)
    (h : StandsIn (Bytes.ofString word) line) : Eligibility.hasWord word text = true := by
  obtain ⟨before, after, rfl, hbefore, hafter⟩ := h
  rw [Eligibility.hasWord_iff hne, toList_of_readable? hread,
    toList_of_readable? (readable?_ofString hword), List.map_append, List.map_append]
  refine ⟨_, _, rfl, ?_, ?_⟩
  · unfold Eligibility.endsWithWordChar
    rw [List.getLast?_map]
    cases hlast : before.getLast? with
    | none => rfl
    | some b =>
        rw [hlast] at hbefore
        exact isWordChar_of_isSeparator hbefore
  · unfold Eligibility.startsWithWordChar
    rw [List.head?_map]
    cases hhead : after.head? with
    | none => rfl
    | some b =>
        rw [hhead] at hafter
        exact isWordChar_of_isSeparator hafter

/-! ## Responses -/

/-- **A response that must not be transformed is not processed**, if the first line of `cache-control`
can be read and lists the directive in lower case. -/
theorem not_isEligibleResponse {status : Nat} {headers requestHeaders : Headers} {line : Bytes}
    {text : String} (hfirst : headers.get? "cache-control" = some line)
    (hread : readable? line = some text)
    (hlisted : Bytes.ofString "no-transform" ∈ directives line) :
    isEligibleResponse status headers requestHeaders = false := by
  have hword : Eligibility.hasWord "no-transform" text = true :=
    hasWord_of_standsIn (by decide) (by decide) hread (standsIn_of_mem_directives hlisted)
  have htext : Eligibility.firstText headers "cache-control" = text := by
    simp [Eligibility.firstText, hfirst, hread]
  simp [isEligibleResponse, htext, hword]

/-- The header fields of a document with lines of `cache-control`. -/
def documentWith (lines : List String) : Headers :=
  ⟨("content-type", Bytes.ofString "application/json") ::
    lines.map fun line => ("cache-control", Bytes.ofString line)⟩

/-- The directive is found among others. -/
theorem not_isEligibleResponse_private :
    (documentWith ["private=\"a, b\", no-transform", "public"]).get? "cache-control" =
      some (Bytes.ofString "private=\"a, b\", no-transform") ∧
    isEligibleResponse 200 (documentWith ["private=\"a, b\", no-transform", "public"]) ⟨[]⟩ =
      false := by
  have hfirst : (documentWith ["private=\"a, b\", no-transform", "public"]).get? "cache-control" =
      some (Bytes.ofString "private=\"a, b\", no-transform") := by decide +kernel
  exact ⟨hfirst, not_isEligibleResponse hfirst (readable?_ofString (by decide +kernel))
    (by decide +kernel)⟩

/-- Responses that list the directive are processed, where it is written in capital letters, in a line
behind the first one, and in a line that cannot be read as text. -/
theorem isEligibleResponse_overlooked :
    ([documentWith ["No-Transform"], documentWith ["public", "no-transform"],
        documentWith ["no-transform, note=\"é\""]].all fun headers =>
      (headers.getAll "cache-control").any (Lists · "no-transform") &&
        isEligibleResponse 200 headers ⟨[]⟩) = true := by
  decide +kernel

end CacheControl

end Hypermedia
