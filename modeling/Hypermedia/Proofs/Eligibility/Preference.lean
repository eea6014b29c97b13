import Hypermedia.Proofs.Eligibility.CacheControl

/-!
# The preferred syntax of selectors

A client may name the syntax of its selectors by the preference `selector`. Commas separate the
preferences of a line, semicolons the parameters of a preference, and blanks may stand around each.

* `Preference.parts` are the preferences and parameters of a line, `Preference.asksForPointers` is
  whether one of them names JSON pointers, bare or as a quoted string.
* `Preference.prefersPointers_iff` says that a line is searched part by part, because what is searched
  for holds no separator and no blank.
* `Preference.isEligibleResponse_iff_mentioned` says that one part has to mention JSON pointers, with
  whatever comes before and behind, and when this is the same as to ask for them.
  `Preference.isEligibleResponse_mentioned` are parts that only mention them.
-/

namespace Hypermedia

namespace Preference

open Eligibility

/-! ## Preferences and parameters -/

/-- Whether a character is a blank or a tab. -/
def isBlank (c : Char) : Bool :=
  c = ' ' || c = '\t'

/-- A part without the blanks around it. -/
def trimBlanks (part : List Char) : List Char :=
  ((part.dropWhile isBlank).reverse.dropWhile isBlank).reverse

/-- The preferences of a line and their parameters. -/
def parts (line : String) : List (List Char) :=
  ((Text.splitOn ',' line.toList).flatMap (Text.splitOn ';')).map trimBlanks

/-- The preferences of the lines that can be read, and their parameters. -/
def partsOf (lines : List Bytes) : List (List Char) :=
  (lines.filterMap readable?).flatMap parts

/-- The two forms of the value that stands for JSON pointers. -/
def pointerValues : List (List Char) :=
  ["json-pointer".toList, "\"json-pointer\"".toList]

/-- Whether the name of a part is `selector` and its value stands for JSON pointers. -/
def asksForPointers (part : List Char) : Bool :=
  (Text.cutAt '=' part).1 = "selector".toList && (Text.cutAt '=' part).2.any pointerValues.contains

/-- A part mentions JSON pointers if `selector` and the value stand in it, the latter perhaps with a
quote before it. -/
def MentionsPointers (part : List Char) : Prop :=
  "selector=json-pointer".toList <:+: part ∨ "selector=\"json-pointer".toList <:+: part

/-- A part that asks for JSON pointers mentions them. -/
theorem mentionsPointers_of_asks {part : List Char} (h : asksForPointers part = true) :
    MentionsPointers part := by
  have hpart := Text.append_cutAt '=' part
  unfold asksForPointers at h
  rw [Bool.and_eq_true, decide_eq_true_eq, Option.any_eq_true] at h
  obtain ⟨hname, value, hvalue, hform⟩ := h
  rw [hname, hvalue] at hpart
  rw [List.contains_iff_mem, pointerValues, List.mem_cons, List.mem_singleton] at hform
  rcases hform with rfl | rfl
  · exact .inl (hpart ▸ List.infix_refl _)
  · refine .inr (hpart ▸ ?_)
    exact ⟨[], ['"'], rfl⟩

/-! ## Searching a line -/

/-- What starts and ends with other characters stands in a part exactly if it does without the blanks
around it. -/
theorem infix_trimBlanks_iff {first last : Char} {middle part : List Char}
    (hfirst : isBlank first = false) (hlast : isBlank last = false) :
    first :: (middle ++ [last]) <:+: trimBlanks part ↔ first :: (middle ++ [last]) <:+: part := by
  unfold trimBlanks
  have hreverse : (first :: (middle ++ [last])).reverse = last :: (middle.reverse ++ [first]) := by
    simp
  rw [← List.reverse_infix, List.reverse_reverse, hreverse, Text.infix_dropWhile_iff hlast,
    ← hreverse, List.reverse_infix, Text.infix_dropWhile_iff hfirst]

/-- What holds no separator, and starts and ends with other characters than blanks, stands in a line
exactly if it stands in one of its parts. -/
theorem infix_line_iff {first last : Char} (middle : List Char) {line : String}
    (hfirst : isBlank first = false) (hlast : isBlank last = false)
    (hcomma : ',' ∉ first :: (middle ++ [last])) (hsemicolon : ';' ∉ first :: (middle ++ [last])) :
    first :: (middle ++ [last]) <:+: line.toList ↔
      ∃ part ∈ parts line, first :: (middle ++ [last]) <:+: part := by
  rw [Text.infix_splitOn_iff hcomma]
  unfold parts
  constructor
  · rintro ⟨preference, hpreference, hinfix⟩
    obtain ⟨part, hpart, hinfix⟩ := (Text.infix_splitOn_iff hsemicolon).mp hinfix
    refine ⟨trimBlanks part, ?_, (infix_trimBlanks_iff hfirst hlast).mpr hinfix⟩
    exact List.mem_map_of_mem (List.mem_flatMap.mpr ⟨preference, hpreference, hpart⟩)
  · rintro ⟨part, hpart, hinfix⟩
    obtain ⟨untrimmed, huntrimmed, rfl⟩ := List.mem_map.mp hpart
    obtain ⟨preference, hpreference, hmem⟩ := List.mem_flatMap.mp huntrimmed
    refine ⟨preference, hpreference, (Text.infix_splitOn_iff hsemicolon).mpr ?_⟩
    exact ⟨untrimmed, hmem, (infix_trimBlanks_iff hfirst hlast).mp hinfix⟩

/-- A line is searched part by part. -/
theorem prefersPointers_iff {line : String} :
    prefersPointers line = true ↔ ∃ part ∈ parts line, MentionsPointers part := by
  have hbare : "selector=json-pointer".toList <:+: line.toList ↔
      ∃ part ∈ parts line, "selector=json-pointer".toList <:+: part :=
    infix_line_iff "elector=json-pointe".toList (by decide) (by decide) (by decide) (by decide)
  have hquoted : "selector=\"json-pointer".toList <:+: line.toList ↔
      ∃ part ∈ parts line, "selector=\"json-pointer".toList <:+: part :=
    infix_line_iff "elector=\"json-pointe".toList (by decide) (by decide) (by decide) (by decide)
  unfold prefersPointers MentionsPointers
  simp only [Bool.or_eq_true, Text.occursIn_iff, hbare, hquoted, and_or_left, exists_or]

/-- Preferences allow JSON pointers if there are none, or some part of a line that can be read mentions
them. -/
theorem allowsPointers_iff {lines : List Bytes} :
    allowsPointers lines = true ↔ lines = [] ∨ ∃ part ∈ partsOf lines, MentionsPointers part := by
  unfold allowsPointers partsOf
  rw [Bool.or_eq_true, List.isEmpty_iff, List.any_eq_true]
  apply or_congr_right
  constructor
  · rintro ⟨line, hline, hread⟩
    obtain ⟨text, htext, hprefers⟩ := Option.any_eq_true _ _ |>.mp hread
    obtain ⟨part, hpart, hmentions⟩ := prefersPointers_iff.mp hprefers
    refine ⟨part, List.mem_flatMap.mpr ⟨text, ?_, hpart⟩, hmentions⟩
    exact List.mem_filterMap.mpr ⟨line, hline, htext⟩
  · rintro ⟨part, hpart, hmentions⟩
    obtain ⟨text, htext, hmem⟩ := List.mem_flatMap.mp hpart
    obtain ⟨line, hline, hread⟩ := List.mem_filterMap.mp htext
    refine ⟨line, hline, ?_⟩
    rw [hread]
    exact prefersPointers_iff.mpr ⟨part, hmem, hmentions⟩

/-! ## Responses -/

/-- A response that is a JSON success and may be transformed. -/
structure Transformable (status : Nat) (headers : Headers) : Prop where
  /-- It is a success. -/
  isSuccess : isSuccess status = true
  /-- Its type names JSON. -/
  isJson : hasWord "json" (firstText headers "content-type").toLower = true
  /-- It is not forbidden to transform it. -/
  mayTransform : hasWord "no-transform" (firstText headers "cache-control") = false

/-- Whether such a response is processed depends on the preferences of the client only. -/
theorem Transformable.isEligibleResponse_eq {status : Nat} {headers : Headers}
    (h : Transformable status headers) (requestHeaders : Headers) :
    isEligibleResponse status headers requestHeaders =
      allowsPointers (requestHeaders.getAll "prefer") := by
  simp [isEligibleResponse, h.isSuccess, h.isJson, h.mayTransform]

/-- **The preferred syntax of selectors.** A JSON success that may be transformed is processed exactly if
the request has no preferences, or in a line that can be read some part mentions JSON pointers. It is
processed if a part asks for them. It is processed exactly if there are no preferences or a part asks
for them, unless parts mention them and none asks for them. -/
theorem isEligibleResponse_iff_mentioned {status : Nat} {headers : Headers}
    (h : Transformable status headers) (requestHeaders : Headers) :
    let lines := requestHeaders.getAll "prefer"
    let asked := ∃ part ∈ partsOf lines, asksForPointers part = true
    let mentioned := ∃ part ∈ partsOf lines, MentionsPointers part
    (isEligibleResponse status headers requestHeaders = true ↔ lines = [] ∨ mentioned) ∧
    (asked → isEligibleResponse status headers requestHeaders = true) ∧
    ((isEligibleResponse status headers requestHeaders = true ↔ lines = [] ∨ asked) ↔
      (mentioned → asked)) := by
  intro lines asked mentioned
  have heligible : isEligibleResponse status headers requestHeaders = true ↔
      lines = [] ∨ mentioned := by
    rw [h.isEligibleResponse_eq, allowsPointers_iff]
  have hmentioned : asked → mentioned := by
    rintro ⟨part, hpart, hasks⟩
    exact ⟨part, hpart, mentionsPointers_of_asks hasks⟩
  -- Without lines there are no parts.
  have hnone : lines = [] → ¬mentioned := by
    rintro hlines ⟨part, hpart, -⟩
    rw [hlines] at hpart
    cases hpart
  refine ⟨heligible, fun hasked => heligible.mpr (.inr (hmentioned hasked)), ?_⟩
  rw [heligible]
  constructor
  · intro hsame hmention
    exact (hsame.mp (.inr hmention)).resolve_left fun hlines => hnone hlines hmention
  · intro hasked
    exact or_congr_right ⟨hasked, hmentioned⟩

/-- The header fields of a request with one line of preferences. -/
def requestWith (line : String) : Headers :=
  ⟨[("prefer", Bytes.ofString line)]⟩

/-- A parameter asks for JSON pointers by a quoted string. -/
theorem isEligibleResponse_iff_mentioned_quoted :
    Transformable 200 (CacheControl.documentWith ["public"]) ∧
    isEligibleResponse 200 (CacheControl.documentWith ["public"])
      (requestWith "return=minimal ;\tselector=\"json-pointer\" , wait=5") = true := by
  have htransformable : Transformable 200 (CacheControl.documentWith ["public"]) :=
    ⟨by decide +kernel, by decide +kernel, by decide +kernel⟩
  refine ⟨htransformable, (isEligibleResponse_iff_mentioned htransformable _).2.1 ?_⟩
  exact ⟨"selector=\"json-pointer\"".toList, by decide +kernel, by decide +kernel⟩

/-- Responses are processed where no part asks for JSON pointers: the name is longer, the value is
longer, a quote is missing at either end, or both stand in the quoted value of something else. -/
theorem isEligibleResponse_mentioned :
    (["x-selector=json-pointer", "selector=json-pointer-legacy", "selector=\"json-pointer",
        "selector=json-pointer\"", "note=\"selector=json-pointer\""].all fun line =>
      isEligibleResponse 200 (CacheControl.documentWith []) (requestWith line) &&
        (partsOf ((requestWith line).getAll "prefer")).all (!asksForPointers ·)) = true ∧
    ¬∀ requestHeaders : Headers,
      isEligibleResponse 200 (CacheControl.documentWith []) requestHeaders = true ↔
        requestHeaders.getAll "prefer" = [] ∨
          ∃ part ∈ partsOf (requestHeaders.getAll "prefer"), asksForPointers part = true := by
  refine ⟨by decide +kernel, fun hall => ?_⟩
  have hasked := (hall (requestWith "x-selector=json-pointer")).mp (by decide +kernel)
  revert hasked
  decide +kernel

end Preference

end Hypermedia
