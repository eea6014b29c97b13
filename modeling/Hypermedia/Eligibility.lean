import Hypermedia.Directive

/-!
# Eligibility

Which exchanges are processed at all.

* `isEligibleRequest` asks for a non-empty directive.
* `isEligibleResponse` asks for a successful JSON response that may be transformed, and for a client
  that does not prefer another selector syntax than JSON pointers.
-/

namespace Hypermedia

/-! ## Requests -/

/-- Whether the request carries a non-empty directive, as header field or in the query. -/
def isEligibleRequest (headers : Headers) (uri : Uri) : Bool :=
  Kind.all.any (fun kind => (headers.getAll kind.name).any (!·.isEmpty)) ||
    (Query.pairs (uri.query.getD "")).any fun (name, value) =>
      !value.isEmpty && Kind.all.any (·.name = name)

/-! ## Words in header fields -/

namespace Eligibility

/-- The characters that words are made of; the texts here are ASCII. -/
def isWordChar (c : Char) : Bool :=
  c.isAlphanum || c = '_'

/-- Whether the text continues with a word character. -/
def startsWithWordChar (s : List Char) : Bool :=
  s.head?.any isWordChar

/-- Whether `word` occurs where no word character touches it; `inWord` says whether the character
before the text is one. -/
def hasWordFrom (word : List Char) (inWord : Bool) : List Char → Bool
  | [] => false
  | c :: rest =>
    (!inWord && word.isPrefixOf (c :: rest) &&
        !startsWithWordChar ((c :: rest).drop word.length)) ||
      hasWordFrom word (isWordChar c) rest

/-- Whether the non-empty `word`, which begins and ends with word characters, occurs in the text
as a word of its own. -/
def hasWord (word : String) (text : String) : Bool :=
  hasWordFrom word.toList false text.toList

/-- The text of the first value of a field, empty if there is none or it is not readable. -/
def firstText (headers : Headers) (name : String) : String :=
  ((headers.get? name).bind readable?).getD ""

/-- Whether a preference asks for JSON pointers as selectors. -/
def prefersPointers (preference : String) : Bool :=
  let s := preference.toList
  Text.occursIn "selector=json-pointer".toList s ||
    Text.occursIn "selector=\"json-pointer".toList s

/-- Whether a list of preferences allows JSON pointers: there is none, or some readable one asks
for them. -/
def allowsPointers (preferences : List Bytes) : Bool :=
  preferences.isEmpty || preferences.any fun value => (readable? value).any prefersPointers

end Eligibility

/-! ## Responses -/

/-- Whether a status code is that of a success. -/
def isSuccess (status : Nat) : Bool :=
  200 ≤ status && status < 300

/-- Whether a response is a JSON success that may be transformed, for a client that does not prefer
another selector syntax. -/
def isEligibleResponse (status : Nat) (headers requestHeaders : Headers) : Bool :=
  isSuccess status &&
    Eligibility.hasWord "json" (Eligibility.firstText headers "content-type").toLower &&
    !Eligibility.hasWord "no-transform" (Eligibility.firstText headers "cache-control") &&
    Eligibility.allowsPointers (requestHeaders.getAll "prefer")

end Hypermedia
