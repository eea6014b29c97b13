/-!
# Pieces of text

Cutting a sequence at a separator, trimming it at both ends, and replacing or finding one
sequence inside another. Everything works on lists and recurses on the list itself.

* `splitOn` cuts at every separator and never returns an empty list of pieces.
* `trimEnds` drops a symbol from both ends.
* `replaceAll` replaces the occurrences of a needle, leftmost first, without overlap.
* `occursIn` says whether a needle occurs at all.
-/

namespace Hypermedia.Text

variable {α : Type} [DecidableEq α]

/-- The pieces between the occurrences of `sep`; `n` separators give `n + 1` pieces. -/
def splitOn (sep : α) : List α → List (List α)
  | [] => [[]]
  | c :: rest =>
    if c = sep then [] :: splitOn sep rest
    else
      match splitOn sep rest with
      | [] => [[c]]
      | piece :: pieces => (c :: piece) :: pieces

/-- Everything before the first `sep`, and what follows it if there is one. -/
def cutAt (sep : α) : List α → List α × Option (List α)
  | [] => ([], none)
  | c :: rest =>
    if c = sep then ([], some rest)
    else
      let (before, after) := cutAt sep rest
      (c :: before, after)

/-- The list without its trailing occurrences of `c`. -/
def trimEnd (c : α) (s : List α) : List α :=
  (s.reverse.dropWhile (· = c)).reverse

/-- The list without its leading and trailing occurrences of `c`. -/
def trimEnds (c : α) (s : List α) : List α :=
  trimEnd c (s.dropWhile (· = c))

/-- Replacement with the number of symbols of the last match that are still to be skipped. -/
def replaceFrom (needle replacement : List α) : Nat → List α → List α
  | _, [] => []
  | skip + 1, _ :: rest => replaceFrom needle replacement skip rest
  | 0, c :: rest =>
    if needle.isPrefixOf (c :: rest) then
      replacement ++ replaceFrom needle replacement (needle.length - 1) rest
    else c :: replaceFrom needle replacement 0 rest

/-- Replaces every occurrence of a non-empty `needle`, leftmost first and without overlap. -/
def replaceAll (needle replacement s : List α) : List α :=
  replaceFrom needle replacement 0 s

/-- Whether `needle` occurs somewhere in the list. -/
def occursIn (needle : List α) : List α → Bool
  | [] => needle.isEmpty
  | c :: rest => needle.isPrefixOf (c :: rest) || occursIn needle rest

/-- Cutting never yields an empty list of pieces. -/
theorem splitOn_ne_nil (sep : α) (s : List α) : splitOn sep s ≠ [] := by
  induction s with
  | nil => simp [splitOn]
  | cons c rest ih =>
    rw [splitOn]
    split
    · simp
    · split <;> simp

end Hypermedia.Text
