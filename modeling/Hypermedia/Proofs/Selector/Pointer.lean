import Hypermedia.Proofs.Text.Pieces
import Hypermedia.Selector.Pointer

/-!
# Reading the pointers that are written

A pointer is written with a slash before each segment, and read by cutting at the slashes. Slashes
at both ends do not count, so that a path which starts or ends with an empty key is not read back.

* `Segment.ofPiece_text` reads one segment back. Only the key `*` cannot be written, because its
  text is that of the wildcard.
* `Segment.Writable` are the paths that can be read back, `Segment.ofPointer_render` reads them.
* `Segment.writable_ofPointer` says that every pointer is read as such a path.
-/

namespace Hypermedia.Segment

/-! ## Escapes -/

/-- An escaped key is read back. -/
theorem unescapeChars_escapeChars (s : List Char) : unescapeChars (escapeChars s) = s := by
  induction s with
  | nil => rfl
  | cons c rest ih =>
      unfold escapeChars at ih ⊢
      rw [List.flatMap_cons]
      by_cases htilde : c = '~'
      · subst htilde
        exact congrArg (List.cons '~') ih
      · by_cases hslash : c = '/'
        · subst hslash
          exact congrArg (List.cons '/') ih
        · rw [if_neg htilde, if_neg hslash, List.singleton_append, unescapeChars.eq_4 _ _ ?_ ?_, ih]
          · exact fun _ hc _ => htilde hc
          · exact fun _ hc _ => htilde hc

/-- An escaped key has no slash. -/
theorem slash_not_mem_escapeChars (s : List Char) : '/' ∉ escapeChars s := by
  unfold escapeChars
  intro hmem
  obtain ⟨c, -, hc⟩ := List.mem_flatMap.mp hmem
  by_cases htilde : c = '~'
  · simp [htilde] at hc
  · by_cases hslash : c = '/'
    · simp [hslash] at hc
    · rw [if_neg htilde, if_neg hslash, List.mem_singleton] at hc
      exact hslash hc.symm

/-- Only the empty key is written with no character. -/
theorem escapeChars_eq_nil {s : List Char} (h : escapeChars s = []) : s = [] := by
  rw [← unescapeChars_escapeChars s, h]
  rfl

/-- A piece that has characters is read as a key that has some. -/
theorem unescapeChars_eq_nil {s : List Char} (h : unescapeChars s = []) : s = [] := by
  fun_cases unescapeChars s with
  | case1 => rfl
  | case2 => simp [unescapeChars] at h
  | case3 => simp [unescapeChars] at h
  | case4 => simp_all [unescapeChars]

/-- Only the piece `*` is read as the characters of the wildcard. -/
theorem unescapeChars_eq_star {s : List Char} (h : unescapeChars s = ['*']) : s = ['*'] := by
  fun_cases unescapeChars s with
  | case1 => simp [unescapeChars] at h
  | case2 => simp [unescapeChars] at h
  | case3 => simp [unescapeChars] at h
  | case4 c rest hone hzero =>
      rw [unescapeChars.eq_4 _ _ hone hzero] at h
      obtain ⟨rfl, hrest⟩ := List.cons.inj h
      rw [unescapeChars_eq_nil hrest]

/-! ## Single segments -/

theorem toList_text_key (name : String) : (key name).text.toList = escapeChars name.toList := by
  unfold text escape
  exact String.toList_ofList

/-- A segment is written without a slash. -/
theorem slash_not_mem_text (segment : Segment) : '/' ∉ segment.text.toList := by
  cases segment with
  | key name =>
      rw [toList_text_key]
      exact slash_not_mem_escapeChars _
  | wildcard => decide

/-- Only the empty key is written with no character. -/
theorem toList_text_ne_nil {segment : Segment} (h : segment ≠ key "") :
    segment.text.toList ≠ [] := by
  cases segment with
  | key name =>
      rw [toList_text_key]
      intro hnil
      exact h (congrArg key (String.toList_eq_nil_iff.mp (escapeChars_eq_nil hnil)))
  | wildcard => decide

/-- A segment is read back, unless it is the key whose text is that of the wildcard. -/
theorem ofPiece_text {segment : Segment} (h : segment ≠ key "*") :
    ofPiece segment.text.toList = segment := by
  cases segment with
  | key name =>
      rw [toList_text_key]
      have hread := unescapeChars_escapeChars name.toList
      have hstar : escapeChars name.toList ≠ ['*'] := by
        intro heq
        rw [heq] at hread
        apply h
        rw [← String.ofList_toList (s := name), ← hread]
        rfl
      rw [ofPiece, if_neg hstar, hread, String.ofList_toList]
  | wildcard => rfl

/-- No piece is read as the key whose text is that of the wildcard. -/
theorem ofPiece_ne_star (piece : List Char) : ofPiece piece ≠ key "*" := by
  unfold ofPiece
  split
  · exact Segment.noConfusion
  · next hstar =>
    intro heq
    apply hstar
    apply unescapeChars_eq_star
    rw [← String.toList_ofList (l := unescapeChars piece), Segment.key.inj heq]
    rfl

/-- Only the empty piece is read as the empty key. -/
theorem ofPiece_eq_empty {piece : List Char} (h : ofPiece piece = key "") : piece = [] := by
  unfold ofPiece at h
  split at h
  · cases h
  · apply unescapeChars_eq_nil
    rw [← String.toList_ofList (l := unescapeChars piece), Segment.key.inj h]
    rfl

/-! ## Paths -/

/-- A path that can be written and read back: no key has the text of the wildcard, and the path
neither starts nor ends with an empty key. -/
structure Writable (path : List Segment) : Prop where
  /-- No key has the text of the wildcard. -/
  ne_star : ∀ segment ∈ path, segment ≠ key "*"
  /-- The path does not start with an empty key. -/
  head?_ne : path.head? ≠ some (key "")
  /-- The path does not end with an empty key. -/
  getLast?_ne : path.getLast? ≠ some (key "")

/-- A path as a pointer writes it, character by character. -/
def chars (path : List Segment) : List Char :=
  path.flatMap fun segment => '/' :: segment.text.toList

/-- Writes a pointer behind another one. -/
def renderFrom (start : String) (path : List Segment) : String :=
  path.foldl (fun pointer segment => pointer ++ "/" ++ segment.text) start

/-- The characters of a pointer that is written behind another one. -/
theorem toList_renderFrom (path : List Segment) (start : String) :
    (renderFrom start path).toList = start.toList ++ chars path := by
  unfold renderFrom
  induction path generalizing start with
  | nil => simp [chars]
  | cons segment rest ih =>
      rw [List.foldl_cons, ih]
      simp [chars]

/-- The characters of a pointer that is written. -/
theorem toList_render (path : List Segment) : (render path).toList = chars path :=
  toList_renderFrom path ""

/-- Cutting a pointer at its slashes yields the texts of its segments. -/
theorem splitOn_text_append_chars (segment : Segment) (rest : List Segment) :
    Text.splitOn '/' (segment.text.toList ++ chars rest) =
      (segment :: rest).map (·.text.toList) := by
  induction rest generalizing segment with
  | nil =>
      unfold chars
      rw [List.flatMap_nil, List.append_nil,
        Text.splitOn_of_not_mem (slash_not_mem_text segment)]
      rfl
  | cons next rest ih =>
      have hchars : chars (next :: rest) = '/' :: (next.text.toList ++ chars rest) := rfl
      rw [hchars, Text.splitOn_append_cons (slash_not_mem_text segment), ih next]
      rfl

/-- A pointer ends with the text of its last segment. -/
theorem getLast?_chars_ne {path : List Segment} (h : path.getLast? ≠ some (key "")) :
    (chars path).getLast? ≠ some '/' := by
  cases hlast : path.getLast? with
  | none =>
      rw [List.getLast?_eq_none_iff.mp hlast]
      simp [chars]
  | some last =>
      obtain ⟨init, rfl⟩ := List.getLast?_eq_some_iff.mp hlast
      have hne : last.text.toList ≠ [] := by
        apply toList_text_ne_nil
        rintro rfl
        exact h hlast
      have hchars : chars (init ++ [last]) = chars init ++ '/' :: last.text.toList := by
        simp [chars]
      intro hslash
      obtain ⟨first, more, htext⟩ := List.exists_cons_of_ne_nil hne
      rw [hchars, htext, List.getLast?_append, List.getLast?_cons_cons] at hslash
      rw [List.getLast?_eq_some_getLast (List.cons_ne_nil first more), Option.some_or,
        Option.some.injEq] at hslash
      apply slash_not_mem_text last
      rw [htext, ← hslash]
      exact List.getLast_mem _

/-- What is written is read back. -/
theorem ofPointer_render {path : List Segment} (h : Writable path) :
    ofPointer (render path) = path := by
  unfold ofPointer
  rw [toList_render]
  cases path with
  | nil => rfl
  | cons first rest =>
      have hfirst : first ≠ key "" := fun heq => h.head?_ne (congrArg some heq)
      have hchars : chars (first :: rest) = '/' :: (first.text.toList ++ chars rest) := rfl
      obtain ⟨c, more, htext⟩ := List.exists_cons_of_ne_nil (toList_text_ne_nil hfirst)
      have hhead : (first.text.toList ++ chars rest).head? ≠ some '/' := by
        intro hslash
        rw [htext, List.cons_append, List.head?_cons, Option.some.injEq] at hslash
        apply slash_not_mem_text first
        rw [htext, hslash]
        exact List.mem_cons_self
      have hlast : (first.text.toList ++ chars rest).getLast? ≠ some '/' := by
        have hall := getLast?_chars_ne h.getLast?_ne
        rwa [hchars, htext, List.cons_append, List.getLast?_cons_cons, ← List.cons_append,
          ← htext] at hall
      rw [hchars, Text.trimEnds_cons hhead hlast]
      have hread : (Text.splitOn '/' (first.text.toList ++ chars rest)).map ofPiece =
          first :: rest := by
        rw [splitOn_text_append_chars, List.map_map]
        conv_rhs => rw [← List.map_id (first :: rest)]
        apply List.map_congr_left
        intro segment hsegment
        exact ofPiece_text (h.ne_star segment hsegment)
      split
      · next hnil => simp [htext] at hnil
      · exact hread

/-- Every pointer is read as a path that can be written. -/
theorem writable_ofPointer (pointer : String) : Writable (ofPointer pointer) := by
  unfold ofPointer
  have hhead := Text.head?_trimEnds_ne '/' pointer.toList
  have hlast := Text.getLast?_trimEnds_ne '/' pointer.toList
  generalize Text.trimEnds '/' pointer.toList = inner at hhead hlast
  cases inner with
  | nil => exact ⟨by simp, by simp, by simp⟩
  | cons c rest =>
      have hne : c :: rest ≠ [] := List.cons_ne_nil c rest
      refine ⟨?_, ?_, ?_⟩
      · intro segment hsegment
        obtain ⟨piece, -, rfl⟩ := List.mem_map.mp hsegment
        exact ofPiece_ne_star piece
      · intro hempty
        rw [List.head?_map] at hempty
        obtain ⟨piece, hpiece, hkey⟩ := Option.map_eq_some_iff.mp hempty
        rw [ofPiece_eq_empty hkey] at hpiece
        exact Text.head?_splitOn_ne hne hhead hpiece
      · intro hempty
        rw [List.getLast?_map] at hempty
        obtain ⟨piece, hpiece, hkey⟩ := Option.map_eq_some_iff.mp hempty
        rw [ofPiece_eq_empty hkey] at hpiece
        exact Text.getLast?_splitOn_ne hne hlast hpiece

end Hypermedia.Segment
