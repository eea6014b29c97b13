import Hypermedia.Proofs.Text.Pieces
import Hypermedia.Proofs.Url.Server

/-!
# Normal URLs

The path and the query of a URL that was read are normal: their characters stand for themselves, and
no segment is a dot segment.

* `Url.PlainSegment` says of a segment that a path keeps it as it is: `Url.plainSegment_readPath` finds
  such segments in every path that was read, and `Url.follow_of_plainSegment` enters them one by one.
* `Url.Normal` says that the path and the query of a URL of the web are normal, and
  `Url.normal_join` that references without a scheme lead to such URLs.
-/

namespace Hypermedia

/-! ## Encoded text -/

namespace Percent

/-- The characters that bytes are encoded with. -/
def signs : List Char :=
  "%0123456789ABCDEF".toList

theorem mem_signs_of_mem_encodeByte {b : UInt8} {c : Char} (h : c ∈ encodeByte b) : c ∈ signs := by
  have hdigit : ∀ n < 16, hexUpper n ∈ signs := by decide
  have hhigh : b.toNat / 16 < 16 := by
    have := b.toNat_lt
    omega
  have hlow : b.toNat % 16 < 16 := Nat.mod_lt _ (by decide)
  simp only [encodeByte, List.mem_cons, List.not_mem_nil, or_false] at h
  rcases h with rfl | rfl | rfl
  · decide
  · exact hdigit _ hhigh
  · exact hdigit _ hlow

/-- Encoded text consists of characters that stand for themselves, and of encoded bytes. -/
theorem mem_encode {keeps : Char → Bool} {s : List Char} {c : Char} (h : c ∈ encode keeps s) :
    (c ∈ s ∧ keeps c = true) ∨ c ∈ signs := by
  obtain ⟨other, hother, hc⟩ := List.mem_flatMap.mp h
  unfold encodeChar encodeBytes at hc
  split_ifs at hc with hkeeps
  · obtain rfl := List.mem_singleton.mp hc
    exact .inl ⟨hother, hkeeps⟩
  · obtain ⟨b, -, hb⟩ := List.mem_flatMap.mp hc
    exact .inr (mem_signs_of_mem_encodeByte hb)

/-- Text whose characters all stand for themselves is encoded as it is. -/
theorem encode_of_forall {keeps : Char → Bool} {s : List Char} (h : ∀ c ∈ s, keeps c = true) :
    encode keeps s = s := by
  unfold encode
  induction s with
  | nil => rfl
  | cons c rest ih =>
      rw [List.flatMap_cons, ih fun other hother => h other (List.mem_cons_of_mem _ hother),
        encodeChar, if_pos (h c List.mem_cons_self)]
      rfl

end Percent

namespace Url

/-! ## Characters -/

/-- Whether a character stands for itself in a segment of a URL of the web. -/
def isSegmentChar (c : Char) : Bool :=
  isPathChar c && !isSlash .web c

/-- What stands for itself is no blank if blanks do not. -/
theorem lt_toNat_of_isPlain {special : String} (hblank : ' ' ∈ special.toList) {c : Char}
    (h : isPlain special c = true) : 0x20 < c.toNat := by
  simp only [isPlain, Host.isPrintable, Bool.and_eq_true, decide_eq_true_eq, Bool.not_eq_true',
    List.contains_eq_mem, decide_eq_false_iff_not] at h
  have hne : c.toNat ≠ 0x20 := by
    intro heq
    have hc : c = ' ' := Char.toNat_inj.mp heq
    exact h.2 (hc ▸ hblank)
  omega

theorem lt_toNat_of_isSegmentChar {c : Char} (h : isSegmentChar c = true) : 0x20 < c.toNat :=
  lt_toNat_of_isPlain (by decide) (Bool.and_eq_true_iff.mp h).1

theorem lt_toNat_of_isQueryChar {c : Char} (h : isQueryChar .web c = true) : 0x20 < c.toNat :=
  lt_toNat_of_isPlain (by decide : ' ' ∈ " \"#<>'".toList) h

/-- What stands for itself does not end a path if the signs of the query and the fragment do not. -/
theorem isPathEnd_of_isSegmentChar {c : Char} (h : isSegmentChar c = true) :
    isPathEnd c = false := by
  rw [Bool.eq_false_iff]
  intro hend
  simp only [isPathEnd, Bool.or_eq_true, decide_eq_true_eq] at hend
  rcases hend with rfl | rfl
  · exact absurd h (by decide)
  · exact absurd h (by decide)

theorem ne_of_isQueryChar {c : Char} (h : isQueryChar .web c = true) : c ≠ '#' := by
  rintro rfl
  exact absurd h (by decide)

theorem isSlash_of_isSegmentChar {c : Char} (h : isSegmentChar c = true) :
    isSlash .web c = false := by
  simpa using (Bool.and_eq_true_iff.mp h).2

/-! ## Segments -/

/-- A segment that a path keeps as it is. -/
structure PlainSegment (segment : String) : Prop where
  /-- The characters stand for themselves. -/
  chars : ∀ c ∈ segment.toList, isSegmentChar c = true
  /-- The segment does not stand for the directory itself. -/
  not_single : isSingleDot segment = false
  /-- It does not stand for the directory above. -/
  not_double : isDoubleDot segment = false

theorem PlainSegment.empty : PlainSegment "" :=
  ⟨by simp, by decide +kernel, by decide +kernel⟩

/-- The segments that are read consist of characters that stand for themselves. -/
theorem isSegmentChar_of_mem_pieces {s : List Char} {segment : String}
    (hsegment : segment ∈ pieces .web s) {c : Char} (hc : c ∈ segment.toList) :
    isSegmentChar c = true := by
  obtain ⟨piece, hpiece, rfl⟩ := List.mem_map.mp hsegment
  rw [encoded, String.toList_ofList] at hc
  have hsigns : Percent.signs.all isSegmentChar = true := by decide
  rcases Percent.mem_encode hc with ⟨hin, hplain⟩ | hsign
  · obtain ⟨hmapped, hne⟩ := Text.mem_of_mem_splitOn hpiece hin
    obtain ⟨written, -, rfl⟩ := List.mem_map.mp hmapped
    -- A slash of either kind would have ended the piece.
    cases hslash : isSlash .web written with
    | true => exact absurd (if_pos hslash) hne
    | false =>
        simp only [hslash, Bool.false_eq_true, if_false] at hplain ⊢
        simp [isSegmentChar, hplain, hslash]
  · exact List.all_eq_true.mp hsigns c hsign

/-- On the web every segment is kept as it is. -/
@[simp] theorem keptSegment_web (directories : List String) (segment : String) :
    keptSegment .web directories segment = segment := by
  simp [keptSegment]

section Follow

variable {directories segments : List String} {segment : String}

theorem plainSegment_parent (h : ∀ segment ∈ directories, PlainSegment segment) :
    ∀ segment ∈ parent directories, PlainSegment segment := by
  unfold parent
  split_ifs
  · exact h
  · exact fun segment hsegment => h segment (List.dropLast_subset _ hsegment)

theorem plainSegment_concat (h : ∀ segment ∈ directories, PlainSegment segment)
    (hsegment : PlainSegment segment) :
    ∀ other ∈ directories ++ [segment], PlainSegment other := by
  intro other hother
  rcases List.mem_append.mp hother with hold | hlast
  · exact h other hold
  · exact List.mem_singleton.mp hlast ▸ hsegment

theorem plainSegment_enter (h : ∀ segment ∈ directories, PlainSegment segment)
    (hchars : ∀ c ∈ segment.toList, isSegmentChar c = true) :
    ∀ other ∈ enter .web directories segment, PlainSegment other := by
  unfold enter
  split_ifs with hdouble hsingle
  · exact plainSegment_parent h
  · exact h
  · rw [keptSegment_web]
    exact plainSegment_concat h ⟨hchars, by simpa using hsingle, by simpa using hdouble⟩

theorem plainSegment_endWith (h : ∀ segment ∈ directories, PlainSegment segment)
    (hchars : ∀ c ∈ segment.toList, isSegmentChar c = true) :
    ∀ other ∈ endWith .web directories segment, PlainSegment other := by
  unfold endWith
  split_ifs with hdouble hsingle
  · exact plainSegment_concat (plainSegment_parent h) .empty
  · exact plainSegment_concat h .empty
  · rw [keptSegment_web]
    exact plainSegment_concat h ⟨hchars, by simpa using hsingle, by simpa using hdouble⟩

/-- Dot segments are gone after segments were followed. -/
theorem plainSegment_follow (h : ∀ segment ∈ directories, PlainSegment segment)
    (hsegments : ∀ segment ∈ segments, ∀ c ∈ segment.toList, isSegmentChar c = true) :
    ∀ segment ∈ follow .web directories segments, PlainSegment segment := by
  induction segments generalizing directories with
  | nil => exact h
  | cons first rest ih =>
      have hfirst := hsegments first List.mem_cons_self
      cases rest with
      | nil => exact plainSegment_endWith h hfirst
      | cons next more =>
          exact ih (plainSegment_enter h hfirst)
            fun other hother => hsegments other (List.mem_cons_of_mem _ hother)

/-- A path that is read from plain directories has plain segments. -/
theorem plainSegment_readPath (h : ∀ segment ∈ directories, PlainSegment segment)
    (s : List Char) : ∀ segment ∈ (readPath .web directories s).1, PlainSegment segment :=
  plainSegment_follow h fun _ hsegment _ => isSegmentChar_of_mem_pieces hsegment

/-- Plain segments are entered one by one. -/
theorem follow_of_plainSegment (h : ∀ segment ∈ segments, PlainSegment segment) :
    follow .web directories segments = directories ++ segments := by
  induction segments generalizing directories with
  | nil => rw [List.append_nil, follow]
  | cons first rest ih =>
      obtain ⟨-, hsingle, hdouble⟩ := h first List.mem_cons_self
      cases rest with
      | nil => simp [follow, endWith, hsingle, hdouble]
      | cons next more =>
          rw [follow, ih fun other hother => h other (List.mem_cons_of_mem _ hother)]
          · simp [enter, hsingle, hdouble]
          · exact List.cons_ne_nil next more

/-- No more segments are left than were there. -/
theorem length_follow_le (form : Form) (directories segments : List String) :
    (follow form directories segments).length ≤ directories.length + segments.length := by
  have hparent : ∀ directories : List String, (parent directories).length ≤ directories.length := by
    intro directories
    unfold parent
    split_ifs
    · exact Nat.le_refl _
    · simp
  induction segments generalizing directories with
  | nil => exact Nat.le_refl _
  | cons first rest ih =>
      have hup := hparent directories
      cases rest with
      | nil =>
          rw [follow, endWith]
          split_ifs
          · simpa using hup
          · simp
          · simp
      | cons next more =>
          have hrest := ih (enter form directories first)
          have henter : (enter form directories first).length ≤ directories.length + 1 := by
            unfold enter
            split_ifs
            · exact Nat.le_succ_of_le hup
            · exact Nat.le_succ _
            · simp
          rw [follow]
          · simp only [List.length_cons] at hrest ⊢
            omega
          · exact List.cons_ne_nil next more

end Follow

/-! ## Normal URLs -/

/-- The path and the query of a URL of the web are normal. -/
structure Normal (url : Url) : Prop where
  /-- The path begins with a slash, and its segments are plain. -/
  path : ∃ first more, url.path = .rooted (first :: more) ∧
    ∀ segment ∈ first :: more, PlainSegment segment
  /-- The characters of the query stand for themselves. -/
  query : ∀ query, url.query = some query → ∀ c ∈ query.toList, isQueryChar .web c = true

/-- The characters of a query that was read stand for themselves. -/
theorem isQueryChar_of_readQuery {s : List Char} {query : String}
    (h : (readQuery .web s).1 = some query) {c : Char} (hc : c ∈ query.toList) :
    isQueryChar .web c = true := by
  unfold readQuery at h
  split at h
  · obtain rfl := Option.some.inj h
    rw [encoded, String.toList_ofList] at hc
    have hsigns : Percent.signs.all (isQueryChar .web) = true := by decide
    rcases Percent.mem_encode hc with ⟨-, hplain⟩ | hsign
    · exact hplain
    · exact List.all_eq_true.mp hsigns c hsign
  · cases h

namespace Normal

variable {base url : Url}

/-- A path and a query that were read are normal. -/
theorem mk_readPath {scheme : String} {authority : Option Authority} {fragment : Option String}
    {directories : List String} (hdirectories : ∀ segment ∈ directories, PlainSegment segment)
    (path query : List Char) :
    Normal ⟨scheme, authority, .rooted (readPath .web directories path).1,
      (readQuery .web query).1, fragment⟩ := by
  obtain ⟨first, more, hpath⟩ := exists_of_readPath .web directories path
  refine ⟨⟨first, more, congrArg _ hpath, ?_⟩, fun _ hquery _ => isQueryChar_of_readQuery hquery⟩
  rw [← hpath]
  exact plainSegment_readPath hdirectories path

theorem withFragment (h : base.Normal) (s : List Char) : (base.withFragment s).Normal :=
  ⟨h.path, h.query⟩

theorem withQuery (h : base.Normal) (hscheme : base.scheme = "http") (s : List Char) :
    (base.withQuery s).Normal := by
  refine ⟨h.path, fun query hquery c hc => isQueryChar_of_readQuery (s := s) ?_ hc⟩
  rw [← hquery]
  unfold Url.withQuery
  rw [hscheme]
  rfl

/-- The segments of a normal URL are plain. -/
theorem segments (h : base.Normal) : ∀ segment ∈ base.segments, PlainSegment segment := by
  obtain ⟨first, more, hpath, hplain⟩ := h.path
  unfold Url.segments
  rw [hpath]
  exact hplain

end Normal

/-- What follows a server makes a normal URL. -/
theorem normal_afterAuthority (authority : Authority) (s : List Char) :
    (afterAuthority "http" authority s).Normal := by
  have hform : formOf "http" = .web := rfl
  have hspecial : Form.web.isSpecial = true := rfl
  unfold afterAuthority
  simp only [hform, hspecial, Bool.not_true, Bool.false_and, Bool.false_eq_true, if_false]
  split_ifs
  · exact .mk_readPath (by simp) _ _
  · exact .mk_readPath (by simp) _ _

/-- A reference without a scheme leads from a normal URL to a normal URL. -/
theorem normal_readRelative {base url : Url} (h : base.Normal) (hscheme : base.scheme = "http")
    {s : List Char} (hread : readRelative base s = .ok url) : url.Normal := by
  have hform : formOf "http" = .web := rfl
  unfold readRelative at hread
  simp only [hscheme, hform] at hread
  split_ifs at hread
  · exact Except.ok.inj hread ▸ h.withFragment _
  · exact Except.ok.inj hread ▸ h.withQuery hscheme _
  · obtain ⟨⟨authority, rest⟩, -, hurl⟩ := exists_of_bind_eq_ok hread
    exact Except.ok.inj hurl ▸ normal_afterAuthority authority rest
  · obtain ⟨⟨authority, rest⟩, -, hurl⟩ := exists_of_bind_eq_ok hread
    exact Except.ok.inj hurl ▸ normal_afterAuthority authority rest
  · obtain rfl := Except.ok.inj hread
    unfold withQuery
    simp only [hform]
    exact .mk_readPath (by simp) _ _
  · obtain rfl := Except.ok.inj hread
    unfold withQuery
    simp only [hform]
    exact .mk_readPath (fun segment hsegment =>
      h.segments segment (List.dropLast_subset _ hsegment)) _ _

/-- A reference without a scheme leads from a normal URL to a normal URL. -/
theorem normal_join {base url : Url} {server : Authority} (hbase : base.OnServer server)
    (h : base.Normal) {reference : String} (hscheme : splitScheme? (clean reference) = none)
    (hjoin : base.join reference = .ok url) : url.Normal := by
  rw [join_eq_readRelative hbase hscheme] at hjoin
  exact normal_readRelative h hbase.scheme hjoin

end Url

end Hypermedia
