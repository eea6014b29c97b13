import Mathlib.Data.List.TakeWhile
import Hypermedia.Proofs.Url.Normal

/-!
# Reading a path and query again

The path and query of a normal URL lead back to the same path and query when they are read as a
reference, unless they begin with two slashes and so name a server.

* `Url.Normal.namesServer_pathAndQuery` says when they name a server.
* `Url.join_pathAndQuery` says where they lead if they do not.
* `Url.length_segments_join_lt` says that fewer segments are left if they do.
-/

namespace Hypermedia.Url

/-! ## Paths and queries as they are written -/

/-- Segments as they are written, each after a slash. -/
def written (segments : List String) : List Char :=
  segments.flatMap fun segment => '/' :: segment.toList

theorem toList_text_rooted (segments : List String) :
    (Path.rooted segments).text.toList = written segments := by
  unfold Path.text written
  rw [String.toList_join, List.flatMap_map]
  simp

/-- The characters of plain segments as they are written. -/
theorem forall_mem_written {segments : List String} {P : Char → Prop} (hslash : P '/')
    (hchar : ∀ c, isSegmentChar c = true → P c)
    (h : ∀ segment ∈ segments, PlainSegment segment) : ∀ c ∈ written segments, P c := by
  intro c hc
  obtain ⟨segment, hsegment, hin⟩ := List.mem_flatMap.mp hc
  rcases List.mem_cons.mp hin with rfl | hin
  · exact hslash
  · exact hchar c ((h segment hsegment).chars c hin)

/-- What a segment consists of is no slash. -/
theorem map_slash_of_forall {s : List Char} (h : ∀ c ∈ s, isSegmentChar c = true) :
    s.map (fun c => if isSlash .web c = true then '/' else c) = s := by
  refine (List.map_congr_left fun c hc => ?_).trans (List.map_id s)
  rw [isSlash_of_isSegmentChar (h c hc), if_neg Bool.false_ne_true, id]

/-- So a segment is not cut where it is written. -/
theorem PlainSegment.slash_not_mem {segment : String} (h : PlainSegment segment) :
    '/' ∉ segment.toList :=
  fun hin => absurd (h.chars '/' hin) (by decide)

theorem encoded_of_plainSegment {segment : String} (h : PlainSegment segment) :
    encoded isPathChar segment.toList = segment := by
  rw [encoded, Percent.encode_of_forall fun c hc => (Bool.and_eq_true_iff.mp (h.chars c hc)).1,
    String.ofList_toList]

/-- Plain segments are read as they are written. -/
theorem pieces_written {first : String} {more : List String}
    (h : ∀ segment ∈ first :: more, PlainSegment segment) :
    pieces .web (first.toList ++ written more) = first :: more := by
  induction more generalizing first with
  | nil =>
      have hfirst := h first List.mem_cons_self
      rw [written, List.flatMap_nil, List.append_nil, pieces, map_slash_of_forall hfirst.chars,
        Text.splitOn_of_not_mem hfirst.slash_not_mem, List.map_singleton,
        encoded_of_plainSegment hfirst]
  | cons next rest ih =>
      have hfirst := h first List.mem_cons_self
      have hrest := ih fun segment hsegment => h segment (List.mem_cons_of_mem _ hsegment)
      have hwritten : written (next :: rest) = '/' :: (next.toList ++ written rest) := rfl
      have hslash : isSlash .web '/' = true := by decide
      unfold pieces at hrest ⊢
      rw [hwritten, List.map_append, List.map_cons, if_pos hslash,
        map_slash_of_forall hfirst.chars, Text.splitOn_append_cons hfirst.slash_not_mem,
        List.map_cons, encoded_of_plainSegment hfirst, hrest]

/-- What stands before the query and the fragment. -/
theorem takeWhile_append_of_isPathEnd {path rest : List Char}
    (hpath : ∀ c ∈ path, isPathEnd c = false) (hrest : rest.head?.all isPathEnd = true) :
    (path ++ rest).takeWhile (!isPathEnd ·) = path := by
  rw [List.takeWhile_append_of_pos fun c hc => by simp [hpath c hc]]
  cases rest with
  | nil => simp
  | cons c more =>
      have hend : isPathEnd c = true := hrest
      simp [hend]

/-- A path ends where the query or the fragment begins. -/
theorem readPath_append (form : Form) (directories : List String) {path rest : List Char}
    (hpath : ∀ c ∈ path, isPathEnd c = false) (hrest : rest.head?.all isPathEnd = true) :
    readPath form directories (path ++ rest) = (follow form directories (pieces form path), rest) := by
  unfold readPath
  rw [takeWhile_append_of_isPathEnd hpath hrest]
  simp

/-- A query that is written ends the path. -/
theorem head?_marked (query : Option String) :
    (marked "?" query).toList.head?.all isPathEnd = true := by
  cases query with
  | none => rfl
  | some text => simp [marked, String.toList_append, isPathEnd]

/-- A query that is normal is read as it is written. -/
theorem readQuery_marked {query : Option String}
    (h : ∀ text, query = some text → ∀ c ∈ text.toList, isQueryChar .web c = true) :
    readQuery .web (marked "?" query).toList = (query, none) := by
  cases query with
  | none => rfl
  | some text =>
      have hchars := h text rfl
      have htake : text.toList.takeWhile (fun c => decide (c ≠ '#')) = text.toList :=
        List.takeWhile_eq_self_iff.mpr fun c hc => by simpa using ne_of_isQueryChar (hchars c hc)
      have hmarked : (marked "?" (some text)).toList = '?' :: text.toList := by
        rw [marked, String.toList_append]
        rfl
      rw [hmarked, readQuery]
      simp only [htake, List.drop_length]
      rw [encoded, Percent.encode_of_forall hchars, String.ofList_toList]
      rfl

/-- Text without blanks and control characters counts as a whole. -/
theorem clean_of_forall {text : String} (h : ∀ c ∈ text.toList, 0x20 < c.toNat) :
    clean text = text.toList := by
  have hkept : ∀ s : List Char, (∀ c ∈ s, 0x20 < c.toNat) →
      s.dropWhile (fun c => decide (c.toNat ≤ 0x20)) = s := by
    intro s hs
    cases s with
    | nil => rfl
    | cons c rest =>
        have hc := hs c List.mem_cons_self
        exact List.dropWhile_cons_of_neg (by simpa using hc)
  unfold clean
  dsimp only
  rw [hkept _ h, hkept _ fun c hc => h c (List.mem_reverse.mp hc), List.reverse_reverse]
  refine List.filter_eq_self.mpr fun c hc => ?_
  have hne : ∀ blank : Char, blank.toNat ≤ 0x20 → c ≠ blank := by
    rintro blank hblank rfl
    exact absurd (h c hc) (Nat.not_lt.mpr hblank)
  simp [hne '\t' (by decide), hne '\n' (by decide), hne '\r' (by decide)]

namespace Normal

variable {base url : Url}

/-- The path and query as they are written. -/
theorem exists_pathAndQuery (h : url.Normal) :
    ∃ first more, url.path = .rooted (first :: more) ∧
      (∀ segment ∈ first :: more, PlainSegment segment) ∧
      url.pathAndQuery.toList =
        '/' :: (first.toList ++ written more ++ (marked "?" url.query).toList) := by
  obtain ⟨first, more, hpath, hplain⟩ := h.path
  refine ⟨first, more, hpath, hplain, ?_⟩
  rw [pathAndQuery, String.toList_append, hpath, toList_text_rooted, written, List.flatMap_cons]
  simp [written]

/-- The path and query have no characters that do not count. -/
theorem clean_pathAndQuery (h : url.Normal) : clean url.pathAndQuery = url.pathAndQuery.toList := by
  obtain ⟨first, more, hpath, hplain, -⟩ := h.exists_pathAndQuery
  refine clean_of_forall fun c hc => ?_
  rw [pathAndQuery, String.toList_append, hpath, toList_text_rooted] at hc
  rcases List.mem_append.mp hc with hin | hin
  · exact forall_mem_written (by decide) (fun _ => lt_toNat_of_isSegmentChar) hplain c hin
  · cases hquery : url.query with
    | none =>
        rw [hquery] at hin
        cases hin
    | some query =>
        rw [hquery, marked, String.toList_append] at hin
        rcases List.mem_append.mp hin with hmark | hin
        · obtain rfl := List.mem_singleton.mp hmark
          decide
        · exact lt_toNat_of_isQueryChar (h.query query hquery c hin)

/-- The path and query of a normal URL name a server exactly if the path begins with an empty
segment and goes on. -/
theorem namesServer_pathAndQuery (h : url.Normal) :
    namesServer url.pathAndQuery = true ↔ ∃ next more, url.path = .rooted ("" :: next :: more) := by
  obtain ⟨first, more, hpath, hplain, htext⟩ := h.exists_pathAndQuery
  rw [hpath, namesServer, h.clean_pathAndQuery, htext]
  cases hfirst : first.toList with
  | nil =>
      obtain rfl := String.toList_eq_nil_iff.mp hfirst
      cases more with
      | nil => cases url.query <;> simp [written, marked, isSlash, String.toList_append]
      | cons next rest => simp [written, isSlash]
  | cons c chars =>
      have hc : isSlash .web c = false := isSlash_of_isSegmentChar
        ((hplain first List.mem_cons_self).chars c (hfirst ▸ List.mem_cons_self))
      have hne : first ≠ "" := by
        rintro rfl
        cases hfirst
      simp [hc, hne]

end Normal

/-- The path and query of a normal URL are a reference to the same path and query, on the server of
the URL that it is relative to. -/
theorem join_pathAndQuery {base url : Url} {server : Authority} (hbase : base.OnServer server)
    (h : url.Normal) (hnames : namesServer url.pathAndQuery = false) :
    base.join url.pathAndQuery =
      .ok { base with path := url.path, query := url.query, fragment := none } := by
  obtain ⟨first, more, hpath, hplain, htext⟩ := h.exists_pathAndQuery
  have hclean := h.clean_pathAndQuery.trans htext
  generalize hrest : first.toList ++ written more ++ (marked "?" url.query).toList = rest at hclean
  have hsecond : rest.head?.any (isSlash .web) = false := by
    unfold namesServer at hnames
    rw [hclean] at hnames
    cases rest with
    | nil => rfl
    | cons second more => simpa [isSlash] using hnames
  have hchars : ∀ c ∈ first.toList ++ written more, isPathEnd c = false := by
    intro c hc
    rcases List.mem_append.mp hc with hin | hin
    · exact isPathEnd_of_isSegmentChar ((hplain first List.mem_cons_self).chars c hin)
    · exact forall_mem_written (by decide) (fun _ => isPathEnd_of_isSegmentChar)
        (fun segment hsegment => hplain segment (List.mem_cons_of_mem _ hsegment)) c hin
  have hread : readPath .web [] rest = (first :: more, (marked "?" url.query).toList) := by
    rw [← hrest, readPath_append .web [] hchars (head?_marked url.query), pieces_written hplain,
      follow_of_plainSegment hplain, List.nil_append]
  have hform : formOf base.scheme = .web := by
    rw [hbase.scheme]
    rfl
  rw [join_eq_readRelative_of_isSlash hbase hclean rfl, readRelative]
  simp only [hform, List.head?_cons, List.drop_succ_cons, List.drop_zero, hsecond, hread]
  simp [isSlash, withQuery, hform, readQuery_marked h.query, hpath]

/-! ## Counting segments -/

/-- The slashes before the query and the fragment. -/
def slashes (s : List Char) : Nat :=
  (s.takeWhile (!isPathEnd ·)).countP (isSlash .web)

/-- Where a text is read up to a place before the query and the fragment, this is left. -/
def Leaves (s rest : List Char) : Prop :=
  ∃ read, s = read ++ rest ∧ ∀ c ∈ read, isPathEnd c = false

namespace Leaves

variable {s rest last : List Char}

theorem refl (s : List Char) : Leaves s s :=
  ⟨[], rfl, by simp⟩

theorem trans (h : Leaves s rest) (hrest : Leaves rest last) : Leaves s last := by
  obtain ⟨read, rfl, hread⟩ := h
  obtain ⟨more, rfl, hmore⟩ := hrest
  refine ⟨read ++ more, (List.append_assoc ..).symm, fun c hc => ?_⟩
  exact (List.mem_append.mp hc).elim (hread c) (hmore c)

/-- Reading does not make more slashes. -/
theorem slashes_le (h : Leaves s rest) : slashes rest ≤ slashes s := by
  obtain ⟨read, rfl, hread⟩ := h
  unfold slashes
  rw [List.takeWhile_append_of_pos fun c hc => by simp [hread c hc], List.countP_append]
  exact Nat.le_add_left ..

/-- What is read first while a property holds that ends no path. -/
theorem dropWhile {p : Char → Bool} (hp : ∀ c, p c = true → isPathEnd c = false) (s : List Char) :
    Leaves s (s.dropWhile p) :=
  ⟨s.takeWhile p, List.takeWhile_append_dropWhile.symm, fun c hc => hp c (List.mem_takeWhile_imp hc)⟩

end Leaves

/-- A digit does not end a path. -/
theorem isPathEnd_of_isDigit {c : Char} (h : c.isDigit = true) : isPathEnd c = false := by
  have hne : ∀ mark : Char, mark.isDigit = false → c ≠ mark := by
    rintro mark hmark rfl
    rw [hmark] at h
    cases h
  simp [isPathEnd, hne '?' rfl, hne '#' rfl]

/-- Nor does a slash. -/
theorem isPathEnd_of_isSlash {c : Char} (h : isSlash .web c = true) : isPathEnd c = false := by
  rcases isSlash_web_iff.mp h with rfl | rfl <;> rfl

theorem leaves_readPort {scheme : String} {s rest : List Char} {port : Option Nat}
    (h : readPort scheme s = .ok (port, rest)) : Leaves s rest := by
  unfold readPort at h
  dsimp only at h
  split_ifs at h
  all_goals
    obtain ⟨-, rfl⟩ := Prod.mk.inj (Except.ok.inj h)
    rw [Text.drop_length_takeWhile]
    exact .dropWhile (fun c => isPathEnd_of_isDigit) s

/-- The text of a host ends where the path does. -/
theorem leaves_hostText (form : Form) (bracketed : Bool) (s : List Char) :
    Leaves s (s.drop (readHost.hostText form bracketed s).length) := by
  induction s generalizing bracketed with
  | nil => exact .refl []
  | cons c rest ih =>
      rw [readHost.hostText]
      split_ifs with hend
      · exact .refl _
      · have hc : isPathEnd c = false := by
          simp only [Bool.or_eq_true, not_or, Bool.not_eq_true] at hend
          exact hend.1.2
        exact .trans ⟨[c], rfl, by simpa using hc⟩ (ih _)

theorem leaves_readHost {scheme : String} {s rest : List Char} {host : Option Host}
    {port : Option Nat} (h : readHost scheme s = .ok (host, port, rest)) : Leaves s rest := by
  have htext := leaves_hostText (formOf scheme) false s
  unfold readHost at h
  dsimp only at h
  split_ifs at h with hempty hform hspecial
  · obtain ⟨-, hrest⟩ := Prod.mk.inj (Except.ok.inj h)
    exact (Prod.mk.inj hrest).2 ▸ htext
  all_goals
    obtain ⟨found, -, h⟩ := exists_of_bind_eq_ok h
    split at h
    · next after hcolon =>
      obtain ⟨⟨given, left⟩, hport, h⟩ := exists_of_bind_eq_ok h
      obtain ⟨-, hrest⟩ := Prod.mk.inj (Except.ok.inj h)
      obtain ⟨-, rfl⟩ := Prod.mk.inj hrest
      rw [hcolon] at htext
      exact htext.trans (.trans ⟨[':'], rfl, by simp [isPathEnd]⟩ (leaves_readPort hport))
    · obtain ⟨-, hrest⟩ := Prod.mk.inj (Except.ok.inj h)
      exact (Prod.mk.inj hrest).2 ▸ htext

theorem leaves_readAuthority {scheme : String} {s rest : List Char} {authority : Authority}
    (h : readAuthority scheme s = .ok (authority, rest)) : Leaves s rest := by
  unfold readAuthority at h
  dsimp only at h
  generalize htext : s.takeWhile (fun c => !isSlash (formOf scheme) c && !isPathEnd c) = text at h
  split_ifs at h
  obtain ⟨⟨host, port, after⟩, hhost, h⟩ := exists_of_bind_eq_ok h
  dsimp only at h
  split_ifs at h
  obtain ⟨-, rfl⟩ := Prod.mk.inj (Except.ok.inj h)
  -- The user is a part of the text that ends where the path begins.
  refine .trans ⟨s.take _, (List.take_append_drop _ s).symm, fun c hc => ?_⟩ (leaves_readHost hhost)
  have hprefix : s.take text.length = text :=
    (List.prefix_iff_eq_take.mp (htext ▸ List.takeWhile_prefix _)).symm
  have hin : c ∈ text := hprefix ▸ List.take_subset_take_left s (Nat.sub_le ..) hc
  rw [← htext] at hin
  have hkept := List.mem_takeWhile_imp hin
  simp only [Bool.and_eq_true, Bool.not_eq_true'] at hkept
  exact hkept.2

/-- A path that is read has at most one segment for each slash and one more. -/
theorem length_readPath_le (directories : List String) (s : List Char) :
    (readPath .web directories s).1.length ≤ directories.length + (slashes s + 1) := by
  refine (length_follow_le .web directories _).trans_eq ?_
  rw [pieces, List.length_map, Text.length_splitOn, List.count, List.countP_map, slashes]
  congr 3
  funext c
  cases hslash : isSlash .web c with
  | true => simp [hslash]
  | false =>
      have hne : c ≠ '/' := by
        rintro rfl
        cases hslash
      simp [hslash, hne]

/-- So has the path of a URL that is read after a server. -/
theorem length_segments_afterAuthority_le (authority : Authority) (s : List Char) :
    (afterAuthority "http" authority s).segments.length ≤ slashes s + 1 := by
  have hform : formOf "http" = .web := rfl
  have hspecial : Form.web.isSpecial = true := rfl
  unfold afterAuthority segments
  simp only [hform, hspecial, Bool.not_true, Bool.false_and, Bool.false_eq_true, if_false]
  split_ifs with hslash
  · have hpath := length_readPath_le [] (s.drop 1)
    have hdrop : slashes (s.drop 1) ≤ slashes s := by
      cases s with
      | nil => cases hslash
      | cons c rest => exact Leaves.slashes_le ⟨[c], rfl, by simpa using isPathEnd_of_isSlash hslash⟩
    rw [List.length_nil] at hpath
    omega
  · simpa using length_readPath_le [] s

/-- Plain segments are written with one slash each. -/
theorem countP_written {segments : List String} (h : ∀ segment ∈ segments, PlainSegment segment) :
    (written segments).countP (isSlash .web) = segments.length := by
  induction segments with
  | nil => rfl
  | cons first rest ih =>
      have hrest := ih fun segment hsegment => h segment (List.mem_cons_of_mem _ hsegment)
      have hfirst : first.toList.countP (isSlash .web) = 0 :=
        List.countP_eq_zero.mpr fun c hc => by
          simp [isSlash_of_isSegmentChar ((h first List.mem_cons_self).chars c hc)]
      have hwritten : written (first :: rest) = '/' :: (first.toList ++ written rest) := rfl
      rw [hwritten, List.countP_cons_of_pos (by decide), List.countP_append, hfirst, hrest,
        Nat.zero_add, List.length_cons]

/-- The path of a normal URL is written with one slash for each segment. -/
theorem Normal.slashes_pathAndQuery {url : Url} (h : url.Normal) :
    slashes url.pathAndQuery.toList = url.segments.length := by
  obtain ⟨first, more, hpath, hplain, -⟩ := h.exists_pathAndQuery
  have hsegments : url.segments = first :: more := by
    unfold Url.segments
    rw [hpath]
  rw [pathAndQuery, String.toList_append, hpath, toList_text_rooted, slashes,
    takeWhile_append_of_isPathEnd
      (forall_mem_written (by decide) (fun _ => isPathEnd_of_isSegmentChar) hplain)
      (head?_marked url.query),
    countP_written hplain, hsegments]

/-- Where the path and query of a normal URL name a server, they lead to a URL with fewer segments. -/
theorem length_segments_join_lt {base url again : Url} {server : Authority}
    (hbase : base.OnServer server) (h : url.Normal) (hnames : namesServer url.pathAndQuery = true)
    (hjoin : base.join url.pathAndQuery = .ok again) :
    again.segments.length < url.segments.length := by
  obtain ⟨authority, rest, hauthority, rfl⟩ := exists_of_join_of_namesServer hbase hnames hjoin
  obtain ⟨first, second, after, hclean, hfirst, hsecond⟩ := exists_of_namesServer hnames
  rw [hclean, List.dropWhile_cons_of_pos hfirst, List.dropWhile_cons_of_pos hsecond] at hauthority
  have hleaves : Leaves after rest :=
    .trans (.dropWhile (fun _ => isPathEnd_of_isSlash) after) (leaves_readAuthority hauthority)
  have htwo : slashes (first :: second :: after) = slashes after + 2 := by
    unfold slashes
    rw [List.takeWhile_cons_of_pos (by simp [isPathEnd_of_isSlash hfirst]),
      List.takeWhile_cons_of_pos (by simp [isPathEnd_of_isSlash hsecond]),
      List.countP_cons_of_pos hfirst, List.countP_cons_of_pos hsecond]
  calc (afterAuthority "http" authority rest).segments.length
      ≤ slashes rest + 1 := length_segments_afterAuthority_le authority rest
    _ ≤ slashes after + 1 := Nat.succ_le_succ hleaves.slashes_le
    _ < slashes (first :: second :: after) := by omega
    _ = url.segments.length := by rw [← hclean, h.clean_pathAndQuery, h.slashes_pathAndQuery]

end Hypermedia.Url
