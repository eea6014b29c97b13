import Hypermedia.Proofs.Url.Host
import Hypermedia.Url.Origin

/-!
# How URLs are written

A URL that was read is written in printable ASCII, whatever was read. Blanks and angle brackets are
written in percent-encoding too, with one exception: a path that has no structure keeps them.

* `Url.Written` says so of the parts of a URL, `Url.Written.all_text` of its texts.
* `Url.written_parse` and `Url.written_join` say that reading yields such URLs.
-/

namespace Hypermedia.Url

/-! ## Parts -/

/-- Whether a part that may be absent consists of characters that may stand in a URL. -/
def PartWritten (part : Option String) : Prop :=
  ∀ text, part = some text → isUrlText text = true

/-- Whether a host that may be absent is written with such characters. -/
def HostWritten (host : Option Host) : Prop :=
  ∀ found, host = some found → isUrlText found.text = true

/-- Whether all segments consist of such characters. -/
def SegmentsWritten (segments : List String) : Prop :=
  ∀ segment ∈ segments, isUrlText segment = true

/-- Whether a path is written as paths are. One without structure is only known to be printable. -/
def Path.Written : Path → Prop
  | .rooted segments => SegmentsWritten segments
  | .rootless text => isPrintable text = true

/-- Whether the parts of a server are written as they are in URLs. -/
structure Authority.Written (authority : Authority) : Prop where
  /-- The user name. -/
  username : isUrlText authority.username = true
  /-- The password. -/
  password : isUrlText authority.password = true
  /-- The host. -/
  host : HostWritten authority.host

/-- Whether the parts of a URL are written as they are when a URL is read. -/
structure Written (url : Url) : Prop where
  /-- The scheme. -/
  scheme : isUrlText url.scheme = true
  /-- The server. -/
  authority : ∀ authority, url.authority = some authority → authority.Written
  /-- The path. -/
  path : url.path.Written
  /-- The query. -/
  query : PartWritten url.query
  /-- The fragment. -/
  fragment : PartWritten url.fragment

/-! ## Texts -/

theorem PartWritten.none : PartWritten none := by
  intro text h
  cases h

/-- A part with a sign before it. -/
theorem PartWritten.isUrlText_marked {part : Option String} (h : PartWritten part) {sign : String}
    (hsign : isUrlText sign = true) : isUrlText (marked sign part) = true := by
  cases part with
  | none => rfl
  | some text =>
      unfold Url.marked
      rw [isUrlText_append, hsign, h text rfl]
      rfl

theorem Path.Written.rooted {segments : List String} (h : SegmentsWritten segments) :
    (Path.rooted segments).Written := h

theorem Path.Written.rootless {text : String} (h : isPrintable text = true) :
    (Path.rootless text).Written := h

/-- A path is in a class that holds the characters of URLs, if one without structure is. -/
theorem Path.Written.all_text {path : Path} (h : path.Written) {p : Char → Bool}
    (hp : ∀ c, isUrlChar c = true → p c = true)
    (hrootless : ∀ text, path = .rootless text → text.toList.all p = true) :
    path.text.toList.all p = true := by
  cases path with
  | rooted segments =>
      unfold Path.text
      rw [String.toList_join, List.all_flatMap, List.all_map, List.all_eq_true]
      intro segment hsegment
      have hslash : isUrlText "/" = true := rfl
      have htext : isUrlText ("/" ++ segment) = true := by
        rw [isUrlText_append, hslash, h segment hsegment]
        rfl
      exact all_of_all_isUrlChar hp htext
  | rootless text => exact hrootless text rfl

theorem Authority.Written.isUrlText_text {authority : Authority} (h : authority.Written) :
    isUrlText authority.text = true := by
  have hhost : isUrlText ((authority.host.map (·.text)).getD "") = true := by
    cases hhost : authority.host with
    | none => rfl
    | some host => exact h.host host hhost
  unfold Authority.text
  dsimp only
  rw [isUrlText_append, isUrlText_append, hhost, Bool.and_true, Bool.and_eq_true]
  constructor
  · split_ifs
    · rfl
    · rw [isUrlText_append, h.username]
      rfl
    · simp only [isUrlText_append, h.username, h.password]
      rfl
  · cases authority.port with
    | none => rfl
    | some port =>
        dsimp only
        rw [isUrlText_append, isUrlText_toString]
        rfl

namespace Written

variable {url : Url}

/-- What stands between the scheme and the path. -/
theorem isUrlText_beforePath (h : url.Written) : isUrlText url.beforePath = true := by
  unfold beforePath
  split
  · next authority hauthority =>
    rw [isUrlText_append, (h.authority authority hauthority).isUrlText_text]
    rfl
  · split <;> rfl

section

variable (h : url.Written) {p : Char → Bool} (hp : ∀ c, isUrlChar c = true → p c = true)
  (hrootless : ∀ text, url.path = .rootless text → text.toList.all p = true)

include h hp hrootless

/-- The path and query of a URL are in a class that holds the characters of URLs, if a path without
structure is. -/
theorem all_pathAndQuery : url.pathAndQuery.toList.all p = true := by
  unfold Url.pathAndQuery
  rw [String.toList_append, List.all_append, h.path.all_text hp hrootless, Bool.true_and]
  exact all_of_all_isUrlChar hp (h.query.isUrlText_marked rfl)

/-- So is what follows the scheme. -/
theorem all_afterScheme : url.afterScheme.toList.all p = true := by
  have hbefore := all_of_all_isUrlChar hp h.isUrlText_beforePath
  unfold Url.afterScheme
  rw [String.toList_append, String.toList_append, List.all_append, List.all_append, hbefore,
    h.all_pathAndQuery hp hrootless, Bool.true_and, Bool.true_and]
  exact all_of_all_isUrlChar hp (h.fragment.isUrlText_marked rfl)

/-- So is the whole URL. -/
theorem all_text : url.text.toList.all p = true := by
  have hscheme := all_of_all_isUrlChar hp h.scheme
  have hcolon := hp ':' rfl
  unfold Url.text
  rw [String.toList_append, String.toList_append, List.all_append, List.all_append, hscheme,
    h.all_afterScheme hp hrootless]
  simp [hcolon]

end

end Written

/-! ## Encoded parts -/

/-- What stands for itself may stand in a URL, if blanks and angle brackets do not. -/
theorem isUrlChar_of_isPlain {special : String}
    (hspecial : " <>".toList.all special.toList.contains = true) {c : Char}
    (h : isPlain special c = true) : isUrlChar c = true := by
  unfold isPlain at h
  rw [Bool.and_eq_true, Bool.not_eq_true'] at h
  refine isUrlChar_iff.mpr ⟨Host.isPrintableChar_of_isPrintable h.1, fun hin => ?_⟩
  rw [List.all_eq_true.mp hspecial c hin] at h
  cases h.2

theorem isUrlChar_of_isFragmentChar {c : Char} (h : isFragmentChar c = true) : isUrlChar c = true :=
  isUrlChar_of_isPlain (by decide) h

theorem isUrlChar_of_isPathChar {c : Char} (h : isPathChar c = true) : isUrlChar c = true :=
  isUrlChar_of_isPlain (by decide) h

theorem isUrlChar_of_isUserChar {c : Char} (h : isUserChar c = true) : isUrlChar c = true :=
  isUrlChar_of_isPlain (by decide) h

theorem isUrlChar_of_isQueryChar {form : Form} {c : Char} (h : isQueryChar form c = true) :
    isUrlChar c = true := by
  unfold isQueryChar at h
  split_ifs at h <;> exact isUrlChar_of_isPlain (by decide) h

/-- What is encoded may stand in a URL if the characters that stand for themselves may. -/
theorem isUrlText_encoded {keeps : Char → Bool}
    (hkeeps : ∀ c, keeps c = true → isUrlChar c = true) (s : List Char) :
    isUrlText (encoded keeps s) = true := by
  unfold encoded
  rw [isUrlText_ofList]
  exact Percent.all_encode (fun _ => id) fun c _ => hkeeps c

/-- A path without structure is printable: only what is not is encoded in it. -/
theorem isPrintable_encoded (s : List Char) :
    isPrintable (encoded Host.isPrintable s) = true := by
  unfold encoded
  rw [isPrintable_ofList]
  exact Percent.all_encode (fun _ => isPrintableChar_of_isUrlChar)
    fun _ _ => Host.isPrintableChar_of_isPrintable

theorem partWritten_readFragment (s : List Char) : PartWritten (readFragment s) := by
  intro text h
  unfold readFragment at h
  split at h
  · obtain rfl := Option.some.inj h
    exact isUrlText_encoded (fun _ => isUrlChar_of_isFragmentChar) _
  · cases h

/-- The query and the fragment are written so. -/
theorem partWritten_readQuery (form : Form) (s : List Char) :
    PartWritten (readQuery form s).1 ∧ PartWritten (readQuery form s).2 := by
  unfold readQuery
  split
  · refine ⟨fun text h => ?_, partWritten_readFragment _⟩
    obtain rfl := Option.some.inj h
    exact isUrlText_encoded (fun _ => isUrlChar_of_isQueryChar) _
  · exact ⟨.none, partWritten_readFragment _⟩

/-! ## Paths -/

section Paths

variable {form : Form} {directories segments : List String} {segment : String}

theorem segmentsWritten_parent (h : SegmentsWritten directories) :
    SegmentsWritten (parent directories) := by
  unfold parent
  split_ifs
  · exact h
  · exact fun segment hsegment => h segment (List.dropLast_subset _ hsegment)

theorem segmentsWritten_concat (h : SegmentsWritten directories)
    (hsegment : isUrlText segment = true) : SegmentsWritten (directories ++ [segment]) := by
  intro other hother
  rcases List.mem_append.mp hother with hold | hlast
  · exact h other hold
  · exact List.mem_singleton.mp hlast ▸ hsegment

theorem isUrlText_keptSegment (h : isUrlText segment = true) :
    isUrlText (keptSegment form directories segment) = true := by
  unfold keptSegment
  split_ifs
  · unfold withColon
    unfold isUrlText at h
    rw [isUrlText_ofList, List.all_append, Bool.and_eq_true]
    refine ⟨List.all_eq_true.mpr fun c hc => ?_, rfl⟩
    exact List.all_eq_true.mp h c (List.mem_of_mem_take hc)
  · exact h

theorem segmentsWritten_enter (h : SegmentsWritten directories)
    (hsegment : isUrlText segment = true) :
    SegmentsWritten (enter form directories segment) := by
  unfold enter
  split_ifs
  · exact segmentsWritten_parent h
  · exact h
  · exact segmentsWritten_concat h (isUrlText_keptSegment hsegment)

theorem segmentsWritten_endWith (h : SegmentsWritten directories)
    (hsegment : isUrlText segment = true) :
    SegmentsWritten (endWith form directories segment) := by
  unfold endWith
  split_ifs
  · exact segmentsWritten_concat (segmentsWritten_parent h) rfl
  · exact segmentsWritten_concat h rfl
  · exact segmentsWritten_concat h (isUrlText_keptSegment hsegment)

/-- The directories after segments that are written so. -/
theorem segmentsWritten_follow (hsegments : SegmentsWritten segments)
    (h : SegmentsWritten directories) : SegmentsWritten (follow form directories segments) := by
  induction segments generalizing directories with
  | nil => exact h
  | cons first rest ih =>
      have hfirst := hsegments first List.mem_cons_self
      cases rest with
      | nil => exact segmentsWritten_endWith h hfirst
      | cons next more =>
          exact ih (fun other hother => hsegments other (List.mem_cons_of_mem _ hother))
            (segmentsWritten_enter h hfirst)

theorem segmentsWritten_pieces (s : List Char) : SegmentsWritten (pieces form s) := by
  intro segment hsegment
  obtain ⟨piece, -, rfl⟩ := List.mem_map.mp hsegment
  exact isUrlText_encoded (fun _ => isUrlChar_of_isPathChar) _

/-- A path that is read from such directories. -/
theorem segmentsWritten_readPath (h : SegmentsWritten directories) (s : List Char) :
    SegmentsWritten (readPath form directories s).1 :=
  segmentsWritten_follow (segmentsWritten_pieces _) h

theorem segmentsWritten_dropEmpty (h : SegmentsWritten segments) :
    SegmentsWritten (dropEmpty segments) := by
  fun_induction dropEmpty segments with
  | case1 segment rest ih => exact ih fun other hother => h other (List.mem_cons_of_mem _ hother)
  | case2 => exact h

theorem segmentsWritten_readFilePath (h : SegmentsWritten directories) (s : List Char) :
    SegmentsWritten (readFilePath directories s).1 :=
  segmentsWritten_dropEmpty (segmentsWritten_readPath h s)

end Paths

theorem segmentsWritten_nil : SegmentsWritten [] := by
  intro segment h
  cases h

/-! ## Servers -/

/-- Where two steps in a row succeed, both do. -/
theorem exists_of_bind_eq_ok {α β : Type} {first : Except Error α} {next : α → Except Error β}
    {b : β} (h : first >>= next = .ok b) : ∃ a, first = .ok a ∧ next a = .ok b := by
  cases first with
  | error error => cases h
  | ok a => exact ⟨a, rfl, h⟩

theorem HostWritten.none : HostWritten none := by
  intro host h
  cases h

theorem HostWritten.ite {host : Option Host} (h : HostWritten host) {p : Prop} [Decidable p] :
    HostWritten (if p then Option.none else host) := by
  split_ifs
  · exact .none
  · exact h

/-- A host with such a text. -/
theorem HostWritten.of_text {host : Option Host} {found : Host}
    (htext : isUrlText found.text = true) (hhost : host = some found) : HostWritten host := by
  intro other hother
  exact Option.some.inj (hhost.symm.trans hother) ▸ htext

/-- A host that was read. -/
theorem hostWritten_readHost {scheme : String} {s rest : List Char} {host : Option Host}
    {port : Option Nat} (h : readHost scheme s = .ok (host, port, rest)) : HostWritten host := by
  unfold readHost at h
  dsimp only at h
  split_ifs at h with hempty hform hspecial
  · obtain ⟨rfl, -⟩ := Prod.mk.inj (Except.ok.inj h)
    exact .none
  · obtain ⟨found, hfound, h⟩ := exists_of_bind_eq_ok h
    refine .of_text (Host.isUrlText_text_of_parse hfound) ?_
    split at h
    · obtain ⟨after, -, h⟩ := exists_of_bind_eq_ok h
      exact (Prod.mk.inj (Except.ok.inj h)).1.symm
    · exact (Prod.mk.inj (Except.ok.inj h)).1.symm
  · obtain ⟨found, hfound, h⟩ := exists_of_bind_eq_ok h
    refine .of_text (Host.isUrlText_text_of_parseOther hfound) ?_
    split at h
    · obtain ⟨after, -, h⟩ := exists_of_bind_eq_ok h
      exact (Prod.mk.inj (Except.ok.inj h)).1.symm
    · exact (Prod.mk.inj (Except.ok.inj h)).1.symm

/-- A server that was read. -/
theorem written_readAuthority {scheme : String} {s rest : List Char} {authority : Authority}
    (h : readAuthority scheme s = .ok (authority, rest)) : authority.Written := by
  unfold readAuthority at h
  dsimp only at h
  split_ifs at h
  obtain ⟨⟨host, port, after⟩, hhost, h⟩ := exists_of_bind_eq_ok h
  dsimp only at h
  split_ifs at h
  obtain ⟨rfl, -⟩ := Prod.mk.inj (Except.ok.inj h)
  exact ⟨isUrlText_encoded (fun _ => isUrlChar_of_isUserChar) _,
    isUrlText_encoded (fun _ => isUrlChar_of_isUserChar) _, hostWritten_readHost hhost⟩

/-! ## Whole URLs -/

variable {base url : Url} {s : List Char}

/-- A URL with an encoded query and fragment. -/
theorem Written.mk_readQuery {scheme : String} {authority : Option Authority} {path : Path}
    (hscheme : isUrlText scheme = true)
    (hauthority : ∀ found, authority = some found → found.Written) (hpath : path.Written)
    (form : Form) (s : List Char) :
    Written ⟨scheme, authority, path, (readQuery form s).1, (readQuery form s).2⟩ :=
  ⟨hscheme, hauthority, hpath, (partWritten_readQuery form s).1, (partWritten_readQuery form s).2⟩

theorem written_afterAuthority {scheme : String} {authority : Authority}
    (hscheme : isUrlText scheme = true) (hauthority : authority.Written) (s : List Char) :
    (afterAuthority scheme authority s).Written := by
  have hsome : ∀ found, some authority = some found → found.Written := by
    intro found hfound
    exact Option.some.inj hfound ▸ hauthority
  unfold afterAuthority
  dsimp only
  refine .mk_readQuery hscheme hsome ?_ _ _
  split_ifs
  · exact segmentsWritten_nil
  · exact segmentsWritten_readPath segmentsWritten_nil _
  · exact segmentsWritten_readPath segmentsWritten_nil _

theorem written_readServer {scheme : String} (hscheme : isUrlText scheme = true)
    (h : readServer scheme s = .ok url) : url.Written := by
  unfold readServer at h
  obtain ⟨⟨authority, rest⟩, hauthority, h⟩ := exists_of_bind_eq_ok h
  obtain rfl := Except.ok.inj h
  exact written_afterAuthority hscheme (written_readAuthority hauthority) rest

theorem written_of_none (found : Authority) (h : none = some found) : found.Written := by
  cases h

theorem written_readOther {scheme : String} (hscheme : isUrlText scheme = true)
    (h : readOther scheme s = .ok url) : url.Written := by
  unfold readOther at h
  split at h
  · exact written_readServer hscheme h
  · obtain rfl := Except.ok.inj h
    exact .mk_readQuery hscheme written_of_none
      (.rooted (segmentsWritten_readPath segmentsWritten_nil _)) _ _
  · obtain rfl := Except.ok.inj h
    exact .mk_readQuery hscheme written_of_none (.rootless (isPrintable_encoded _)) _ _

/-! ## Files -/

theorem written_fileUrl {host : Option Host} {segments : List String}
    (hhost : HostWritten host) (hsegments : SegmentsWritten segments)
    (s : List Char) : (fileUrl host segments s).Written := by
  refine .mk_readQuery rfl (fun found hfound => ?_) (.rooted hsegments) _ _
  obtain rfl := Option.some.inj hfound
  exact ⟨rfl, rfl, hhost⟩

theorem hostWritten_fileHost {host : Option Host} (h : fileHost s = .ok host) :
    HostWritten host := by
  unfold fileHost at h
  split_ifs at h
  · obtain rfl := Except.ok.inj h
    exact .none
  · obtain ⟨found, hfound, h⟩ := exists_of_bind_eq_ok h
    split_ifs at h
    · obtain rfl := Except.ok.inj h
      exact .none
    · exact .of_text (Host.isUrlText_text_of_parse hfound) (Except.ok.inj h).symm

theorem written_readFileServer (h : readFileServer s = .ok url) : url.Written := by
  unfold readFileServer at h
  dsimp only at h
  obtain ⟨host, hhost, h⟩ := exists_of_bind_eq_ok h
  have hwritten := hostWritten_fileHost hhost
  cases host with
  | none =>
      obtain rfl := Except.ok.inj h
      exact written_fileUrl .none (segmentsWritten_readFilePath segmentsWritten_nil _) _
  | some host =>
      obtain rfl := Except.ok.inj h
      exact written_fileUrl hwritten.ite
        (segmentsWritten_dropEmpty (segmentsWritten_readPath segmentsWritten_nil _)) _

/-- The segments of such a URL. -/
theorem Written.segments (h : base.Written) : SegmentsWritten base.segments := by
  have hpath := h.path
  unfold Url.segments
  split
  · next segments hsegments =>
    rw [hsegments] at hpath
    exact hpath
  · exact segmentsWritten_nil

/-- The host of such a URL. -/
theorem Written.host? (h : base.Written) : HostWritten base.host? := by
  intro host hhost
  obtain ⟨authority, hauthority, hof⟩ := Option.bind_eq_some_iff.mp hhost
  exact (h.authority authority hauthority).host host hof

theorem written_readFileRoot {base : Option Url}
    (hbase : ∀ found, base = some found → found.Written) (s : List Char) :
    (readFileRoot base s).Written := by
  have hhost : HostWritten (base.bind (·.host?)) := by
    intro host hsome
    obtain ⟨found, hfound, hof⟩ := Option.bind_eq_some_iff.mp hsome
    exact (hbase found hfound).host? host hof
  have hdrive : ∀ segment, base.bind (·.segments.head?) = some segment →
      isUrlText segment = true := by
    intro segment hsome
    obtain ⟨found, hfound, hof⟩ := Option.bind_eq_some_iff.mp hsome
    exact (hbase found hfound).segments segment (List.mem_of_mem_head? hof)
  unfold readFileRoot
  dsimp only
  refine written_fileUrl hhost.ite (segmentsWritten_readFilePath ?_ s) _
  intro segment hsegment
  split_ifs at hsegment
  · cases hsegment
  · obtain ⟨hsome, -⟩ := Option.filter_eq_some_iff.mp (Option.mem_toList.mp hsegment)
    exact hdrive segment hsome

/-! ## References -/

theorem Written.withFragment (h : base.Written) (s : List Char) :
    (base.withFragment s).Written :=
  ⟨h.scheme, h.authority, h.path, h.query, partWritten_readFragment s⟩

theorem Written.withQuery (h : base.Written) (s : List Char) : (base.withQuery s).Written :=
  .mk_readQuery h.scheme h.authority h.path _ s

theorem Written.withPath (h : base.Written) {segments : List String}
    (hsegments : SegmentsWritten segments) :
    Written { base with path := .rooted segments } :=
  ⟨h.scheme, h.authority, hsegments, h.query, h.fragment⟩

theorem segmentsWritten_dropLast {segments : List String} (h : SegmentsWritten segments) :
    SegmentsWritten segments.dropLast :=
  fun segment hsegment => h segment (List.dropLast_subset _ hsegment)

theorem written_readFile {base : Option Url}
    (hbase : ∀ found, base = some found → found.Written) (h : readFile base s = .ok url) :
    url.Written := by
  unfold readFile at h
  cases base with
  | none =>
      dsimp only at h
      split_ifs at h
      · exact written_readFileServer h
      · exact Except.ok.inj h ▸ written_readFileRoot hbase _
      · obtain rfl := Except.ok.inj h
        exact written_fileUrl .none (segmentsWritten_readFilePath segmentsWritten_nil _) _
  | some base =>
      have hwritten := hbase base rfl
      dsimp only at h
      split_ifs at h
      · exact written_readFileServer h
      · exact Except.ok.inj h ▸ written_readFileRoot hbase _
      · exact Except.ok.inj h ▸ hwritten.withFragment _
      · exact Except.ok.inj h ▸ hwritten.withQuery _
      · obtain rfl := Except.ok.inj h
        exact written_fileUrl .none (segmentsWritten_readFilePath segmentsWritten_nil _) _
      · obtain rfl := Except.ok.inj h
        refine (hwritten.withPath (segmentsWritten_readFilePath ?_ _)).withQuery _
        unfold readFile.directories
        split_ifs
        · exact hwritten.segments
        · exact segmentsWritten_dropLast hwritten.segments

theorem written_readRelative (hbase : base.Written) (h : readRelative base s = .ok url) :
    url.Written := by
  unfold readRelative at h
  dsimp only at h
  split_ifs at h
  · exact Except.ok.inj h ▸ hbase.withFragment _
  · exact Except.ok.inj h ▸ hbase.withQuery _
  · exact written_readServer hbase.scheme h
  · exact written_readServer hbase.scheme h
  · obtain rfl := Except.ok.inj h
    exact (hbase.withPath (segmentsWritten_readPath segmentsWritten_nil _)).withQuery _
  · obtain rfl := Except.ok.inj h
    exact (hbase.withPath (segmentsWritten_readPath
      (segmentsWritten_dropLast hbase.segments) _)).withQuery _

/-! ## Reading -/

/-- The characters of a scheme may stand in a URL, in lower case too. -/
theorem isUrlChar_toLower_of_isSchemeChar {c : Char} (h : isSchemeChar c = true) :
    isUrlChar c.toLower = true := by
  have hall : ∀ n < 128, isSchemeChar (Char.ofNat n) = true →
      isUrlChar (Char.ofNat n).toLower = true := by decide
  have hchar : isUrlChar c = true := by
    simp only [isSchemeChar, Bool.or_eq_true, decide_eq_true_eq] at h
    rcases h with ((halphanum | rfl) | rfl) | rfl
    · exact isUrlChar_of_isAlphanum halphanum
    all_goals rfl
  have hascii : c.toNat < 128 :=
    Nat.lt_of_le_of_lt (isPrintableChar_iff.mp (isPrintableChar_of_isUrlChar hchar)).2 (by decide)
  rw [← Char.ofNat_toNat c] at h ⊢
  exact hall c.toNat hascii h

/-- A scheme may stand in a URL. -/
theorem isUrlText_splitScheme? {scheme : String} {rest : List Char}
    (h : splitScheme? s = some (scheme, rest)) : isUrlText scheme = true := by
  unfold splitScheme? at h
  dsimp only at h
  split at h
  · split_ifs at h
    obtain ⟨rfl, -⟩ := Prod.mk.inj (Option.some.inj h)
    unfold isUrlText
    delta String.toLower
    rw [String.toList_map, String.toList_ofList, List.all_map, List.all_eq_true]
    intro c hc
    exact isUrlChar_toLower_of_isSchemeChar (List.all_eq_true.mp List.all_takeWhile c hc)
  · cases h

/-- A URL that was read is written as URLs are. -/
theorem written_parse {text : String} (h : parse text = .ok url) : url.Written := by
  unfold parse at h
  split at h
  · cases h
  · next scheme rest hscheme =>
    have hwritten := isUrlText_splitScheme? hscheme
    split at h
    · exact written_readServer hwritten h
    · exact written_readFile (fun _ hnone => by cases hnone) h
    · exact written_readOther hwritten h

/-- So is a reference that was read relative to such a URL. -/
theorem written_join (hbase : base.Written) {reference : String}
    (h : join base reference = .ok url) : url.Written := by
  unfold join at h
  dsimp only at h
  split at h
  · exact written_parse h
  · split_ifs at h
    · exact Except.ok.inj h ▸ hbase.withFragment _
    · split at h
      · cases h
      · refine written_readFile (fun found hfound => ?_) h
        exact Option.some.inj hfound ▸ hbase
    · split at h
      · cases h
      · exact written_readRelative hbase h

end Hypermedia.Url
