import Hypermedia.Proofs.Url.Written

/-!
# References that name a server

A reference that begins with two slashes names a server of its own. Relative to a URL of the scheme
`http`, it leads to that server, whatever the URL is.

* `Url.namesServer` says which references do so.
* `Url.OnServer` says what URL of the scheme `http` is on a server. `Url.OnServer.sameOrigin_iff`
  compares the origins of two of them, and `Url.OnServer.exists_afterScheme` is how one is written.
* `Url.onServer_of_join` says where a reference leads.
-/

namespace Hypermedia.Url

/-- Whether a reference names a server but no scheme: it begins with two slashes when the characters
that do not count are gone, and backslashes count as slashes. -/
def namesServer (reference : String) : Bool :=
  match clean reference with
  | first :: second :: _ => isSlash .web first && isSlash .web second
  | _ => false

theorem exists_of_namesServer {reference : String} (h : namesServer reference = true) :
    ∃ first second rest, clean reference = first :: second :: rest ∧
      isSlash .web first = true ∧ isSlash .web second = true := by
  unfold namesServer at h
  split at h
  · next first second rest hclean =>
    rw [Bool.and_eq_true] at h
    exact ⟨first, second, rest, hclean, h⟩
  · cases h

/-- A slash is one of two characters. -/
theorem isSlash_web_iff {c : Char} : isSlash .web c = true ↔ c = '/' ∨ c = '\\' := by
  simp [isSlash, Form.isSpecial]

/-- What begins with a slash has no scheme. -/
theorem splitScheme?_of_isSlash {c : Char} (h : isSlash .web c = true) (rest : List Char) :
    splitScheme? (c :: rest) = none := by
  rcases isSlash_web_iff.mp h with rfl | rfl <;> rfl

/-! ## Servers that are read -/

/-- Another slash is no server. -/
theorem readAuthority_of_isSlash {c : Char} (h : isSlash .web c = true) (rest : List Char) :
    readAuthority "http" (c :: rest) = .error .emptyHost := by
  rcases isSlash_web_iff.mp h with rfl | rfl <;> rfl

/-- A server is read from what does not begin with a slash. -/
theorem dropWhile_of_readAuthority {s rest : List Char} {authority : Authority}
    (h : readAuthority "http" s = .ok (authority, rest)) : s.dropWhile (isSlash .web) = s := by
  cases s with
  | nil => rfl
  | cons c more =>
      by_cases hslash : isSlash .web c = true
      · rw [readAuthority_of_isSlash hslash] at h
        cases h
      · exact List.dropWhile_cons_of_neg hslash

/-- The usual port of the scheme is dropped. -/
theorem port_ne_of_readPort {s rest : List Char} {port : Option Nat}
    (h : readPort "http" s = .ok (port, rest)) : port ≠ some 80 := by
  unfold readPort at h
  dsimp only at h
  split_ifs at h with hlarge hend husual
  · obtain ⟨rfl, -⟩ := Prod.mk.inj (Except.ok.inj h)
    simp
  · obtain ⟨rfl, -⟩ := Prod.mk.inj (Except.ok.inj h)
    rintro heq
    rw [Option.some.inj heq] at husual
    exact husual (by simp [defaultPort?])

/-- A host on the web is not empty, and its port is not the usual one. -/
theorem isSome_host_of_readHost {s rest : List Char} {host : Option Host} {port : Option Nat}
    (h : readHost "http" s = .ok (host, port, rest)) : host.isSome = true ∧ port ≠ some 80 := by
  have hspecial : (formOf "http").isSpecial = true := rfl
  unfold readHost at h
  simp only [hspecial, Bool.true_or, if_true] at h
  split_ifs at h
  obtain ⟨found, -, h⟩ := exists_of_bind_eq_ok h
  split at h
  · obtain ⟨⟨given, after⟩, hport, h⟩ := exists_of_bind_eq_ok h
    obtain ⟨rfl, hrest⟩ := Prod.mk.inj (Except.ok.inj h)
    obtain ⟨rfl, -⟩ := Prod.mk.inj hrest
    exact ⟨rfl, port_ne_of_readPort hport⟩
  · obtain ⟨rfl, hrest⟩ := Prod.mk.inj (Except.ok.inj h)
    obtain ⟨rfl, -⟩ := Prod.mk.inj hrest
    exact ⟨rfl, by simp⟩

theorem isSome_host_of_readAuthority {s rest : List Char} {authority : Authority}
    (h : readAuthority "http" s = .ok (authority, rest)) :
    authority.host.isSome = true ∧ authority.port ≠ some 80 := by
  unfold readAuthority at h
  dsimp only at h
  split_ifs at h
  obtain ⟨⟨host, port, after⟩, hhost, h⟩ := exists_of_bind_eq_ok h
  dsimp only at h
  split_ifs at h
  obtain ⟨rfl, -⟩ := Prod.mk.inj (Except.ok.inj h)
  exact isSome_host_of_readHost hhost

/-! ## Paths that are read -/

theorem endWith_ne_nil (form : Form) (directories : List String) (segment : String) :
    endWith form directories segment ≠ [] := by
  unfold endWith
  split_ifs <;> simp

/-- Segments lead to a path that is not empty. -/
theorem follow_ne_nil (form : Form) (directories : List String) {segments : List String}
    (h : segments ≠ []) : follow form directories segments ≠ [] := by
  induction segments generalizing directories with
  | nil => exact absurd rfl h
  | cons first rest ih =>
      cases rest with
      | nil => exact endWith_ne_nil form directories first
      | cons next more => exact ih _ (List.cons_ne_nil next more)

/-- A path that is read is not empty. -/
theorem exists_of_readPath (form : Form) (directories : List String) (s : List Char) :
    ∃ first more, (readPath form directories s).1 = first :: more := by
  apply List.exists_cons_of_ne_nil
  apply follow_ne_nil
  unfold pieces
  rw [ne_eq, List.map_eq_nil_iff]
  exact Text.splitOn_ne_nil _ _

/-! ## URLs on a server -/

/-- A URL of the scheme `http` is on a server. -/
structure OnServer (url : Url) (server : Authority) : Prop where
  /-- The scheme. -/
  scheme : url.scheme = "http"
  /-- The server. -/
  authority : url.authority = some server
  /-- The path begins with a slash. -/
  path : ∃ first more, url.path = .rooted (first :: more)
  /-- The server has a host. -/
  host : server.host.isSome = true
  /-- The usual port is not written. -/
  port : server.port ≠ some 80

namespace OnServer

variable {url other : Url} {server served : Authority}

/-- The origin of a URL on a server. -/
theorem origin? (h : url.OnServer server) :
    url.origin? = server.host.map fun host => ⟨"http", host, server.port.getD 80⟩ := by
  unfold Url.origin? originWithin? ownOrigin?
  rw [h.scheme, h.authority, if_neg (by decide)]
  cases hhost : server.host <;> simp [defaultPort?, hhost]

/-- Two URLs have the same origin exactly if their servers have the same host and port. -/
theorem sameOrigin_iff (h : url.OnServer server) (hother : other.OnServer served) :
    url.sameOrigin other = true ↔ server.host = served.host ∧ server.port = served.port := by
  have hport : server.port.getD 80 = served.port.getD 80 ↔ server.port = served.port := by
    have hport := h.port
    have hport' := hother.port
    generalize server.port = port at hport
    generalize served.port = port' at hport'
    cases port <;> cases port' <;> simp_all [eq_comm]
  obtain ⟨host, hhost⟩ := Option.isSome_iff_exists.mp h.host
  obtain ⟨host', hhost'⟩ := Option.isSome_iff_exists.mp hother.host
  unfold sameOrigin
  rw [h.origin?, hother.origin?, hhost, hhost', Option.map_some, Option.map_some, ← hport]
  simp

/-- What follows the scheme is the server between slashes, and the rest. -/
theorem exists_afterScheme (h : url.OnServer server) :
    ∃ tail, url.afterScheme = "//" ++ server.text ++ "/" ++ tail := by
  obtain ⟨first, more, hpath⟩ := h.path
  refine ⟨first ++ String.join (more.map ("/" ++ ·)) ++ marked "?" url.query ++
    marked "#" url.fragment, ?_⟩
  unfold afterScheme beforePath pathAndQuery
  rw [h.authority, hpath, Path.text]
  simp [String.append_assoc]

/-- The whole text. -/
theorem exists_text (h : url.OnServer server) :
    ∃ tail, url.text = "http://" ++ server.text ++ "/" ++ tail := by
  obtain ⟨tail, htail⟩ := h.exists_afterScheme
  refine ⟨tail, ?_⟩
  unfold Url.text
  rw [h.scheme, htail]
  simp only [← String.append_assoc]
  rfl

/-- A URL stays on its server when its path is another one. -/
theorem withPath (h : url.OnServer server) (form : Form) (directories : List String)
    (s : List Char) :
    OnServer { url with path := .rooted (readPath form directories s).1 } server := by
  obtain ⟨first, more, hpath⟩ := exists_of_readPath form directories s
  exact ⟨h.scheme, h.authority, ⟨first, more, congrArg _ hpath⟩, h.host, h.port⟩

/-- A URL stays on its server when its query is another one. -/
theorem withQuery (h : url.OnServer server) (s : List Char) : (url.withQuery s).OnServer server :=
  ⟨h.scheme, h.authority, h.path, h.host, h.port⟩

end OnServer

/-- What follows a server makes a URL on this server. -/
theorem onServer_afterAuthority {s rest : List Char} {authority : Authority}
    (h : readAuthority "http" s = .ok (authority, rest)) :
    (afterAuthority "http" authority rest).OnServer authority := by
  obtain ⟨hhost, hport⟩ := isSome_host_of_readAuthority h
  refine ⟨rfl, rfl, ?_, hhost, hport⟩
  unfold afterAuthority
  have hspecial : (formOf "http").isSpecial = true := rfl
  simp only [hspecial, Bool.not_true, Bool.false_and, Bool.false_eq_true, if_false]
  split_ifs
  · obtain ⟨first, more, hpath⟩ := exists_of_readPath (formOf "http") [] (rest.drop 1)
    exact ⟨first, more, congrArg _ hpath⟩
  · obtain ⟨first, more, hpath⟩ := exists_of_readPath (formOf "http") [] rest
    exact ⟨first, more, congrArg _ hpath⟩

/-! ## Where references lead -/

variable {base url : Url} {server : Authority} {reference : String}

/-- A reference without a scheme is read relative to a URL on a server. -/
theorem join_eq_readRelative (h : base.OnServer server)
    (hscheme : splitScheme? (clean reference) = none) :
    base.join reference = readRelative base (clean reference) := by
  obtain ⟨first, more, hpath⟩ := h.path
  have hform : formOf base.scheme ≠ .file := by
    rw [h.scheme]
    decide
  unfold join
  simp only [hscheme, hpath, if_neg hform]
  split_ifs with hhash
  · simp [readRelative, hhash]
  · rfl

/-- A reference that begins with a slash has no scheme. -/
theorem join_eq_readRelative_of_isSlash (h : base.OnServer server) {c : Char} {rest : List Char}
    (hclean : clean reference = c :: rest) (hslash : isSlash .web c = true) :
    base.join reference = readRelative base (c :: rest) := by
  rw [join_eq_readRelative h (by rw [hclean, splitScheme?_of_isSlash hslash]), hclean]

/-- A reference that names a server is read from what follows its slashes. -/
theorem exists_of_join_of_namesServer (hbase : base.OnServer server)
    (h : namesServer reference = true) (hjoin : base.join reference = .ok url) :
    ∃ authority rest,
      readAuthority "http" ((clean reference).dropWhile (isSlash .web)) = .ok (authority, rest) ∧
      url = afterAuthority "http" authority rest := by
  obtain ⟨first, second, rest, hclean, hfirst, hsecond⟩ := exists_of_namesServer h
  have hserver : readServer "http" (if ['/', '/'].isPrefixOf (first :: second :: rest) then rest
      else (first :: second :: rest).dropWhile (isSlash .web)) = .ok url := by
    have hmark : ∀ mark ∈ [none, some '#', some '?'], some first ≠ mark := by
      rcases isSlash_web_iff.mp hfirst with rfl | rfl <;> simp
    rw [join_eq_readRelative_of_isSlash hbase hclean hfirst, readRelative, hbase.scheme] at hjoin
    simpa [hfirst, hsecond, hmark] using hjoin
  obtain ⟨⟨authority, after⟩, hauthority, hurl⟩ := exists_of_bind_eq_ok hserver
  refine ⟨authority, after, ?_, (Except.ok.inj hurl).symm⟩
  rw [hclean]
  split_ifs at hauthority with htwo
  · -- Two slashes are taken off, and what follows does not begin with another one.
    rw [List.dropWhile_cons_of_pos hfirst, List.dropWhile_cons_of_pos hsecond,
      dropWhile_of_readAuthority hauthority]
    exact hauthority
  · exact hauthority

/-- A reference that names a server leads to this server. -/
theorem onServer_of_join (hbase : base.OnServer server) (h : namesServer reference = true)
    (hjoin : base.join reference = .ok url) :
    ∃ authority rest,
      readAuthority "http" ((clean reference).dropWhile (isSlash .web)) = .ok (authority, rest) ∧
      url.OnServer authority := by
  obtain ⟨authority, rest, hauthority, rfl⟩ := exists_of_join_of_namesServer hbase h hjoin
  exact ⟨authority, rest, hauthority, onServer_afterAuthority hauthority⟩

/-- A path that begins with a slash still does when the characters that do not count are gone. -/
theorem exists_clean_of_slash {text : String} {s : List Char} (h : text.toList = '/' :: s) :
    ∃ rest, clean text = '/' :: rest := by
  have hkept : ('/' :: s).dropWhile (·.toNat ≤ 0x20) = '/' :: s :=
    List.dropWhile_cons_of_neg (by decide)
  -- The slash is also the last character that could be dropped from the end.
  have hend : ∃ more, (s.reverse ++ ['/']).dropWhile (·.toNat ≤ 0x20) = more ++ ['/'] := by
    rw [List.dropWhile_append]
    split_ifs
    · exact ⟨[], rfl⟩
    · exact ⟨_, rfl⟩
  obtain ⟨more, hmore⟩ := hend
  unfold clean
  dsimp only
  rw [h, hkept, List.reverse_cons, hmore, List.reverse_append, List.reverse_singleton,
    List.singleton_append, List.filter_cons_of_pos (by decide)]
  exact ⟨_, rfl⟩

/-- A path that begins with one slash stays on the server. -/
theorem onServer_join_of_slash (hbase : base.OnServer server) {rest : List Char}
    (hclean : clean reference = '/' :: rest) (h : namesServer reference = false) :
    ∃ url, base.join reference = .ok url ∧ url.OnServer server := by
  have hsecond : rest.head?.any (isSlash .web) = false := by
    unfold namesServer at h
    rw [hclean] at h
    cases rest with
    | nil => rfl
    | cons second more => exact h
  have hserver := (hbase.withPath (formOf base.scheme) [] rest).withQuery
    (readPath (formOf base.scheme) [] rest).2
  refine ⟨_, ?_, hserver⟩
  rw [join_eq_readRelative_of_isSlash hbase hclean rfl, readRelative]
  simp [hsecond, isSlash]

end Hypermedia.Url
