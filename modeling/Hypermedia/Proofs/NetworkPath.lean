import Hypermedia.Proofs.Text.Pieces
import Hypermedia.Proofs.Url.Server
import Hypermedia.Relation

/-!
# Relations that name a server

What becomes of a relation that names a server but no scheme, such as `//cdn.example.com/cover.json`.

* `Uri.path_of_parse?` says which paths a request has, and `Resolver.onServer_baseOf` which server
  relations are relative to.
* `Resolver.resolve_of_namesServer` says what such a relation is: it leads to the server that it
  names, is of the same origin only if that is the server it is relative to, and is written without a
  scheme only if the two slashes were its first characters.
-/

namespace Hypermedia

/-! ## The paths of requests -/

namespace Uri

/-- The path that is read from what follows a scheme and an authority. -/
theorem path_of_readPathAndQuery? {s : List Char} {path : String} {query : Option String}
    (h : readPathAndQuery? s = some (path, query)) (hfirst : ∀ c rest, s = c :: rest →
      c = '/' ∨ c = '?' ∨ c = '#') : path = "" ∨ ∃ rest, path.toList = '/' :: rest := by
  unfold readPathAndQuery? at h
  dsimp only at h
  split_ifs at h
  obtain ⟨rfl, -⟩ := Prod.mk.inj (Option.some.inj h)
  cases s with
  | nil => exact .inl rfl
  | cons c rest =>
      rcases hfirst c rest rfl with rfl | rfl | rfl
      · exact .inr ⟨_, String.toList_ofList⟩
      · exact .inl rfl
      · exact .inl rfl

/-- A target whose path was written with a slash at its start, or not at all, has such a path. -/
theorem path_of_rawPath (uri : Uri)
    (h : uri.rawPath = "" ∨ ∃ rest, uri.rawPath.toList = '/' :: rest) :
    uri.path = "" ∨ ∃ rest, uri.path.toList = '/' :: rest := by
  unfold path
  rcases h with hempty | ⟨rest, hrest⟩
  · rw [hempty, if_pos (String.isEmpty_iff.mpr rfl)]
    split_ifs
    · exact .inr ⟨[], rfl⟩
    · exact .inl rfl
  · have hne : uri.rawPath ≠ "" := by
      intro hempty
      rw [hempty] at hrest
      cases hrest
    rw [if_neg fun hempty => hne (String.isEmpty_iff.mp hempty)]
    exact .inr ⟨rest, hrest⟩

/-- The path of an absolute target begins with a slash, or it is empty. -/
theorem path_of_readAbsolute? {s : List Char} {uri : Uri} (h : readAbsolute? s = some uri) :
    uri.path = "" ∨ ∃ rest, uri.path.toList = '/' :: rest := by
  apply path_of_rawPath
  unfold readAbsolute? at h
  split at h
  · split_ifs at h
    obtain rfl := Option.some.inj h
    exact .inl rfl
  · next scheme rest hsplit =>
    dsimp only at h
    split_ifs at h
    obtain ⟨⟨path, query⟩, hread, rfl⟩ := Option.map_eq_some_iff.mp h
    refine path_of_readPathAndQuery? hread fun c more hdrop => ?_
    rw [Text.drop_length_takeWhile] at hdrop
    have hend := List.head?_dropWhile_not (fun c : Char => c ≠ '/' && c ≠ '?' && c ≠ '#') rest
    rw [hdrop] at hend
    simpa [or_iff_not_imp_left] using hend

/-- The path of a request begins with a slash, or it is empty or the asterisk. -/
theorem path_of_parse? {text : String} {uri : Uri} (h : parse? text = some uri) :
    uri.path = "" ∨ uri.path = "*" ∨ ∃ rest, uri.path.toList = '/' :: rest := by
  unfold parse? at h
  split_ifs at h
  split at h
  · cases h
  · obtain rfl := Option.some.inj h
    exact .inr (.inl rfl)
  · next rest htext =>
    obtain ⟨⟨path, query⟩, hread, rfl⟩ := Option.map_eq_some_iff.mp h
    have hpath := path_of_readPathAndQuery? hread fun c more hcons =>
      .inl (List.cons.inj hcons).1.symm
    exact (path_of_rawPath ⟨none, none, path, query⟩ hpath).imp id .inr
  · exact (path_of_readAbsolute? h).imp id .inr

end Uri

namespace Resolver

open Url (namesServer OnServer)

/-- The server that stands for the one of the API. -/
def localServer : Url.Authority :=
  ⟨"", "", some (.name "vulcain.invalid"), none⟩

/-- The URL that stands for the origin of the API is on this server. -/
theorem onServer_localOrigin : localOrigin.OnServer localServer :=
  ⟨rfl, rfl, ⟨"", [], rfl⟩, rfl, by decide⟩

/-- Relations are relative to a URL on the server that stands for the one of the API, unless the path
of the request names another one. -/
theorem onServer_baseOf {text : String} {uri : Uri} (h : Uri.parse? text = some uri) :
    ∃ server, (baseOf uri).OnServer server ∧
      (namesServer uri.path = false → server = localServer) := by
  unfold baseOf
  rcases Uri.path_of_parse? h with hempty | hasterisk | ⟨rest, hslash⟩
  · rw [hempty]
    exact ⟨localServer, onServer_localOrigin, fun _ => rfl⟩
  · rw [hasterisk]
    exact ⟨localServer, ⟨rfl, rfl, ⟨"*", [], by decide +kernel⟩, rfl, by decide⟩, fun _ => rfl⟩
  · obtain ⟨kept, hclean⟩ := Url.exists_clean_of_slash hslash
    cases hnames : namesServer uri.path with
    | false =>
        obtain ⟨url, hjoin, hurl⟩ := Url.onServer_join_of_slash onServer_localOrigin hclean hnames
        rw [hjoin]
        exact ⟨localServer, hurl, fun _ => rfl⟩
    | true =>
        cases hjoin : localOrigin.join uri.path with
        | error error => exact ⟨localServer, onServer_localOrigin, fun _ => rfl⟩
        | ok url =>
            obtain ⟨authority, after, -, hurl⟩ :=
              Url.onServer_of_join onServer_localOrigin hnames hjoin
            exact ⟨authority, hurl, fun hnone => absurd hnone (by decide)⟩

end Resolver

/-! ## Relations -/

open Url (namesServer OnServer)

/-- A relation that names a server leads to it. Its origin is compared with that of the base, and it
counts as written without a scheme if its first characters are two slashes. -/
theorem Relation.onServer_of_parse {base : Url} {own : Url.Authority} (hbase : base.OnServer own)
    {raw : String} (hraw : namesServer raw = true) {relation : Relation}
    (h : parse base raw = .ok relation) :
    ∃ authority rest,
      Url.readAuthority "http" ((Url.clean raw).dropWhile (Url.isSlash .web)) =
        .ok (authority, rest) ∧
      relation.url.OnServer authority ∧
      relation.sameOrigin = relation.url.sameOrigin base ∧
      relation.schemeRelative = ['/', '/'].isPrefixOf raw.toList := by
  obtain ⟨first, second, rest, hclean, hfirst, -⟩ := Url.exists_of_namesServer hraw
  have hnone : Url.parse raw = .error .noBase := by
    unfold Url.parse
    rw [hclean, Url.splitScheme?_of_isSlash hfirst]
  unfold parse at h
  split_ifs at h
  rw [hnone] at h
  dsimp only at h
  split at h
  · next url hjoin =>
    obtain rfl := Except.ok.inj h
    obtain ⟨authority, after, hauthority, hurl⟩ := Url.onServer_of_join hbase hraw hjoin
    exact ⟨authority, after, hauthority, hurl, rfl, rfl⟩
  · cases h

namespace Resolver

/-- Without route lookups, a string is read as it is. -/
theorem resolve_ofRequest_none (uri : Uri) (selector raw : String) :
    (ofRequest none uri).resolve selector raw = Relation.parse (baseOf uri) raw := by
  simp only [ofRequest, resolve, lookupOf]

/-- **What becomes of a relation that names a server.** Relations are relative to a URL on the server
that stands for the one of the API, unless the path of the request names another one. A relation that
names a server leads to the server that is read from what follows its slashes. It is of the same
origin exactly if this is the server that relations are relative to. If it is not, it is written with
that server at its start: after two slashes if these are its first characters, and with the scheme
`http` otherwise. -/
theorem resolve_of_namesServer {text : String} {uri : Uri} (huri : Uri.parse? text = some uri)
    {selector raw : String} (hraw : namesServer raw = true) {relation : Relation}
    (h : (ofRequest none uri).resolve selector raw = .ok relation) :
    ∃ own authority rest,
      (baseOf uri).OnServer own ∧ (namesServer uri.path = false → own = localServer) ∧
      Url.readAuthority "http" ((Url.clean raw).dropWhile (Url.isSlash .web)) =
        .ok (authority, rest) ∧
      (relation.sameOrigin = true ↔ authority.host = own.host ∧ authority.port = own.port) ∧
      (relation.sameOrigin = false → ['/', '/'].isPrefixOf raw.toList = true →
        ∃ tail, relation.text = "//" ++ authority.text ++ "/" ++ tail) ∧
      (relation.sameOrigin = false → ['/', '/'].isPrefixOf raw.toList = false →
        ∃ tail, relation.text = "http://" ++ authority.text ++ "/" ++ tail) := by
  rw [resolve_ofRequest_none] at h
  obtain ⟨own, hbase, hlocal⟩ := onServer_baseOf huri
  obtain ⟨authority, rest, hauthority, hurl, hsame, hrelative⟩ :=
    Relation.onServer_of_parse hbase hraw h
  refine ⟨own, authority, rest, hbase, hlocal, hauthority, ?_, ?_, ?_⟩
  · rw [hsame]
    exact hurl.sameOrigin_iff hbase
  · intro hforeign htwo
    unfold Relation.text
    rw [hforeign, hrelative, htwo]
    exact hurl.exists_afterScheme
  · intro hforeign hother
    unfold Relation.text
    rw [hforeign, hrelative, hother]
    exact hurl.exists_text

/-- A cover on another server. -/
def coverUrl : Url :=
  ⟨"http", some ⟨"", "", some (.ipv6 [0x2001, 0xdb8, 0, 0, 0, 0, 0, 1]), none⟩,
    .rooted ["cover.json"], none, none⟩

/-- A cover on another server is written without a scheme, as it was. -/
theorem resolve_cover :
    Uri.parse? "/books/1" = some ⟨none, none, "/books/1", none⟩ ∧
    namesServer "//[2001:db8::1]/cover.json" = true ∧
    (ofRequest none ⟨none, none, "/books/1", none⟩).resolve "/cover" "//[2001:db8::1]/cover.json" =
      .ok ⟨coverUrl, false, true, false⟩ ∧
    ∃ authority rest,
      Url.readAuthority "http" ((Url.clean "//[2001:db8::1]/cover.json").dropWhile
        (Url.isSlash .web)) = .ok (authority, rest) ∧
      ∃ tail,
        (Relation.mk coverUrl false true false).text = "//" ++ authority.text ++ "/" ++ tail := by
  have huri : Uri.parse? "/books/1" = some ⟨none, none, "/books/1", none⟩ := by decide +kernel
  have hraw : namesServer "//[2001:db8::1]/cover.json" = true := by decide +kernel
  have hresolve : (ofRequest none ⟨none, none, "/books/1", none⟩).resolve "/cover"
      "//[2001:db8::1]/cover.json" = .ok ⟨coverUrl, false, true, false⟩ := by
    decide +kernel
  have hslashes : ['/', '/'].isPrefixOf "//[2001:db8::1]/cover.json".toList = true := by decide
  obtain ⟨-, authority, rest, -, -, hauthority, -, htext, -⟩ :=
    resolve_of_namesServer huri hraw hresolve
  exact ⟨huri, hraw, hresolve, authority, rest, hauthority, htext rfl hslashes⟩

/-- A relation that names the server of the request path is taken for one of the API and loses the
server, and one that names its server after two backslashes gets the scheme `http`. -/
theorem resolve_cover_misread :
    (namesServer "//[2001:db8::1]/cover.json" = true ∧ ∃ uri relation,
      Uri.parse? "//[2001:db8::1]/books/1" = some uri ∧
      (ofRequest none uri).resolve "/cover" "//[2001:db8::1]/cover.json" = .ok relation ∧
      relation.sameOrigin = true ∧ relation.text = "/cover.json") ∧
    (namesServer "\\\\[2001:db8::1]/cover.json" = true ∧ ∃ uri relation,
      Uri.parse? "/books/1" = some uri ∧
      (ofRequest none uri).resolve "/cover" "\\\\[2001:db8::1]/cover.json" = .ok relation ∧
      relation.sameOrigin = false ∧ relation.text = "http://[2001:db8::1]/cover.json") := by
  refine ⟨⟨by decide +kernel, ⟨none, none, "//[2001:db8::1]/books/1", none⟩,
    ⟨coverUrl, true, true, false⟩, ?_, ?_, rfl, ?_⟩, ⟨by decide +kernel,
    ⟨none, none, "/books/1", none⟩, ⟨coverUrl, false, false, false⟩, ?_, ?_, rfl, ?_⟩⟩
  all_goals decide +kernel

end Resolver

end Hypermedia
