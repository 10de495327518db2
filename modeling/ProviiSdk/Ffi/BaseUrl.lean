/-
  ProviiSdk.Ffi.BaseUrl — base URLs with an API path behind them.

  The issuance calls take a base URL from the app, validate it, and put
  the path of their endpoint behind its text.  The transport parses the
  joined text again.  A query or a fragment of the base is not looked at,
  and what comes behind it is not a path.

  Main results:
    * `validateBaseUrl_ok_iff`, `parseUrlForH3_ok_iff` — what passes, and
      what is given back.
    * `concatenates_plain_iff` — behind a base without query and fragment.
    * `not_concatenates_of_query`, `not_concatenates_of_fragment` — behind
      any other base.
    * `base_concatenates_iff` — when a path reaches the host as it is.
-/

import ProviiSdk.Core.Challenge
import ProviiSdk.Ffi.Types

namespace ProviiSdk.Ffi.BaseUrl

open ProviiSdk.Core ProviiSdk.Check ProviiSdk.Text ProviiSdk.UriSyntax

/-! ## §1. The URL crate -/

/-- The `url` crate: its parser, and the characters it leaves in a path as
    they are. -/
structure UrlCrate where
  parse : List Char → Except String Url
  pathChar : Char → Bool

/-- A path that the parser has nothing to change in. -/
structure UrlCrate.NormalPath (C : UrlCrate) (path : List Char) : Prop where
  slash : path.head? = some '/'
  chars : ∀ c ∈ path, C.pathChar c = true
  dots : dotFree path = true

/-- **What the URL standard says** of paths and of a parsed `https` URL:
    letters, digits and slashes stay as they are in a path; the host has no
    slash and the path is normal; the parts in front of a path read back
    with any normal path; a question mark behind the path begins a query,
    and a hash a fragment. -/
structure UrlCrate.Standard (C : UrlCrate) : Prop where
  chars : ∀ c : Char, c.isAlphanum = true ∨ c = '/' → C.pathChar c = true
  host : ∀ s u, C.parse s = .ok u → u.scheme = "https".toList → ∀ h ∈ u.host, '/' ∉ h
  path : ∀ s u, C.parse s = .ok u → u.scheme = "https".toList → C.NormalPath u.path
  readsBack : ∀ s u, C.parse s = .ok u → u.scheme = "https".toList →
    ∀ path, C.NormalPath path → C.parse (u.front ++ path) = .ok (u.withPath path)
  queryMark : ∀ s u, C.parse s = .ok u → u.scheme = "https".toList →
    ∀ t v, C.parse (u.front ++ u.path ++ '?' :: t) = .ok v → v.query ≠ none
  fragmentMark : ∀ s u, C.parse s = .ok u → u.scheme = "https".toList →
    ∀ t v, C.parse (u.front ++ u.path ++ '#' :: t) = .ok v → v.path = u.path

variable (C : UrlCrate)

/-! ## §2. The two functions -/

/-- `validate_base_url` -/
def validateBaseUrl (baseUrl : List Char) : Except FfiError (List Char) := do
  let parsed ← (C.parse baseUrl).mapError fun e => .invalidFormat ("Invalid base URL: " ++ e)
  require (parsed.scheme = "https".toList) (.invalidFormat "Base URL must use HTTPS")
  require (parsed.host.all List.isEmpty = false) (.invalidFormat "Base URL has no host")
  return trimEnd '/' parsed.asStr

/-- `parse_url_for_h3`: the host, the port, and the path with its query. -/
def parseUrlForH3 (parse : List Char → Except String Url) (url : List Char) :
    Except FfiError (List Char × UInt16 × List Char) := do
  let parsed ← (parse url).mapError .invalidFormat
  require (parsed.scheme = "https".toList) (.invalidFormat "Only HTTPS URLs are supported")
  let host ← okOr parsed.host (.invalidFormat "No host in URL")
  require (host.isEmpty = false) (.invalidFormat "Empty host in URL")
  return (host, parsed.port.getD 443, parsed.path ++ marked '?' parsed.query)

/-- The paths of the issuance calls, each put behind a validated base. -/
def endpointPaths : List (List Char) :=
  ["/v1/challenge".toList, "/v1/issuance/start".toList, "/v1/issuance/blind".toList,
    "/v1/attestation/create".toList]

/-- **Which bases pass.** -/
theorem validateBaseUrl_ok_iff (baseUrl b : List Char) :
    validateBaseUrl C baseUrl = .ok b ↔
      ∃ u, C.parse baseUrl = .ok u ∧ u.scheme = "https".toList ∧
        (∃ host, u.host = some host ∧ host ≠ []) ∧ b = trimEnd '/' u.asStr := by
  have hhost : ∀ u : Url, u.host.all List.isEmpty = false ↔ ∃ host, u.host = some host ∧ host ≠ [] := by
    intro u
    cases u.host with
    | none => simp
    | some host => simp
  unfold validateBaseUrl
  simp only [bind_eq_ok_iff, mapError_eq_ok_iff, require_eq_ok_iff, hhost]
  constructor
  · intro h
    obtain ⟨u, hu, -, hscheme, -, hsome, hb⟩ := h
    injection hb with hb
    exact ⟨u, hu, hscheme, hsome, hb.symm⟩
  · intro h
    obtain ⟨u, hu, hscheme, hsome, rfl⟩ := h
    exact ⟨u, hu, (), hscheme, (), hsome, rfl⟩

/-- **What the transport takes from a URL.** -/
theorem parseUrlForH3_ok_iff (parse : List Char → Except String Url) (url : List Char)
    (r : List Char × UInt16 × List Char) :
    parseUrlForH3 parse url = .ok r ↔
      ∃ u, parse url = .ok u ∧ u.scheme = "https".toList ∧
        ∃ host, u.host = some host ∧ host ≠ [] ∧
          r = (host, u.port.getD 443, u.path ++ marked '?' u.query) := by
  unfold parseUrlForH3
  simp only [bind_eq_ok_iff, mapError_eq_ok_iff, require_eq_ok_iff, okOr_eq_ok_iff,
    List.isEmpty_eq_false_iff]
  constructor
  · intro h
    obtain ⟨u, hu, -, hscheme, host, hhost, -, hne, hr⟩ := h
    injection hr with hr
    exact ⟨u, hu, hscheme, host, hhost, hne, hr.symm⟩
  · intro h
    obtain ⟨u, hu, hscheme, host, hhost, hne, rfl⟩ := h
    exact ⟨u, hu, (), hscheme, host, hhost, (), hne, rfl⟩

/-! ## §3. The text of a base -/

variable {C}

/-- A host without a slash ends what stands before the path. -/
theorem bare_front {u : Url} {host : List Char} (hhost : u.host = some host) (hne : host ≠ [])
    (hslash : '/' ∉ host) : Bare '/' u.front := by
  have hshape : u.front = (u.scheme ++ "://".toList ++ u.userinfo) ++
      (host ++ marked ':' (u.port.map fun port => decimal port.toNat)) := by
    unfold Url.front
    rw [hhost]
    exact List.append_assoc _ _ _
  have hport : '/' ∉ marked ':' (u.port.map fun port => decimal port.toNat) := by
    cases u.port with
    | none => exact List.not_mem_nil
    | some port =>
      show '/' ∉ ':' :: decimal port.toNat
      rw [List.mem_cons, not_or]
      exact ⟨by decide, notMem_decimal _ _ (by decide)⟩
  rw [hshape]
  refine bare_append _ (List.append_ne_nil_of_left_ne_nil hne _) ?_
  rw [List.mem_append, not_or]
  exact ⟨hslash, hport⟩

/-- The base of a URL without query and fragment. -/
theorem trimEnd_asStr {u : Url} (hfront : Bare '/' u.front) (hquery : u.query = none)
    (hfragment : u.fragment = none) : trimEnd '/' u.asStr = u.front ++ trimEnd '/' u.path := by
  unfold Url.asStr
  rw [hquery, hfragment]
  show trimEnd '/' (u.front ++ u.path ++ [] ++ []) = _
  rw [List.append_nil, List.append_nil, trimEnd_append hfront]

/-- A query is in the base behind the path. -/
theorem trimEnd_asStr_of_query {u : Url} {query : List Char} (hquery : u.query = some query) :
    ∃ t, trimEnd '/' u.asStr = u.front ++ u.path ++ '?' :: t := by
  refine ⟨trimEnd '/' (query ++ marked '#' u.fragment), ?_⟩
  unfold Url.asStr
  rw [hquery]
  show trimEnd '/' (u.front ++ u.path ++ '?' :: query ++ marked '#' u.fragment) = _
  rw [List.append_assoc, List.cons_append]
  exact trimEnd_mark (by decide) _ _

/-- A fragment alone is there as well. -/
theorem trimEnd_asStr_of_fragment {u : Url} {fragment : List Char} (hquery : u.query = none)
    (hfragment : u.fragment = some fragment) :
    ∃ t, trimEnd '/' u.asStr = u.front ++ u.path ++ '#' :: t := by
  refine ⟨trimEnd '/' fragment, ?_⟩
  unfold Url.asStr
  rw [hquery, hfragment]
  show trimEnd '/' (u.front ++ u.path ++ [] ++ '#' :: fragment) = _
  rw [List.append_nil]
  exact trimEnd_mark (by decide) _ _

/-- **A path behind a trimmed path** is normal if it is normal itself. -/
theorem normalPath_append_iff {path p : List Char} (hpath : C.NormalPath path)
    (hp : p.head? = some '/') : C.NormalPath (trimEnd '/' path ++ p) ↔ C.NormalPath p := by
  obtain ⟨rest, hrest, -⟩ := exists_trimmed '/' path
  have hchars : ∀ c ∈ trimEnd '/' path, C.pathChar c = true := by
    intro c hc
    refine hpath.chars c ?_
    rw [hrest]
    exact List.mem_append_left rest hc
  have hdots := dotFree_trimEnd hpath.dots
  cases p with
  | nil => cases hp
  | cons c p =>
    injection hp with hp
    subst hp
    have hjoin : dotFree (trimEnd '/' path ++ '/' :: p) = dotFree ('/' :: p) := by
      rw [dotFree_append_slash, dotFree_slash, hdots, Bool.true_and]
    constructor
    · intro h
      exact ⟨rfl, fun d hd => h.chars d (List.mem_append_right _ hd), hjoin ▸ h.dots⟩
    · intro h
      refine ⟨?_, ?_, hjoin.trans h.dots⟩
      · -- what is left of the path begins as the path did
        cases hstem : trimEnd '/' path with
        | nil => rfl
        | cons d stem =>
          rw [hstem] at hrest
          have hslash := hpath.slash
          rw [hrest] at hslash
          exact hslash
      · intro d hd
        rcases List.mem_append.1 hd with hd | hd
        · exact hchars d hd
        · exact h.chars d hd

/-! ## §4. Paths behind a base -/

/-- **A path reaches the host as it is**: the base and the path parse to
    the scheme, the host and the port of the given URL and no query, and
    the transport asks for the given path, without slashes at its end, and
    the path behind it. -/
def Concatenates (C : UrlCrate) (s b p : List Char) : Prop :=
  ∃ u v, C.parse s = .ok u ∧ C.parse (b ++ p) = .ok v ∧
    (v.scheme = u.scheme ∧ v.host = u.host ∧ v.port = u.port) ∧ v.query = none ∧
    ∃ host, u.host = some host ∧
      parseUrlForH3 C.parse (b ++ p) = .ok (host, u.port.getD 443, trimEnd '/' u.path ++ p)

/-- What is parsed from a base and a path that concatenate. -/
theorem path_of_concatenates {s b p : List Char} {u : Url} (hu : C.parse s = .ok u)
    (h : Concatenates C s b p) :
    ∃ v, C.parse (b ++ p) = .ok v ∧ v.scheme = u.scheme ∧ v.query = none ∧
      v.path = trimEnd '/' u.path ++ p := by
  obtain ⟨u', v, hu', hv, ⟨hscheme, -, -⟩, hquery, host, -, hsent⟩ := h
  rw [hu] at hu'
  injection hu' with hu'
  subst hu'
  obtain ⟨v', hv', -, host', -, -, hr⟩ := (parseUrlForH3_ok_iff C.parse _ _).1 hsent
  rw [hv] at hv'
  injection hv' with hv'
  subst hv'
  injection hr with hhost hr
  injection hr with hport hr
  rw [hquery] at hr
  exact ⟨v, hv, hscheme, hquery, (hr.trans (List.append_nil v.path)).symm⟩

/-- **Behind a base without query and fragment** the normal paths reach
    the host. -/
theorem concatenates_plain_iff (hC : C.Standard) {s p : List Char} {u : Url} {host : List Char}
    (hu : C.parse s = .ok u) (hscheme : u.scheme = "https".toList) (hhost : u.host = some host)
    (hne : host ≠ []) (hquery : u.query = none) (hfragment : u.fragment = none)
    (hp : p.head? = some '/') :
    Concatenates C s (trimEnd '/' u.asStr) p ↔ C.NormalPath p := by
  have hpath := hC.path s u hu hscheme
  have hbare := bare_front hhost hne (hC.host s u hu hscheme host hhost)
  have hbase : trimEnd '/' u.asStr ++ p = u.front ++ (trimEnd '/' u.path ++ p) := by
    rw [trimEnd_asStr hbare hquery hfragment, List.append_assoc]
  constructor
  · intro h
    obtain ⟨v, hv, hsame, -, hsent⟩ := path_of_concatenates hu h
    have hnormal := hC.path _ v hv (hsame.trans hscheme)
    rw [hsent] at hnormal
    exact (normalPath_append_iff hpath hp).1 hnormal
  · intro h
    have hparse := hC.readsBack s u hu hscheme _ ((normalPath_append_iff hpath hp).2 h)
    rw [← hbase] at hparse
    refine ⟨u, _, hu, hparse, ⟨rfl, rfl, rfl⟩, rfl, host, hhost, ?_⟩
    rw [parseUrlForH3_ok_iff]
    refine ⟨_, hparse, hscheme, host, hhost, hne, ?_⟩
    show _ = (host, u.port.getD 443, trimEnd '/' u.path ++ p ++ [])
    rw [List.append_nil]

/-- **Behind a query** a path is part of the query. -/
theorem not_concatenates_of_query (hC : C.Standard) {s p : List Char} {u : Url}
    (hu : C.parse s = .ok u) (hscheme : u.scheme = "https".toList) {query : List Char}
    (hquery : u.query = some query) : ¬ Concatenates C s (trimEnd '/' u.asStr) p := by
  intro h
  obtain ⟨v, hv, -, hnone, -⟩ := path_of_concatenates hu h
  obtain ⟨t, ht⟩ := trimEnd_asStr_of_query hquery
  rw [ht, List.append_assoc, List.cons_append] at hv
  exact hC.queryMark s u hu hscheme _ v hv hnone

/-- **Behind a fragment** a path is part of the fragment. -/
theorem not_concatenates_of_fragment (hC : C.Standard) {s p : List Char} {u : Url}
    (hu : C.parse s = .ok u) (hscheme : u.scheme = "https".toList) {fragment : List Char}
    (hquery : u.query = none) (hfragment : u.fragment = some fragment)
    (hp : ∃ c ∈ p, c ≠ '/') : ¬ Concatenates C s (trimEnd '/' u.asStr) p := by
  intro h
  obtain ⟨v, hv, -, -, hsent⟩ := path_of_concatenates hu h
  obtain ⟨t, ht⟩ := trimEnd_asStr_of_fragment hquery hfragment
  rw [ht, List.append_assoc, List.cons_append] at hv
  have hkept := hC.fragmentMark s u hu hscheme _ v hv
  -- the path would be made of the slashes that were trimmed
  obtain ⟨rest, hrest, hslashes⟩ := exists_trimmed '/' u.path
  have hsame : p = rest := List.append_cancel_left ((hsent.symm.trans hkept).trans hrest)
  obtain ⟨c, hc, hslash⟩ := hp
  exact hslash (hslashes c (hsame ▸ hc))

/-- The paths of the issuance calls are normal. -/
theorem endpointPaths_normal (hC : C.Standard) : ∀ p ∈ endpointPaths, C.NormalPath p := by
  have hslash : ∀ p ∈ endpointPaths, p.head? = some '/' := by decide
  have hchars : ∀ p ∈ endpointPaths, (p.all fun c => c.isAlphanum || c == '/') = true := by decide
  have hdots : ∀ p ∈ endpointPaths, dotFree p = true := by decide
  intro p hp
  refine ⟨hslash p hp, ?_, hdots p hp⟩
  intro c hc
  have hplain := List.all_eq_true.1 (hchars p hp) c hc
  rw [Bool.or_eq_true, beq_iff_eq] at hplain
  exact hC.chars c hplain

/-! ## §5. A plain parser -/

/-- A host of lower-case letters, digits, dots and hyphens. -/
def isPlainHostChar (c : Char) : Bool := c.isLower || c.isDigit || c == '.' || c == '-'

def isPlainPathChar (c : Char) : Bool := c.isAlphanum || c == '/' || c == '.' || c == '-'

def isPlainPath (path : List Char) : Bool :=
  path.head? == some '/' && path.all isPlainPathChar && dotFree path

/-- The pairs of a query that has nothing encoded. -/
def plainPairs (query : List Char) : List (String × String) :=
  (query.splitOn '&').map fun pair =>
    (String.ofList (before '=' pair), String.ofList ((after? '=' pair).getD []))

/-- The URL of a host and what stands behind it. -/
def plainUrl (host path : List Char) (query fragment : Option (List Char)) : Url where
  scheme := "https".toList
  userinfo := []
  host := some host
  port := none
  path := path
  query := query
  fragment := fragment
  queryPairs := (query.map plainPairs).getD []

/-- A parser for `https` URLs that are written in full, with nothing to
    encode or to normalise in host and path. -/
def plainParse (s : List Char) : Except String Url :=
  let rest := s.drop 8
  let host := rest.takeWhile isPlainHostChar
  let tail := rest.dropWhile isPlainHostChar
  let path := before '?' (before '#' tail)
  if "https://".toList.isPrefixOf s = true ∧ host ≠ [] ∧ isPlainPath path = true then
    .ok (plainUrl host path (after? '?' (before '#' tail)) (after? '#' tail))
  else .error "not a plain URL"

def plainCrate : UrlCrate where
  parse := plainParse
  pathChar := isPlainPathChar

theorem isPlainPath_iff (path : List Char) :
    isPlainPath path = true ↔ plainCrate.NormalPath path := by
  unfold isPlainPath
  simp only [Bool.and_eq_true, beq_iff_eq, List.all_eq_true]
  constructor
  · intro h
    exact ⟨h.1.1, h.1.2, h.2⟩
  · intro h
    exact ⟨⟨h.slash, h.chars⟩, h.dots⟩

/-- What the plain parser reads. -/
theorem plainParse_ok {s : List Char} {u : Url} (h : plainParse s = .ok u) :
    ∃ host path query fragment, u = plainUrl host path query fragment ∧
      (host ≠ [] ∧ ∀ c ∈ host, isPlainHostChar c = true) ∧ plainCrate.NormalPath path := by
  unfold plainParse at h
  dsimp only at h
  split at h
  next hc =>
    injection h with h
    exact ⟨_, _, _, _, h.symm, ⟨hc.2.1, fun c hmem => List.mem_takeWhile_imp hmem⟩,
      (isPlainPath_iff _).1 hc.2.2⟩
  next => cases h

/-- **What is written in full reads back.** -/
theorem plainParse_join {host path : List Char} (query fragment : Option (List Char))
    (hhost : host ≠ [] ∧ ∀ c ∈ host, isPlainHostChar c = true) (hpath : plainCrate.NormalPath path)
    (hquery : ∀ q ∈ query, '#' ∉ q) :
    plainParse ("https://".toList ++ host ++ (path ++ marked '?' query ++ marked '#' fragment)) =
      .ok (plainUrl host path query fragment) := by
  have hchars : ∀ c ∈ path, c ≠ '?' ∧ c ≠ '#' := by
    intro c hc
    have hplain := hpath.chars c hc
    refine ⟨?_, ?_⟩
    · rintro rfl
      exact absurd hplain (by decide)
    · rintro rfl
      exact absurd hplain (by decide)
  have hhash : '#' ∉ path ++ marked '?' query := by
    rw [List.mem_append, not_or]
    refine ⟨fun h => (hchars _ h).2 rfl, ?_⟩
    cases query with
    | none => exact List.not_mem_nil
    | some q =>
      show '#' ∉ '?' :: q
      rw [List.mem_cons, not_or]
      exact ⟨by decide, hquery q rfl⟩
  have hmark : '?' ∉ path := fun h => (hchars _ h).1 rfl
  -- the host ends where the path begins
  obtain ⟨path', rfl⟩ : ∃ path', path = '/' :: path' := by
    cases path with
    | nil => cases hpath.slash
    | cons c path' =>
      have hslash := hpath.slash
      injection hslash with hslash
      exact ⟨path', by rw [hslash]⟩
  generalize htail : '/' :: path' ++ marked '?' query ++ marked '#' fragment = tail
  have hend : tail.takeWhile isPlainHostChar = [] ∧ tail.dropWhile isPlainHostChar = tail := by
    rw [← htail]
    exact ⟨List.takeWhile_cons_of_neg (by decide), List.dropWhile_cons_of_neg (by decide)⟩
  have hdrop : ("https://".toList ++ host ++ tail).drop 8 = host ++ tail := by
    rw [List.append_assoc]
    rfl
  have hfirst : before '#' tail = '/' :: path' ++ marked '?' query := htail ▸ before_append hhash _
  have hlast : after? '#' tail = fragment := htail ▸ after_append hhash _
  have hstart : "https://".toList.isPrefixOf ("https://".toList ++ host ++ tail) = true := by
    rw [List.append_assoc, List.isPrefixOf_iff_prefix]
    exact List.prefix_append _ _
  unfold plainParse
  simp only [hdrop, List.takeWhile_append_of_pos hhost.2, List.dropWhile_append_of_pos hhost.2,
    hend.1, hend.2, List.append_nil, hfirst, hlast, before_append hmark, after_append hmark]
  exact if_pos ⟨hstart, hhost.1, (isPlainPath_iff _).2 hpath⟩

/-- What is read behind a mark, from a text taken apart at the marks. -/
theorem eq_of_plainParse {host path text : List Char} {query fragment : Option (List Char)} {v : Url}
    (hv : plainParse ("https://".toList ++ host ++ path ++ text) = .ok v)
    (htext : text = marked '?' query ++ marked '#' fragment)
    (hhost : host ≠ [] ∧ ∀ c ∈ host, isPlainHostChar c = true) (hpath : plainCrate.NormalPath path)
    (hquery : ∀ q ∈ query, '#' ∉ q) : v = plainUrl host path query fragment := by
  have hjoin := plainParse_join query fragment hhost hpath hquery
  rw [List.append_assoc path, ← htext, ← List.append_assoc] at hjoin
  injection hv.symm.trans hjoin

/-- The parts in front of a plain path. -/
theorem front_plainUrl (host path : List Char) (query fragment : Option (List Char)) :
    (plainUrl host path query fragment).front = "https://".toList ++ host := by
  show "https".toList ++ "://".toList ++ [] ++ host ++ [] = _
  rw [List.append_nil, List.append_nil]
  rfl

/-- **The plain parser follows the standard.** -/
theorem plainCrate_standard : plainCrate.Standard where
  chars c h := by
    show isPlainPathChar c = true
    unfold isPlainPathChar
    rcases h with h | rfl
    · rw [h, Bool.true_or, Bool.true_or, Bool.true_or]
    · decide
  host s u hu _ h hh := by
    obtain ⟨host, path, query, fragment, rfl, hhost, -⟩ := plainParse_ok hu
    injection hh with hh
    subst hh
    exact fun hslash => absurd (hhost.2 _ hslash) (by decide)
  path s u hu _ := by
    obtain ⟨host, path, query, fragment, rfl, -, hpath⟩ := plainParse_ok hu
    exact hpath
  readsBack s u hu _ q hq := by
    obtain ⟨host, path, query, fragment, rfl, hhost, -⟩ := plainParse_ok hu
    have hjoin := plainParse_join none none hhost hq fun q h => by cases h
    rw [front_plainUrl]
    simp only [marked, List.append_nil] at hjoin
    exact hjoin
  queryMark s u hu _ t v hv := by
    obtain ⟨host, path, query, fragment, rfl, hhost, hpath⟩ := plainParse_ok hu
    rw [front_plainUrl] at hv
    -- the hash in the text ends the query
    have htext : '?' :: t = marked '?' (some (before '#' t)) ++ marked '#' (after? '#' t) :=
      congrArg ('?' :: ·) (before_append_after '#' t).symm
    rw [eq_of_plainParse hv htext hhost hpath fun q hq => Option.some.inj hq ▸ notMem_before '#' t]
    exact Option.some_ne_none _
  fragmentMark s u hu _ t v hv := by
    obtain ⟨host, path, query, fragment, rfl, hhost, hpath⟩ := plainParse_ok hu
    rw [front_plainUrl] at hv
    have htext : '#' :: t = marked '?' none ++ marked '#' (some t) := rfl
    rw [eq_of_plainParse hv htext hhost hpath fun q h => by cases h]
    rfl

/-! ## §6. When a path reaches the host -/

/-- **When a path reaches the host as it is**: for every base that passes
    and every API path, exactly when the base has neither a query nor a
    fragment and the path is normal. -/
theorem base_concatenates_iff (C : UrlCrate) (hC : C.Standard) (s b p : List Char)
    (hb : validateBaseUrl C s = .ok b) (hp : "/v1/".toList <+: p) :
    Concatenates C s b p ↔
      (∃ u, C.parse s = .ok u ∧ u.query = none ∧ u.fragment = none) ∧ C.NormalPath p := by
  obtain ⟨u, hu, hscheme, ⟨host, hhost, hne⟩, rfl⟩ := (validateBaseUrl_ok_iff C s b).1 hb
  obtain ⟨rest, rfl⟩ := hp
  constructor
  · intro h
    cases hquery : u.query with
    | some query => exact absurd h (not_concatenates_of_query hC hu hscheme hquery)
    | none =>
      cases hfragment : u.fragment with
      | some fragment =>
        exact absurd h (not_concatenates_of_fragment hC hu hscheme hquery hfragment
          ⟨'v', List.mem_append_left rest (by decide), by decide⟩)
      | none =>
        exact ⟨⟨u, hu, hquery, hfragment⟩,
          (concatenates_plain_iff hC hu hscheme hhost hne hquery hfragment rfl).1 h⟩
  · intro h
    obtain ⟨⟨u', hu', hquery, hfragment⟩, hnormal⟩ := h
    rw [hu] at hu'
    injection hu' with hu'
    subst hu'
    exact (concatenates_plain_iff hC hu hscheme hhost hne hquery hfragment rfl).2 hnormal

/-- The equivalence for a base with slashes at its end. -/
theorem base_concatenates_sample :
    Concatenates plainCrate "https://issuer.example/api//".toList "https://issuer.example/api".toList
        "/v1/challenge".toList ↔
      (∃ u, plainParse "https://issuer.example/api//".toList = .ok u ∧ u.query = none ∧
        u.fragment = none) ∧ plainCrate.NormalPath "/v1/challenge".toList :=
  base_concatenates_iff plainCrate plainCrate_standard _ _ _ (by decide) (by decide)

/-- **A base with a query swallows the path**: it passes, and what the
    transport asks for is the root with the path in the query. -/
theorem query_swallows_path :
    validateBaseUrl plainCrate "https://issuer.example/?x".toList =
        .ok "https://issuer.example/?x".toList ∧
      parseUrlForH3 plainCrate.parse ("https://issuer.example/?x".toList ++ "/v1/challenge".toList) =
        .ok ("issuer.example".toList, 443, "/?x/v1/challenge".toList) ∧
      ¬ Concatenates plainCrate "https://issuer.example/?x".toList
        "https://issuer.example/?x".toList "/v1/challenge".toList := by
  refine ⟨by decide, by decide, ?_⟩
  intro h
  have hu : plainCrate.parse "https://issuer.example/?x".toList =
      .ok (plainUrl "issuer.example".toList "/".toList (some "x".toList) none) := by decide
  exact not_concatenates_of_query plainCrate_standard hu rfl rfl h

end ProviiSdk.Ffi.BaseUrl
