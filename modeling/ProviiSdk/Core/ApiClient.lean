/-
  ProviiSdk.Core.ApiClient — the bases an API client accepts.

  `ApiClient::new` takes a base URL by what it begins with, and pops the
  slashes at its end.  A prefix says nothing about where the host ends:
  behind `http://localhost` it may go on, or turn out to be a user, and
  behind `https://` there may be none.

  Main results:
    * `popSlashes_eq` — the popping loop trims the end.
    * `new_eq_ok_iff` — which bases are accepted, and what is stored.
    * `client_base_secure_iff` — which accepted bases are secure.
-/

import ProviiSdk.Core.Types
import ProviiSdk.Lib.Check
import ProviiSdk.Lib.UriSyntax
import ProviiSdk.Lib.Utf8

namespace ProviiSdk.Core

open ProviiSdk.Check ProviiSdk.UriSyntax

/-! ## §1. The client -/

/-- A client: its base URL, and the timeout of its requests in seconds. -/
structure ApiClient where
  baseUrl : List Char
  timeout : Nat
  deriving DecidableEq, Repr

/-- `while url.ends_with('/') { url.pop(); }` -/
def popSlashes (url : List Char) : List Char :=
  if url.getLast? = some '/' then popSlashes url.dropLast else url
termination_by url.length
decreasing_by
  have hne : url ≠ [] := by
    rintro rfl
    contradiction
  have hpos := List.length_pos_of_ne_nil hne
  rw [List.length_dropLast]
  omega

def isHttps (url : List Char) : Bool := "https://".toList.isPrefixOf url

def isLocalhost (url : List Char) : Bool :=
  "http://localhost".toList.isPrefixOf url || "http://127.0.0.1".toList.isPrefixOf url

/-- `ApiClient::new`.  The limit is in bytes. -/
def ApiClient.new (baseUrl : List Char) : Except WalletError ApiClient := do
  require (baseUrl ≠ []) (.invalidInput "base URL must not be empty")
  require (Utf8.width baseUrl ≤ 2048) (.invalidInput "base URL exceeds 2048 characters")
  require (isHttps baseUrl = true ∨ isLocalhost baseUrl = true)
    (.invalidInput "base URL must use https:// (or http://localhost for development)")
  return { baseUrl := popSlashes baseUrl, timeout := 30 }

/-- **The popping loop trims the end.** -/
theorem popSlashes_eq (url : List Char) : popSlashes url = trimEnd '/' url := by
  induction url using List.reverseRecOn with
  | nil =>
    rw [popSlashes]
    rfl
  | append_singleton url c ih =>
    rw [popSlashes, List.getLast?_concat, List.dropLast_concat, ih]
    unfold trimEnd
    rw [List.rdropWhile_concat]
    by_cases hc : c = '/'
    · rw [if_pos (congrArg some hc), if_pos (beq_iff_eq.2 hc)]
    · rw [if_neg (fun h => hc (Option.some.inj h)), if_neg (fun h => hc (beq_iff_eq.1 h))]

/-- **Which bases are accepted**, and what is stored. -/
theorem new_eq_ok_iff (baseUrl : List Char) (c : ApiClient) :
    ApiClient.new baseUrl = .ok c ↔
      (baseUrl ≠ [] ∧ Utf8.width baseUrl ≤ 2048 ∧
        (isHttps baseUrl = true ∨ isLocalhost baseUrl = true)) ∧
        c = ⟨trimEnd '/' baseUrl, 30⟩ := by
  unfold ApiClient.new
  simp only [bind_eq_ok_iff, require_eq_ok_iff, popSlashes_eq]
  constructor
  · intro h
    obtain ⟨-, hne, -, hlen, -, hstart, hc⟩ := h
    injection hc with hc
    exact ⟨⟨hne, hlen, hstart⟩, hc.symm⟩
  · intro h
    obtain ⟨⟨hne, hlen, hstart⟩, rfl⟩ := h
    exact ⟨(), hne, (), hlen, (), hstart, rfl⟩

/-! ## §2. Secure bases -/

/-- The hosts that plain HTTP is for. -/
def loopbackNames : List (List Char) := ["localhost".toList, "127.0.0.1".toList]

/-- A base is secure: it has a host over `https`, or a loopback host over
    `http`. -/
def Secure (base : List Char) : Prop :=
  (scheme base = "https".toList ∧ ∃ host, host? base = some host ∧ host ≠ []) ∨
    (scheme base = "http".toList ∧ ∃ name ∈ loopbackNames, host? base = some name)

/-- What is stored for a URL: a secure base with the scheme and the host
    of the URL. -/
structure StoresSecure (url base : List Char) : Prop where
  secure : Secure base
  scheme : scheme base = scheme url
  host : host? base = host? url

/-- The place of the host behind the two slashes: what follows the user. -/
def hostPlace (rest : List Char) : List Char := afterLast '@' (authority rest)

/-- What a URL must say: behind `https://` a host, which is neither
    missing nor only a port, and behind `http://` a loopback name, which
    ends there or before a port. -/
def NamesSecureHost (url : List Char) : Prop :=
  (∃ rest, url = "https://".toList ++ rest ∧ hostPlace rest ≠ [] ∧
      (hostPlace rest).head? ≠ some ':') ∨
    (∃ rest, url = "http://".toList ++ rest ∧
      ∃ name ∈ loopbackNames, hostPlace rest = name ∨ name ++ [':'] <+: hostPlace rest)

/-- The loopback names have no port and no bracket. -/
theorem loopbackNames_plain : ∀ name ∈ loopbackNames,
    name ≠ [] ∧ ':' ∉ name ∧ name.head? ≠ some '[' := by
  decide

/-- The place of a loopback name. -/
theorem hostOf_loopback_iff (rest : List Char) :
    (∃ name ∈ loopbackNames, hostOf (authority rest) = name) ↔
      ∃ name ∈ loopbackNames, hostPlace rest = name ∨ name ++ [':'] <+: hostPlace rest := by
  refine exists_congr fun name => and_congr_right fun hname => ?_
  obtain ⟨-, hcolon, hbracket⟩ := loopbackNames_plain name hname
  exact hostOf_eq_iff hcolon hbracket (authority rest)

/-- A secure base has a host. -/
theorem exists_host_of_secure {base : List Char} (h : Secure base) :
    ∃ host, host? base = some host ∧ host ≠ [] := by
  rcases h with ⟨-, hhost⟩ | ⟨-, name, hname, hhost⟩
  · exact hhost
  · exact ⟨name, hhost, (loopbackNames_plain name hname).1⟩

/-- Without an authority no secure base is stored. -/
theorem not_secure_of_empty {s : List Char} (hs : ':' ∉ s) {rest : List Char}
    (hauth : authority rest = []) : ¬ Secure (trimEnd '/' (s ++ ':' :: '/' :: '/' :: rest)) := by
  intro h
  obtain ⟨host, hhost, hne⟩ := exists_host_of_secure h
  rcases host?_trimEnd_of_empty hs hauth with hnone | hnil
  · cases hhost.symm.trans hnone
  · exact hne (Option.some.inj (hhost.symm.trans hnil))

/-- **What is stored for a URL with two slashes** is secure by the host in
    its authority. -/
theorem storesSecure_iff {s : List Char} (hs : ':' ∉ s) (rest : List Char) :
    StoresSecure (s ++ ':' :: '/' :: '/' :: rest) (trimEnd '/' (s ++ ':' :: '/' :: '/' :: rest)) ↔
      (s = "https".toList ∧ hostOf (authority rest) ≠ []) ∨
        (s = "http".toList ∧ ∃ name ∈ loopbackNames, hostOf (authority rest) = name) := by
  by_cases hauth : authority rest = []
  · -- no authority: no host is left, and none was there
    refine iff_of_false (fun h => not_secure_of_empty hs hauth h.secure) ?_
    have hplace : hostOf (authority rest) = [] := by
      rw [hauth]
      rfl
    rw [hplace]
    intro h
    rcases h with ⟨-, hne⟩ | ⟨-, name, hname, hnil⟩
    · exact hne rfl
    · exact (loopbackNames_plain name hname).1 hnil.symm
  · obtain ⟨hkept, hkeptScheme⟩ := host?_trimEnd hs hauth
    have hsecure : Secure (trimEnd '/' (s ++ ':' :: '/' :: '/' :: rest)) ↔
        (s = "https".toList ∧ hostOf (authority rest) ≠ []) ∨
          (s = "http".toList ∧ ∃ name ∈ loopbackNames, hostOf (authority rest) = name) := by
      unfold Secure
      rw [hkeptScheme, hkept]
      simp only [Option.some_inj, exists_eq_left']
    rw [← hsecure]
    constructor
    · intro h
      exact h.secure
    · intro h
      exact ⟨h, hkeptScheme.trans (scheme_join hs _).symm, hkept.trans (host?_join hs rest).symm⟩

/-- What a URL with two slashes must say. -/
theorem namesSecureHost_iff {s : List Char} (hs : ':' ∉ s) (rest : List Char) :
    NamesSecureHost (s ++ ':' :: '/' :: '/' :: rest) ↔
      (s = "https".toList ∧ hostOf (authority rest) ≠ []) ∨
        (s = "http".toList ∧ ∃ name ∈ loopbackNames, hostOf (authority rest) = name) := by
  -- a URL with a scheme in front has that scheme and that rest
  have hcut : ∀ (t rest' : List Char), ':' ∉ t →
      s ++ ':' :: '/' :: '/' :: rest = t ++ ':' :: '/' :: '/' :: rest' → s = t ∧ rest = rest' := by
    intro t rest' ht heq
    have hscheme := congrArg scheme heq
    rw [scheme_join hs, scheme_join ht] at hscheme
    subst hscheme
    have hrest := List.append_cancel_left heq
    simp only [List.cons.injEq, true_and] at hrest
    exact ⟨rfl, hrest⟩
  have hhttps : ∀ rest', "https://".toList ++ rest' = "https".toList ++ ':' :: '/' :: '/' :: rest' :=
    fun _ => rfl
  have hhttp : ∀ rest', "http://".toList ++ rest' = "http".toList ++ ':' :: '/' :: '/' :: rest' :=
    fun _ => rfl
  rw [hostOf_loopback_iff, hostOf_ne_nil_iff]
  unfold NamesSecureHost
  constructor
  · intro h
    rcases h with ⟨rest', heq, hplace⟩ | ⟨rest', heq, hplace⟩
    · obtain ⟨rfl, rfl⟩ := hcut _ rest' (by decide) (heq.trans (hhttps rest'))
      exact Or.inl ⟨rfl, hplace⟩
    · obtain ⟨rfl, rfl⟩ := hcut _ rest' (by decide) (heq.trans (hhttp rest'))
      exact Or.inr ⟨rfl, hplace⟩
  · intro h
    rcases h with ⟨rfl, hplace⟩ | ⟨rfl, hplace⟩
    · exact Or.inl ⟨rest, (hhttps rest).symm, hplace⟩
    · exact Or.inr ⟨rest, (hhttp rest).symm, hplace⟩

/-- An accepted URL has a scheme and two slashes. -/
theorem exists_rest_of_accepted {url : List Char} (h : isHttps url = true ∨ isLocalhost url = true) :
    ∃ s rest, ':' ∉ s ∧ url = s ++ ':' :: '/' :: '/' :: rest := by
  unfold isHttps isLocalhost at h
  simp only [Bool.or_eq_true, List.isPrefixOf_iff_prefix] at h
  rcases h with ⟨rest, rfl⟩ | ⟨rest, rfl⟩ | ⟨rest, rfl⟩
  · exact ⟨"https".toList, rest, by decide, rfl⟩
  · exact ⟨"http".toList, "localhost".toList ++ rest, by decide, rfl⟩
  · exact ⟨"http".toList, "127.0.0.1".toList ++ rest, by decide, rfl⟩

/-- **Which accepted bases are secure**: the stored base has a host over
    `https` or a loopback host over `http`, with the scheme and the host
    of the URL given, exactly when the URL names such a host. -/
theorem client_base_secure_iff (url : List Char) (c : ApiClient) (h : ApiClient.new url = .ok c) :
    StoresSecure url c.baseUrl ↔ NamesSecureHost url := by
  obtain ⟨⟨-, -, hstart⟩, rfl⟩ := (new_eq_ok_iff url c).1 h
  obtain ⟨s, rest, hs, rfl⟩ := exists_rest_of_accepted hstart
  exact (storesSecure_iff hs rest).trans (namesSecureHost_iff hs rest).symm

/-- The equivalence for a base with a slash at the end. -/
theorem client_base_secure_sample :
    StoresSecure "https://verifier.example/".toList "https://verifier.example".toList ↔
      NamesSecureHost "https://verifier.example/".toList :=
  client_base_secure_iff "https://verifier.example/".toList
    ⟨"https://verifier.example".toList, 30⟩
    ((new_eq_ok_iff _ _).2 ⟨⟨by decide, by decide, by decide⟩, by decide⟩)

/-- **A host that only begins as the loopback one** is accepted over plain
    HTTP, and so is a URL without a host over `https`. -/
theorem lookalike_host_accepted :
    (ApiClient.new "http://localhost.evil.example".toList =
        .ok ⟨"http://localhost.evil.example".toList, 30⟩ ∧
      ¬ StoresSecure "http://localhost.evil.example".toList
        "http://localhost.evil.example".toList) ∧
    ApiClient.new "https://".toList = .ok ⟨"https:".toList, 30⟩ ∧
      ¬ StoresSecure "https://".toList "https:".toList := by
  refine ⟨⟨(new_eq_ok_iff _ _).2 ⟨⟨by decide, by decide, by decide⟩, by decide⟩, ?_⟩,
    (new_eq_ok_iff _ _).2 ⟨⟨by decide, by decide, by decide⟩, by decide⟩, ?_⟩
  · intro h
    rcases h.secure with ⟨hscheme, -⟩ | ⟨-, hname⟩
    · exact absurd hscheme (by decide)
    · exact absurd hname (by decide)
  · intro h
    rcases h.secure with ⟨-, host, hhost, -⟩ | ⟨hscheme, -⟩
    · exact absurd hhost nofun
    · exact absurd hscheme (by decide)

end ProviiSdk.Core
