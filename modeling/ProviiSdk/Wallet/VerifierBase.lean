/-
  ProviiSdk.Wallet.VerifierBase — the verifier's base URL and its uses.

  Four methods put a path behind the configured verifier URL.  One takes
  off the slashes at its end first, as does the method that sets it; the
  check of a whole configuration lets them pass.

  Which URL a method asks for is read off clients that tell: one that
  refuses every request by naming its URL, and one that answers at a
  single URL.

  Main results:
    * `not_slash_trimEndSlashes` — a trimmed URL ends in no slash.
    * `oneUrl_of_bare`, `bare_of_oneUrl` — a base without a slash at its
      end is used alike, and no other.
    * `one_url_iff` — when the four methods agree.
-/

import ProviiSdk.Wallet.ScannedChallenge

namespace ProviiSdk.Wallet

open ProviiSdk.Core ProviiSdk.Ffi ProviiSdk.Check ProviiSdk.Text

variable {Params : Type}

/-! ## §1. Configurations -/

/-- The settings behind the URLs and the headers of a request. -/
structure VerifierConfig extends WalletConfig where
  issuerApiUrl : String
  verifierApiKey : Option String
  verifierOrigin : Option String

def validateHttpsUrl (url fieldName : String) : Except String Unit := do
  require (trim url ≠ []) (fieldName ++ " must not be empty")
  require ("https://".toList <+: url.toList) (fieldName ++ " must use https:// scheme")

/-- The check of a configuration that is to replace the one in use. -/
def VerifierConfig.validate (config : VerifierConfig) : Except String Unit := do
  validateHttpsUrl config.issuerApiUrl "issuer_api_url"
  validateHttpsUrl config.verifierApiUrl "verifier_api_url"
  require (trim config.environment ≠ []) "environment must not be empty"

/-- Replace the configuration. -/
def updateConfig (new old : VerifierConfig) : Except FfiError Unit × VerifierConfig :=
  match new.validate with
  | .error e => (.error (.invalidFormat e), old)
  | .ok () => (.ok (), new)

/-- Set the verifier URL alone. -/
def setVerifierBaseUrl (parseUrl : String → Except String Url) (baseUrl : String)
    (config : VerifierConfig) : Except FfiError Unit × VerifierConfig :=
  match parseUrl baseUrl with
  | .error e => (.error (.invalidFormat ("Invalid URL: " ++ e)), config)
  | .ok url =>
    if url.scheme ≠ "https".toList then
      (.error (.invalidFormat "Verifier URL must use HTTPS"), config)
    else (.ok (), { config with verifierApiUrl := trimEndSlashes (String.ofList url.asStr) })

/-! ## §2. Requests -/

/-- The HTTP client during one call: the async runtime, and the answers
    to a GET with its headers and to a POST. -/
structure HttpClient where
  tokioRt : Except FfiError Unit
  getWithHeaders : String → UInt64 → Option String → Option String → Except FfiError String
  postJson : String → String → Except FfiError String

/-- The requests without headers of their own. -/
def HttpClient.network (client : HttpClient) : Network where
  tokioRt := client.tokioRt
  getWithTimeout url seconds := client.getWithHeaders url seconds none none
  postJson := client.postJson

/-- Fetch the details of a challenge. -/
def fetchChallengeDetails (client : HttpClient) (config : VerifierConfig) (challengeId : String) :
    Except FfiError String := do
  validateChallengeIdFormat challengeId
  client.tokioRt
  client.getWithHeaders
    (trimEndSlashes config.verifierApiUrl ++ "/v1/challenge/" ++ challengeId ++ "/details") 10
    config.verifierApiKey config.verifierOrigin

/-- Is the verifier reached?  A failure of any kind says no. -/
def checkNetworkStatus (client : HttpClient) (config : VerifierConfig) : Bool :=
  match client.tokioRt with
  | .error _ => false
  | .ok () =>
    match client.network.getWithTimeout (config.verifierApiUrl ++ "/health") 5 with
    | .error _ => false
    | .ok _ => true

/-- A client that refuses every request by naming its URL. -/
def HttpClient.echo : HttpClient where
  tokioRt := .ok ()
  getWithHeaders url _ _ _ := .error (.network url)
  postJson url _ := .error (.network url)

/-- A client that answers at one URL only. -/
def HttpClient.onlyAt (url : String) : HttpClient where
  tokioRt := .ok ()
  getWithHeaders asked _ _ _ := if asked = url then .ok "" else .error (.network asked)
  postJson asked _ := .error (.network asked)

/-! ## §3. The property -/

/-- A text ends in a slash. -/
def EndsWithSlash (text : String) : Prop := ['/'] <:+ text.toList

/-- **The base of every request**: it has no slash at its end, and the
    four methods ask for their paths right behind it; the first one is
    handed a code, the second the id in it. -/
structure UsesBase (X : WalletCrates Params) (config : VerifierConfig) (qrContent id : String)
    (base : String) : Prop where
  bare : ¬ EndsWithSlash base
  minimal : parseQrPayloadInternal X.toDocumentCrates HttpClient.echo.network config.toWalletConfig
    qrContent = .error (.network (base ++ "/v1/challenge/" ++ id ++ "/details"))
  details : fetchChallengeDetails .echo config id =
    .error (.network (base ++ "/v1/challenge/" ++ id ++ "/details"))
  submit : ∀ proofJson proof, X.parseSubmitRequest proofJson = .ok proof →
    submission X HttpClient.echo.network config.toWalletConfig proofJson =
      .error (.network (base ++ "/v1/verify"))
  health : ∀ url, checkNetworkStatus (.onlyAt url) config = decide (base ++ "/health" = url)

/-- The four methods agree on a base. -/
def OneUrl (X : WalletCrates Params) (config : VerifierConfig) (qrContent id : String) : Prop :=
  ∃ base, UsesBase X config qrContent id base

/-! ## §4. Slashes -/

/-- **A trimmed URL ends in no slash.** -/
theorem not_slash_trimEndSlashes (url : String) : ¬ EndsWithSlash (trimEndSlashes url) := by
  unfold EndsWithSlash trimEndSlashes
  rw [String.toList_ofList, ← List.reverse_prefix, List.reverse_reverse, List.reverse_singleton]
  rintro ⟨rest, hrest⟩
  have hhead := List.head?_dropWhile_not (fun c => c == '/') url.toList.reverse
  rw [← hrest] at hhead
  have hslash : ('/' == '/') = false := hhead
  exact absurd hslash (by decide)

/-- A URL without a slash at its end is not trimmed. -/
theorem trimEndSlashes_of_bare {url : String} (h : ¬ EndsWithSlash url) :
    trimEndSlashes url = url := by
  unfold trimEndSlashes
  have hkeep : (url.toList.reverse.dropWhile fun c => c == '/') = url.toList.reverse := by
    cases hrev : url.toList.reverse with
    | nil => rfl
    | cons c cs =>
      have hc : c ≠ '/' := by
        rintro rfl
        refine h ⟨cs.reverse, ?_⟩
        rw [← List.reverse_reverse url.toList, hrev, List.reverse_cons]
      rw [List.dropWhile_cons_of_neg (by simpa using hc)]
  rw [hkeep, List.reverse_reverse, String.ofList_toList]

/-- A minimal code is looked up behind the URL as it is configured. -/
theorem echo_minimal {X : DocumentCrates} {qrContent id : String} (hscan : MinimalScan X qrContent id)
    (huuid : UuidForm id) (config : WalletConfig) :
    parseQrPayloadInternal X HttpClient.echo.network config qrContent =
      .error (.network (detailsUrl config id)) := by
  rw [parseQrPayloadInternal_of_minimal _ _ hscan.minimal]
  unfold fetchMinimalChallenge
  rw [hscan.named, ok_bind, (validateChallengeIdFormat_ok_iff id).2 huuid]
  rfl

/-! ## §5. When the methods agree -/

/-- **A base without a slash at its end** is used alike by all four. -/
theorem oneUrl_of_bare {X : WalletCrates Params} {config : VerifierConfig} {qrContent id : String}
    (hscan : MinimalScan X.toDocumentCrates qrContent id) (huuid : UuidForm id)
    (h : ¬ EndsWithSlash config.verifierApiUrl) : OneUrl X config qrContent id := by
  refine ⟨config.verifierApiUrl, h, echo_minimal hscan huuid _, ?_, fun proofJson proof hproof => ?_,
    fun url => ?_⟩
  · unfold fetchChallengeDetails
    rw [(validateChallengeIdFormat_ok_iff id).2 huuid, trimEndSlashes_of_bare h]
    rfl
  · unfold submission
    rw [hproof]
    rfl
  · unfold checkNetworkStatus HttpClient.network HttpClient.onlyAt
    by_cases hurl : config.verifierApiUrl ++ "/health" = url
    · simp only [if_pos hurl, decide_eq_true hurl]
    · simp only [if_neg hurl, decide_eq_false hurl]

/-- **And no other base is**: the lookup of a minimal code trims
    nothing. -/
theorem bare_of_oneUrl {X : WalletCrates Params} {config : VerifierConfig} {qrContent id : String}
    (hscan : MinimalScan X.toDocumentCrates qrContent id) (huuid : UuidForm id)
    (h : OneUrl X config qrContent id) : ¬ EndsWithSlash config.verifierApiUrl := by
  obtain ⟨base, hbase⟩ := h
  have hasked := echo_minimal hscan huuid config.toWalletConfig
  rw [hbase.minimal] at hasked
  injection hasked with hasked
  injection hasked with hasked
  unfold detailsUrl at hasked
  rw [String.append_left_inj, String.append_left_inj, String.append_left_inj] at hasked
  rw [← hasked]
  exact hbase.bare

/-- **One verifier base, one URL**: for a minimal code and its UUID, the
    four methods agree exactly if the configured URL ends in no slash; so
    they always do once `setVerifierBaseUrl` has set it. -/
theorem one_url_iff (X : WalletCrates Params) (config : VerifierConfig) (qrContent id : String)
    (hscan : MinimalScan X.toDocumentCrates qrContent id) (huuid : UuidForm id) :
    (OneUrl X config qrContent id ↔ ¬ EndsWithSlash config.verifierApiUrl) ∧
      ∀ parseUrl baseUrl old, setVerifierBaseUrl parseUrl baseUrl old = (.ok (), config) →
        OneUrl X config qrContent id := by
  refine ⟨⟨bare_of_oneUrl hscan huuid, oneUrl_of_bare hscan huuid⟩, ?_⟩
  intro parseUrl baseUrl old hset
  refine oneUrl_of_bare hscan huuid ?_
  unfold setVerifierBaseUrl at hset
  split at hset
  next => cases hset
  next url _ =>
    split at hset
    next => cases hset
    next =>
      injection hset with _ hconfig
      rw [← hconfig]
      exact not_slash_trimEndSlashes (String.ofList url.asStr)

/-- A verifier URL, configured with and without a slash at its end. -/
def verifierAt (url : String) : VerifierConfig :=
  { verifierApiUrl := url, environment := "production",
    issuerApiUrl := "https://api.issuer.example", verifierApiKey := none, verifierOrigin := none }

/-- Crates that know a minimal code. -/
def minimalCrates : WalletCrates Unit := sampleWallet [.obj [("challenge_id", .str scannedId)]] []

theorem one_url_of_default :
    (OneUrl minimalCrates (verifierAt "https://verify.proviiwallet.app") minimalCode scannedId ↔
        ¬ EndsWithSlash (verifierAt "https://verify.proviiwallet.app").verifierApiUrl) ∧
      ∀ parseUrl baseUrl old, setVerifierBaseUrl parseUrl baseUrl old =
          (.ok (), verifierAt "https://verify.proviiwallet.app") →
        OneUrl minimalCrates (verifierAt "https://verify.proviiwallet.app") minimalCode scannedId :=
  one_url_iff minimalCrates (verifierAt "https://verify.proviiwallet.app") minimalCode scannedId
    ⟨by decide +kernel, by decide +kernel⟩ ((validateChallengeIdFormat_ok_iff scannedId).1 (by decide +kernel))

/-- **One slash at the end makes two URLs** of a verifier URL that the
    check lets pass. -/
theorem slash_makes_two_urls :
    updateConfig (verifierAt "https://verify.proviiwallet.app/")
        (verifierAt "https://verify.proviiwallet.app") =
      (.ok (), verifierAt "https://verify.proviiwallet.app/") ∧
    parseQrPayloadInternal minimalCrates.toDocumentCrates HttpClient.echo.network
        (verifierAt "https://verify.proviiwallet.app/").toWalletConfig minimalCode =
      .error (.network ("https://verify.proviiwallet.app//v1/challenge/" ++ scannedId ++
        "/details")) ∧
    fetchChallengeDetails .echo (verifierAt "https://verify.proviiwallet.app/") scannedId =
      .error (.network ("https://verify.proviiwallet.app/v1/challenge/" ++ scannedId ++
        "/details")) ∧
    ¬ OneUrl minimalCrates (verifierAt "https://verify.proviiwallet.app/") minimalCode
      scannedId := by
  have hscan : MinimalScan minimalCrates.toDocumentCrates minimalCode scannedId :=
    ⟨by decide +kernel, by decide +kernel⟩
  have huuid : UuidForm scannedId := (validateChallengeIdFormat_ok_iff scannedId).1 (by decide +kernel)
  have hvalid : (verifierAt "https://verify.proviiwallet.app/").validate = .ok () := by
    decide +kernel
  refine ⟨?_, by decide +kernel, by decide +kernel, fun hone => ?_⟩
  · unfold updateConfig
    rw [hvalid]
  · exact bare_of_oneUrl hscan huuid hone ⟨"https://verify.proviiwallet.app".toList, by decide +kernel⟩

end ProviiSdk.Wallet
