/-
  ProviiSdk.Wallet.ChallengePath — the challenge id in the request path.

  A challenge id comes from a scanned code or from the app, and goes into
  the path of a request as it is, once it has the form of a UUID.

  Main results:
    * `minimal_asksFor_iff`, `details_asksFor_iff` — which URLs the two
      lookups of a challenge ask for.
    * `challenge_id_guarded` — the path of these URLs.
-/

import ProviiSdk.Wallet.VerifierBase

namespace ProviiSdk.Wallet

open ProviiSdk.Core ProviiSdk.Ffi ProviiSdk.Check ProviiSdk.Text

/-! ## §1. Requests -/

/-- Two clients that answer alike everywhere but at one URL. -/
structure AgreeOff (url : String) (a b : HttpClient) : Prop where
  tokioRt : a.tokioRt = b.tokioRt
  get : ∀ asked seconds key origin, asked ≠ url →
    a.getWithHeaders asked seconds key origin = b.getWithHeaders asked seconds key origin
  post : ∀ asked body, asked ≠ url → a.postJson asked body = b.postJson asked body

/-- **A run asks for a URL** if it makes a difference what is answered
    there. -/
def AsksFor {α : Type} (run : HttpClient → Except FfiError α) (url : String) : Prop :=
  ∃ a b, AgreeOff url a b ∧ run a ≠ run b

/-- A run that answers without the client asks for nothing. -/
theorem not_asksFor_of_const {α : Type} {run : HttpClient → Except FfiError α}
    (h : ∀ a b, run a = run b) (url : String) : ¬ AsksFor run url := by
  intro hasks
  obtain ⟨a, b, -, hne⟩ := hasks
  exact hne (h a b)

theorem echo_agreeOff (url : String) : AgreeOff url .echo (.onlyAt url) where
  tokioRt := rfl
  get _ _ _ _ h := (if_neg h).symm
  post _ _ _ := rfl

/-- **The lookup by an id** asks for one URL, if the id is a UUID. -/
theorem details_asksFor_iff (config : VerifierConfig) (challengeId url : String) :
    AsksFor (fun client => fetchChallengeDetails client config challengeId) url ↔
      UuidForm challengeId ∧ url = trimEndSlashes config.verifierApiUrl ++ "/v1/challenge/" ++
        challengeId ++ "/details" := by
  rw [← validateChallengeIdFormat_ok_iff]
  unfold fetchChallengeDetails
  cases hcheck : validateChallengeIdFormat challengeId with
  | error e =>
    refine iff_of_false (not_asksFor_of_const (fun _ _ => rfl) url) ?_
    rintro ⟨h, -⟩
    cases h
  | ok u =>
    unfold AsksFor
    simp only [ok_bind, true_and]
    constructor
    · rintro ⟨a, b, hagree, hne⟩
      by_contra hurl
      refine hne ?_
      rw [hagree.tokioRt, hagree.get _ _ _ _ (Ne.symm hurl)]
    · rintro rfl
      refine ⟨_, _, echo_agreeOff _, ?_⟩
      unfold HttpClient.echo HttpClient.onlyAt
      simp only [ok_bind, if_true]
      intro h
      cases h

/-- What the reader of a challenge complains about is no network. -/
theorem readChallenge_ne_network (X : DocumentCrates) (context json url : String) :
    readChallenge X context json ≠ .error (.network url) := by
  unfold readChallenge
  intro h
  cases hread : X.fromStr "QrChallengePayload" QrChallengePayload.ofDocument json with
  | error e =>
    rw [hread] at h
    cases h
  | ok challenge =>
    rw [hread, mapError_ok, ok_bind] at h
    cases hvalid : challenge.validateFieldLengths X with
    | error e =>
      rw [hvalid] at h
      cases h
    | ok u =>
      rw [hvalid] at h
      cases h

/-- **The lookup of a minimal code** asks for one URL, if the id that the
    code names is a UUID. -/
theorem minimal_asksFor_iff (X : DocumentCrates) (config : WalletConfig) (qrContent url : String) :
    AsksFor (fun client => parseQrPayloadInternal X client.network config qrContent) url ↔
      FailsWith CarriesSentinel (parseQrCode X qrContent) ∧
        ∃ id, extractChallengeIdFromQr X qrContent = .ok id ∧ UuidForm id ∧
          url = detailsUrl config id := by
  unfold parseQrPayloadInternal
  cases hcode : parseQrCode X qrContent with
  | ok parsed =>
    refine iff_of_false (not_asksFor_of_const (fun _ _ => rfl) url) ?_
    rintro ⟨⟨e, he, -⟩, -⟩
    cases he
  | error e =>
    rw [failsWith_error]
    unfold CarriesSentinel
    by_cases hsentinel : contains "MINIMAL_CHALLENGE" e.display = true
    · simp only [if_pos hsentinel]
      rw [and_iff_right hsentinel]
      unfold fetchMinimalChallenge
      cases hid : extractChallengeIdFromQr X qrContent with
      | error e =>
        refine iff_of_false (not_asksFor_of_const (fun _ _ => rfl) url) ?_
        rintro ⟨id, h, -⟩
        cases h
      | ok id =>
        simp only [ok_bind, Except.ok.injEq, exists_eq_left', ← validateChallengeIdFormat_ok_iff]
        cases hcheck : validateChallengeIdFormat id with
        | error e =>
          refine iff_of_false (not_asksFor_of_const (fun _ _ => rfl) url) ?_
          rintro ⟨h, -⟩
          cases h
        | ok u =>
          unfold AsksFor
          simp only [ok_bind, true_and]
          constructor
          · rintro ⟨a, b, hagree, hne⟩
            by_contra hurl
            refine hne ?_
            unfold Network.fetch HttpClient.network
            simp only
            rw [hagree.tokioRt]
            unfold detailsUrl at hurl
            rw [hagree.get _ _ _ _ (Ne.symm hurl)]
          · rintro rfl
            refine ⟨_, _, echo_agreeOff _, ?_⟩
            unfold HttpClient.echo HttpClient.onlyAt HttpClient.network Network.fetch detailsUrl
            simp only [ok_bind, if_true, error_bind]
            exact (readChallenge_ne_network X _ _ _).symm
    · simp only [if_neg hsentinel]
      exact iff_of_false (not_asksFor_of_const (fun _ _ => rfl) url) fun h => hsentinel h.1

/-! ## §2. The path of a request -/

/-- What would end a segment of a path or be decoded in it, and the dots
    of a relative one. -/
def pathMarks : List Char := ['/', '?', '#', '%', '.']

/-- **A path with an id in it**: the id has the form of a UUID and no
    character with a meaning in URLs, and the path behind the base has
    four segments. -/
structure GuardedPath (base id url : String) : Prop where
  form : UuidForm id
  plain : ∀ c ∈ id.toList, c ∉ pathMarks ∧ isWhitespace c = false
  path : ∃ path : List Char, url = base ++ String.ofList path ∧
    path.splitOn '/' = [[], "v1".toList, "challenge".toList, id.toList, "details".toList]

/-- Hex digits and hyphens have no meaning in URLs. -/
theorem plain_of_uuidForm {id : String} (h : UuidForm id) :
    ∀ c ∈ id.toList, c ∉ pathMarks ∧ isWhitespace c = false := by
  have hall : ∀ n : Fin 128, isHexChar (Char.ofNat n) = true ∨ Char.ofNat n = '-' →
      Char.ofNat n ∉ pathMarks ∧ isWhitespace (Char.ofNat n) = false := by
    decide +kernel
  intro c hc
  have hchar := hall ⟨c.toNat, h.ascii c hc⟩
  simp only [Char.ofNat_toNat] at hchar
  exact hchar (h.hexOrHyphen hc)

theorem guardedPath_of_form {base id url : String} (h : UuidForm id)
    (hurl : url = base ++ "/v1/challenge/" ++ id ++ "/details") : GuardedPath base id url := by
  refine ⟨h, plain_of_uuidForm h, "/v1/challenge/".toList ++ (id.toList ++ "/details".toList), ?_, ?_⟩
  · rw [hurl, String.ofList_append, String.ofList_append, String.ofList_toList,
      String.ofList_toList, String.ofList_toList, ← String.append_assoc, ← String.append_assoc]
  · have hpath : "/v1/challenge/".toList ++ (id.toList ++ "/details".toList) =
        ['/'].intercalate [[], "v1".toList, "challenge".toList, id.toList, "details".toList] := by
      simp only [List.intercalate_cons_cons, List.intercalate_singleton]
      rw [List.append_assoc id.toList]
      rfl
    rw [hpath, List.splitOn_intercalate _ _ (List.cons_ne_nil _ _)]
    intro l hl
    simp only [List.mem_cons, List.not_mem_nil, or_false] at hl
    rcases hl with rfl | rfl | rfl | rfl | rfl
    · exact List.not_mem_nil
    · decide
    · decide
    · exact fun hslash => (plain_of_uuidForm h '/' hslash).1 (by decide)
    · decide

/-- **The challenge id is guarded.**  The check lets pass exactly the
    texts of the form; so whatever is scanned and configured, a URL that
    one of the two lookups asks for has the id as one segment of its
    path, between three fixed ones. -/
theorem challenge_id_guarded (X : DocumentCrates) (config : VerifierConfig)
    (qrContent challengeId : String) :
    (∀ s, validateUuidFormat s = .ok () ↔ UuidForm s) ∧
    (∀ url, AsksFor (fun client =>
        parseQrPayloadInternal X client.network config.toWalletConfig qrContent) url →
      ∃ id, extractChallengeIdFromQr X qrContent = .ok id ∧
        GuardedPath config.verifierApiUrl id url) ∧
    ∀ url, AsksFor (fun client => fetchChallengeDetails client config challengeId) url →
      GuardedPath (trimEndSlashes config.verifierApiUrl) challengeId url := by
  refine ⟨validateUuidFormat_ok_iff, fun url hasks => ?_, fun url hasks => ?_⟩
  · obtain ⟨-, id, hid, hform, hurl⟩ := (minimal_asksFor_iff X _ qrContent url).1 hasks
    exact ⟨id, hid, guardedPath_of_form hform hurl⟩
  · obtain ⟨hform, hurl⟩ := (details_asksFor_iff config challengeId url).1 hasks
    exact guardedPath_of_form hform hurl

end ProviiSdk.Wallet
