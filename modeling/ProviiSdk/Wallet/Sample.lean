/-
  ProviiSdk.Wallet.Sample — a small instance of a session's surroundings.

  Concrete data on which statements about sessions are evaluated: crates
  that know a few documents and URLs, a challenge that stays open until
  2033, the call that brings it in, and a store with one credential that
  can prove it.
-/

import ProviiSdk.Core.Provable
import ProviiSdk.Wallet.Credentials
import ProviiSdk.Wallet.SessionRun

namespace ProviiSdk.Wallet

open ProviiSdk.Core ProviiSdk.Platform ProviiSdk.Ffi ProviiSdk.Text

/-! ## §1. Texts -/

def quoted (text : String) : String := "\"" ++ text ++ "\""

/-- The text of a value that is no array or object; its characters need
    no escapes. -/
def leafText : Json → String
  | .null => "null"
  | .bool b => if b then "true" else "false"
  | .num text => text
  | .str text => quoted text
  | _ => ""

/-- The compact text of a document that is not nested. -/
def flatText : Json → String
  | .obj fields =>
    "\x7b" ++ ",".intercalate (fields.map fun f => quoted f.1 ++ ":" ++ leafText f.2) ++ "\x7d"
  | v => leafText v

/-- The text of an object with one member more at its end. -/
theorem flatText_concat (fields : List (String × Json)) (key : String) (value : Json)
    (h : fields ≠ []) :
    ∃ members, flatText (.obj fields) = "\x7b" ++ members ++ "\x7d" ∧
      flatText (.obj (fields ++ [(key, value)])) =
        "\x7b" ++ members ++ ("," ++ (quoted key ++ ":" ++ leafText value)) ++ "\x7d" := by
  have hmembers : fields.map (fun f => quoted f.1 ++ ":" ++ leafText f.2) ≠ [] := by
    rw [ne_eq, List.map_eq_nil_iff]
    exact h
  refine ⟨",".intercalate (fields.map fun f => quoted f.1 ++ ":" ++ leafText f.2), ?_, ?_⟩
  · simp only [flatText]
  · simp only [flatText, List.map_append, List.map_cons, List.map_nil]
    rw [String.intercalate_append_of_ne_nil hmembers (List.cons_ne_nil _ _),
      String.intercalate_singleton]
    simp only [String.append_assoc]

/-- The text of an object starts with a brace. -/
theorem head?_trim_flatText (fields : List (String × Json)) :
    (trim (flatText (.obj fields))).head? = some '\x7b' := by
  have hstart : (flatText (.obj fields)).toList = '\x7b' ::
      (",".intercalate (fields.map fun f => quoted f.1 ++ ":" ++ leafText f.2) ++ "\x7d").toList := by
    show ("\x7b" ++ ",".intercalate (fields.map fun f => quoted f.1 ++ ":" ++ leafText f.2) ++
      "\x7d").toList = _
    rw [String.append_assoc, String.toList_append]
    rfl
  exact head?_trim hstart (by decide)

/-- The compact text of a proof submission without a code verifier. -/
def submissionText (r : SubmitProofRequest) : String :=
  "\x7b\"challenge_id\":" ++ quoted r.challengeId ++ ",\"submit_secret\":" ++
  quoted r.submitSecret ++ ",\"proof\":\x7b\"verifying_key_id\":" ++
  String.ofList (decimal r.proof.verifyingKeyId.toNat) ++ ",\"public\":\x7b\"cutoff_days\":" ++
  intText r.proof.publicInputs.cutoffDays.toInt ++ ",\"rp_challenge\":" ++
  quoted r.proof.publicInputs.rpChallenge ++ ",\"issuer\":\x7b\"value\":" ++
  quoted r.proof.publicInputs.issuer.value ++ "\x7d,\"cred_nullifier\":" ++
  quoted r.proof.publicInputs.credNullifier ++ "\x7d,\"proof\":" ++ quoted r.proof.proof ++
  "\x7d\x7d"

/-! ## §2. Crates -/

/-- A parsed `https` URL without query and fragment. -/
def sampleUrl (host path : String) : Url where
  scheme := "https".toList
  userinfo := []
  host := some host.toList
  port := none
  path := path.toList
  query := none
  fragment := none
  queryPairs := []

def sampleVerifyUrl : Url := sampleUrl "verify.provii.app" "/v1/verify"

/-- Crates that know some documents by their compact texts, and some
    URLs. -/
def sampleWallet (docs : List Json) (urls : List (String × Url)) : WalletCrates Unit :=
  { sampleProver with
    parseDocument := fun text =>
      match docs.find? fun doc => flatText doc == text with
      | some doc => .ok doc
      | none => .error "expected value"
    writeDocument := fun doc => .ok (flatText doc)
    valueText := flatText
    shapeError := fun _ _ => "missing field"
    utf8Error := fun _ => "invalid utf-8 sequence"
    parseUrl := fun text =>
      match urls.find? fun u => u.1 == text with
      | some u => .ok u.2
      | none => .error "relative URL without a base"
    submitRequestJson := fun r => .ok (submissionText r)
    parseSubmitRequest := fun _ => .error "expected value"
    parseVerifyResponse := fun _ => .error "expected value"
    proverErrorDebug := fun _ => "ProverError" }

/-- The first document they know is read from its text. -/
theorem sampleWallet_parseDocument (doc : Json) (docs : List Json) (urls : List (String × Url)) :
    (sampleWallet (doc :: docs) urls).toDocumentCrates.parseDocument (flatText doc) = .ok doc := by
  unfold sampleWallet
  simp only [List.find?_cons, beq_self_eq_true]

/-- And they look further for another document. -/
theorem sampleWallet_parseDocument_of_ne (other doc : Json) (docs : List Json)
    (urls : List (String × Url)) (h : flatText other ≠ flatText doc) :
    (sampleWallet (other :: docs) urls).toDocumentCrates.parseDocument (flatText doc) =
      (sampleWallet docs urls).toDocumentCrates.parseDocument (flatText doc) := by
  have hother : (flatText other == flatText doc) = false := beq_false_of_ne h
  unfold sampleWallet
  simp only [List.find?_cons, hother]

/-! ## §3. A challenge and a credential -/

/-- The sample challenge, open until 2033. -/
def openChallenge : QrChallengePayload := { sampleChallenge with expiresAt := 2000000000 }

def openChallengeJson : String := flatText openChallenge.toDocument

/-- Crates that know the challenge and its URL. -/
def sampleCratesOf : WalletCrates Unit :=
  sampleWallet [openChallenge.toDocument] [(openChallenge.verifyUrl, sampleVerifyUrl)]

/-- A challenge with the shortest texts, and crates that know it. -/
def briefChallenge : QrChallengePayload :=
  { challengeId := "c", rpChallenge := "r", cutoffDays := 1, verifyingKeyId := 1,
    submitSecret := "s", expiresAt := 9, verifyUrl := "https://v.co", codeVerifier := none,
    proofDirection := none }

def briefVerifyUrl : Url := sampleUrl "v.co" "/"

def briefCrates : WalletCrates Unit :=
  sampleWallet [briefChallenge.toDocument] [(briefChallenge.verifyUrl, briefVerifyUrl)]

/-- They read the challenge's document, and decode its text. -/
theorem briefCrates_parseDocument :
    briefCrates.toDocumentCrates.parseDocument (flatText briefChallenge.toDocument) =
      .ok briefChallenge.toDocument := by
  unfold briefCrates
  rw [sampleWallet_parseDocument]

theorem decodePayload_briefChallenge :
    decodePayload briefCrates.toDocumentCrates (flatText briefChallenge.toDocument) =
      .ok (.verificationChallenge briefChallenge) := by decide +kernel

def sampleConfig : WalletConfig :=
  { verifierApiUrl := "https://verify.provii.app", environment := "production" }

/-- A network on which every GET is answered with the challenge. -/
def challengeNetwork : Network :=
  { tokioRt := .ok (), getWithTimeout := fun _ _ => .ok openChallengeJson,
    postJson := fun _ _ => .error (.network "no route to host") }

/-- A time in November 2023. -/
def sampleTime : Int := 1700000000000000000

/-- Six minutes, in nanoseconds. -/
def sixMinutes : Int := 360000000000

/-- The call that brings the challenge in by a short code. -/
def typedEntry : ProcessCall :=
  { way := .typed, net := challengeNetwork, config := sampleConfig,
    clock := { now := sampleTime, nowForEvict := sampleTime }, input := "1234 5678 9012" }

/-- A credential that proves the challenge, valid until 2033. -/
def openCredential : CredentialV2 := { provableCredential with exp := 2000000000 }

/-- An import of the credential into the empty store, with its answer. -/
def openImport : Except FfiError Key × Storage :=
  storeWithSecrets sampleCratesOf.toCrates
    { resolve := .never, store := .never, secrets := .never, now := 1700000000 } ⟨some ∅⟩
    (redacted openCredential) none .primary none (takeSecrets openCredential)

/-- The id the import answered. -/
def openCredentialId : Key :=
  newKey sampleCratesOf.toCrates (placeOf none .primary) (redacted openCredential)

/-- The surroundings of a proof at a time. -/
def proofEnvAt (now : Int) : ProofEnv Unit :=
  { storage := openImport.2, get := .never, load := .never, now, buildNow := now,
    prover := loadedProver, thread := callerThread }

/-- A proof request for the challenge at a time. -/
def proofAt (now : Int) : SessionOp Unit :=
  .createProof (.given openCredentialId) (proofEnvAt now) openChallenge.challengeId

end ProviiSdk.Wallet
