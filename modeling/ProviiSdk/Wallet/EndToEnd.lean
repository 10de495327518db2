/-
  ProviiSdk.Wallet.EndToEnd — from an issuance to a verified proof.

  The parts of the wallet meet in one story: a commitment is signed, the
  finalisation stores two records, the store is used for other things in
  between, a challenge is scanned, a proof is built from the records and
  submitted.  This file follows it to its end.  What is kept between the
  issuance and the proof is two records that decode to the header's
  fields and the committed secrets; every operation that leaves the
  credential's slot and id alone keeps them, whatever the backend
  answers.

  Main results:
    * `keeps_step`, `keeps_run` — the records are kept.
    * `keeps_of_finalized` — a finalisation puts them there.
    * `request_of_kept` — with them a proof is built exactly when the
      challenge, the prover and the clock allow it.
    * `issued_credential_provable_later` — over every run after the issuance.
    * `issued_credential_verifies` — up to the verifier's acceptance.
-/

import ProviiSdk.Core.Validity
import ProviiSdk.Wallet.IssuanceRoundTrip
import ProviiSdk.Wallet.RecordFrame

namespace ProviiSdk.Wallet

open ProviiSdk.Core ProviiSdk.Platform ProviiSdk.Ffi ProviiSdk.Run ProviiSdk.Check
open ProviiSdk.BoundedCache
open ProviiSdk.Wire (Codec)

variable {Params : Type}

/-! ## §1. The secrets key of a public key -/

/-- The prefixes of a decoded id are those of a place. -/
private theorem decoded_place (id : Key) :
    ∃ p : Place, prefixesForSlot (fromCredentialId id).1 (fromCredentialId id).2 =
      (recordPrefix p .cred, recordPrefix p .credsec) := by
  generalize fromCredentialId id = d
  obtain ⟨ns, slot⟩ := d
  refine ⟨placeFor ns slot, ?_⟩
  cases ns <;> cases slot <;> rfl

/-- A public key has a dot in it. -/
private theorem dot_mem_public {key : Key} (h : isCredentialKey key = true) : '.' ∈ key := by
  unfold isCredentialKey at h
  cases hfound : allCredPrefixes.find? fun p => decide (p <+: key) with
  | none =>
    rw [hfound] at h
    cases h
  | some p =>
    have hstart := List.find?_some hfound
    rw [decide_eq_true_iff] at hstart
    have hmem := List.mem_of_find?_eq_some hfound
    have hdots : ∀ q ∈ allCredPrefixes, '.' ∈ q := by decide
    exact hstart.subset (hdots p hmem)

/-- **No two keys with a dot share a secrets key**: the one whose secrets
    a record's are is that record's. -/
theorem recordKey_of_secretsKeyOf {key : Key} (hdot : '.' ∈ key) (p : Place) (b : BaseId)
    (h : secretsKeyOf key = secretsKeyOf (recordKey p .cred b)) : key = recordKey p .cred b := by
  obtain ⟨q, hq⟩ := decoded_place key
  have hbase : secretsKeyOf key = recordPrefix q .credsec ++ baseIdOf key := by
    show (prefixesForSlot (fromCredentialId key).1 (fromCredentialId key).2).2 ++ baseIdOf key = _
    rw [hq]
  rw [hbase, secretsKeyOf_recordKey] at h
  -- the secrets prefix says which place the key is decoded to
  have hplace : q = p := by
    refine ((recordPrefix_isPrefix_iff q p .credsec .credsec b).1 ?_).1
    rw [← h]
    exact List.prefix_append _ _
  subst hplace
  have hb : baseIdOf key = b.val := List.append_cancel_left h
  have hstrip : baseIdOf key = (key.dropPrefix? (recordPrefix q .cred)).getD key := by
    show (key.dropPrefix? (prefixesForSlot (fromCredentialId key).1 (fromCredentialId key).2).1).getD
      key = _
    rw [hq]
  cases hdrop : key.dropPrefix? (recordPrefix q .cred) with
  | none =>
    -- then the key itself would be the base id
    rw [hdrop, hb] at hstrip
    exact absurd (hstrip ▸ hdot) (dot_notMem_baseId b)
  | some rest =>
    rw [hdrop, hb] at hstrip
    obtain ⟨start, hkeyEq, hstart⟩ := List.dropPrefix?_eq_some_iff.1 hdrop
    have hrest : b.val = rest := hstrip
    unfold recordKey
    rw [hkeyEq, hrest, eq_of_beq hstart]

/-- So no two public keys do. -/
theorem public_of_secretsKeyOf {key : Key} (hkey : isCredentialKey key = true) (p : Place)
    (b : BaseId) (h : secretsKeyOf key = secretsKeyOf (recordKey p .cred b)) :
    key = recordKey p .cred b :=
  recordKey_of_secretsKeyOf (dot_mem_public hkey) p b h

/-! ## §2. The records of an issued credential -/

/-- A store keeps an issued credential under the id of a place and a base
    id: the public record has the header's fields and the secrets record
    the committed secrets. -/
def Keeps (header : SignedCredentialHeader) (dobDays : Int32) (rBits : List Bool) (p : Place)
    (b : BaseId) (s : Storage) : Prop :=
  (∃ item stored, recordAt s (recordKey p .cred b) = some item ∧
    decodeStored item.data = some stored ∧ stored.credential = issuedCredential header) ∧
  ∃ item, recordAt s (recordKey p .credsec b) = some item ∧
    decodeSecrets item.data = some { dobDays, rBits }

/-- An operation spares an issued credential: an import goes into another
    place and a deletion names neither of its records, a sweep is not of
    its namespace, a renaming is not of its secrets, and no cleanup finds
    it expired. -/
def SlotOp.Spares (X : Crates) (header : SignedCredentialHeader) (p : Place) (b : BaseId)
    (s : Storage) (op : SlotOp) : Prop :=
  match op with
  | .updateCredentialNickname _ id nickname =>
    id ≠ recordKey p .credsec b ∧ ∀ n ∈ nickname, Codec.string.fits n
  | .cleanupExpiredCredentials _ clock _ => nowSecs (clock (recordKey p .cred b)) ≤ header.exp
  | op => ¬ op.Reaches X s (recordKey p .cred b) ∧ ¬ op.Reaches X s (recordKey p .credsec b)

/-- Where both records stay, the credential is kept. -/
private theorem Keeps.of_same {header : SignedCredentialHeader} {dobDays : Int32}
    {rBits : List Bool} {p : Place} {b : BaseId} {s s' : Storage}
    (h : Keeps header dobDays rBits p b s)
    (hpublic : recordAt s' (recordKey p .cred b) = recordAt s (recordKey p .cred b))
    (hsecrets : recordAt s' (recordKey p .credsec b) = recordAt s (recordKey p .credsec b)) :
    Keeps header dobDays rBits p b s' := by
  unfold Keeps
  rw [hpublic, hsecrets]
  exact h

/-- A cleanup at times not past the expiry reaches neither record. -/
private theorem cleanup_spares (X : Crates) {header : SignedCredentialHeader} {dobDays : Int32}
    {rBits : List Bool} {p : Place} {b : BaseId} {s : Storage}
    (h : Keeps header dobDays rBits p b s) (f : Faults) (clock : Key → Int64) (fd : Key → Faults)
    (hclock : nowSecs (clock (recordKey p .cred b)) ≤ header.exp) (kind : RecordKind) :
    ¬ (SlotOp.cleanupExpiredCredentials f clock fd).Reaches X s (recordKey p kind b) := by
  rintro ⟨infos, hlist, info, hinfo, hexpired, hkey⟩
  obtain ⟨backend⟩ := s
  cases backend with
  | none => cases hlist
  | some kv =>
    obtain ⟨⟨item, stored, hitem, hdecode, hcred⟩, -⟩ := h
    have hentry := listEntry_of_listCredentials hlist info hinfo
    obtain ⟨-, hpublic⟩ := listEntry_eq_some hentry
    -- either way the listed credential is the kept one
    have hid : info.id = recordKey p .cred b := by
      cases kind with
      | cred =>
        rcases hkey with hkey | hkey
        · exact hkey.symm
        · exact absurd hkey.symm (secretsKeyOf_ne_public info.id p b)
      | credsec =>
        rcases hkey with hkey | hkey
        · rw [← hkey, isCredentialKey_recordKey] at hpublic
          cases hpublic
        · refine public_of_secretsKeyOf hpublic p b ?_
          rw [secretsKeyOf_recordKey]
          exact hkey.symm
    obtain ⟨item', stored', hitem', hdecode', hjudged⟩ := listEntry_record hentry
    rw [hid] at hitem' hjudged
    have hsame : stored = stored' := decoded_unique hitem hdecode hitem' hdecode'
    have hlate : header.exp < nowSecs (clock (recordKey p .cred b)) := by
      have hexp : stored'.credential.exp = header.exp := by
        rw [← hsame, hcred]
        rfl
      rw [hjudged, hexp] at hexpired
      exact of_decide_eq_true hexpired
    exact absurd hclock (UInt64.not_le.2 hlate)

/-- A renaming keeps the credential, also of its own record. -/
private theorem keeps_nickname (X : Crates) {header : SignedCredentialHeader} {dobDays : Int32}
    {rBits : List Bool} {p : Place} {b : BaseId} {s : Storage}
    (h : Keeps header dobDays rBits p b s) (f : Faults) (id : Key) (nickname : Option String)
    (hid : id ≠ recordKey p .credsec b) (hnick : ∀ n ∈ nickname, Codec.string.fits n) :
    Keeps header dobDays rBits p b
      (storageAfter X s (.updateCredentialNickname f id nickname)) := by
  have hsecrets := recordAt_untouched X s (.updateCredentialNickname f id nickname)
    (recordKey p .credsec b) hid.symm
  by_cases hown : recordKey p .cred b = id
  · obtain ⟨⟨item, stored, hitem, hdecode, hcred⟩, hsec⟩ := h
    refine ⟨?_, hsecrets ▸ hsec⟩
    obtain ⟨backend⟩ := s
    cases backend with
    | none => cases hitem
    | some kv =>
      show ∃ item stored, recordAt (updateCredentialNickname X f ⟨some kv⟩ id nickname).2 _ = _ ∧ _
      rw [updateCredentialNickname_storage]
      rcases updateCredentialNickname_outcome X f id nickname kv with
        ⟨-, hsame⟩ | ⟨item', stored', -, -, hitem', hdecode', hwritten⟩
      · rw [hsame]
        exact ⟨item, stored, hitem, hdecode, hcred⟩
      · -- the record written has the credential of the record read
        rw [← hown] at hitem'
        have hsame : stored = stored' := decoded_unique hitem hdecode hitem' hdecode'
        obtain ⟨hkid, hschema, hlabel, htype, -⟩ :=
          (StoredCredential.fits_iff stored').1 (fits_of_decodeStored hdecode')
        rw [hwritten, hown]
        refine ⟨_, _, (lookup_insert_of ..).trans (if_pos rfl), decodeStored_encodeStored _
          ((StoredCredential.fits_iff _).2 ⟨hkid, hschema, hlabel, htype, hnick⟩), ?_⟩
        rw [← hsame]
        show redacted stored.credential = _
        rw [hcred]
        rfl
  · exact h.of_same (recordAt_untouched X s _ _ hown) hsecrets

/-- **One step**: an operation that spares the credential keeps it. -/
theorem keeps_step (X : Crates) (header : SignedCredentialHeader) (dobDays : Int32)
    (rBits : List Bool) (p : Place) (b : BaseId) (s : Storage) (op : SlotOp)
    (h : Keeps header dobDays rBits p b s) (hop : op.Spares X header p b s) :
    Keeps header dobDays rBits p b (storageAfter X s op) := by
  cases op with
  | importCall call anchor fs =>
    exact h.of_same (recordAt_untouched X s _ _ hop.1) (recordAt_untouched X s _ _ hop.2)
  | deleteCredential f id =>
    exact h.of_same (recordAt_untouched X s _ _ hop.1) (recordAt_untouched X s _ _ hop.2)
  | deleteSandbox f =>
    exact h.of_same (recordAt_untouched X s _ _ hop.1) (recordAt_untouched X s _ _ hop.2)
  | updateCredentialNickname f id nickname => exact keeps_nickname X h f id nickname hop.1 hop.2
  | cleanupExpiredCredentials f clock fd =>
    exact h.of_same (recordAt_untouched X s _ _ (cleanup_spares X h f clock fd hop .cred))
      (recordAt_untouched X s _ _ (cleanup_spares X h f clock fd hop .credsec))

/-- **A run**: operations that all spare the credential keep it. -/
theorem keeps_run (X : Crates) (header : SignedCredentialHeader) (dobDays : Int32)
    (rBits : List Bool) (p : Place) (b : BaseId) {s : Storage} {ops : List SlotOp}
    (h : Keeps header dobDays rBits p b s)
    (hops : StepsMeet (storageAfter X) (fun s op => op.Spares X header p b s) s ops) :
    Always (storageAfter X) (Keeps header dobDays rBits p b) s ops :=
  always_of_step (keeps_step X header dobDays rBits p b) h hops

/-! ## §3. The issuance -/

/-- An issuance into a working backend: the wallet finalises with the
    fields of a commitment response, for the header that the issuer
    signed over that commitment. -/
structure Issuance (X : Crates) (naiveDate : String → Except String Int) (fs : ImportFaults)
    (kv : Kv) (w : ProviiWallet) (call : FinalizeCall) (header : SignedCredentialHeader)
    (rBits : List Bool) : Prop where
  storage : w.storage = ⟨some kv⟩
  rBitsLength : rBits.length = rBitsLen
  signed : ∃ input response commitment,
    sdkIssueComputeCommitment X naiveDate rBits input = .ok response ∧
      TakesFields response call.dobDays call.rBitsB64 commitment ∧ SignedFor X w commitment header
  parsed : X.parseHeader call.headerJson = .ok header
  available : SlotAvailable kv call.label call.credentialType
  kid : Codec.string.fits header.kid
  schema : Codec.string.fits header.schema
  label : ∀ l ∈ call.label, Codec.string.fits l
  nickname : ∀ n ∈ call.nickname, Codec.string.fits n
  resolves : fs.resolve.Healthy
  stores : fs.store.Healthy
  secrets : fs.secrets.Healthy

section Issuance

variable {X : Crates} {naiveDate : String → Except String Int} {fs : ImportFaults} {kv : Kv}
  {w : ProviiWallet} {call : FinalizeCall} {header : SignedCredentialHeader} {rBits : List Bool}

/-- The bits of the call are the committed ones. -/
theorem Issuance.bits (h : Issuance X naiveDate fs kv w call header rBits) :
    ∃ bytes, X.b64.decode call.rBitsB64.toList = .ok bytes ∧ unpackBits bytes rBitsLen = rBits := by
  obtain ⟨input, response, commitment, hresponse, hfields, -⟩ := h.signed
  obtain ⟨-, hdecode, -⟩ := sdkIssueComputeCommitment_ok X naiveDate rBits input response
    call.dobDays call.rBitsB64 commitment hresponse hfields
  refine ⟨_, hdecode, ?_⟩
  rw [← h.rBitsLength]
  exact unpackBits_packBits rBits

/-- **The signed header is accepted** with the committed secrets. -/
theorem Issuance.finalized (h : Issuance X naiveDate fs kv w call header rBits) :
    finalizeCredential X header call.dobDays rBits = .ok (header.credential call.dobDays rBits) := by
  obtain ⟨input, response, commitment, hresponse, hfields, hsigned⟩ := h.signed
  obtain ⟨-, -, c, hcommit, hdecode⟩ := sdkIssueComputeCommitment_ok X naiveDate rBits input response
    call.dobDays call.rBitsB64 commitment hresponse hfields
  -- the signed commitment is the computed one
  have hc : c = header.cBytes := by
    have heq := hdecode.symm.trans hsigned.commitment
    injection heq with heq
    exact List.Vector.toList_injective heq
  have hexp : header.exp ≠ 0 :=
    (UInt64.ne_of_lt (UInt64.lt_of_lt_of_le hsigned.iat hsigned.order)).symm
  rw [finalizeCredential_ok_iff X header call.dobDays rBits h.rBitsLength]
  refine ⟨?_, rfl⟩
  exact
    { v := hsigned.v
      iat := (UInt64.ne_of_lt hsigned.iat).symm
      exp := hexp
      order := hsigned.order
      commitment := hc ▸ hcommit
      signature := hsigned.signature }

/-- **The finalisation stores both records**, under the id it answers. -/
theorem keeps_of_finalized (h : Issuance X naiveDate fs kv w call header rBits) :
    ∃ p b, (call.run X fs w).1 = .ok (recordKey p .cred b) ∧
      Keeps header call.dobDays rBits p b (call.run X fs w).2 := by
  obtain ⟨bytes, hdecode, hbits⟩ := h.bits
  obtain ⟨input, response, commitment, -, -, hsigned⟩ := h.signed
  obtain ⟨anchor, hanchor, htrusted⟩ := hsigned.trusted
  obtain ⟨slot, hslot⟩ :=
    resolveSlot_of_available h.resolves kv call.label call.credentialType h.available
  have hissuer : checkIssuer w.issuerTrustAnchor header = .ok () := by
    rw [hanchor]
    unfold checkIssuer
    simp only [(validateIssuerVk_ok_iff header anchor).2 htrusted]
  have hchecks : finalizeChecks X fs.resolve w call.headerJson call.dobDays call.rBitsB64 call.label
      call.credentialType = .ok (slot, issuedCredential header, { dobDays := call.dobDays, rBits }) := by
    refine (finalizeChecks_ok_iff ..).2 ⟨header, bytes, header.credential call.dobDays rBits, ?_,
      h.parsed, hissuer, hdecode, ?_, rfl, ?_⟩
    · rw [h.storage]
      exact hslot
    · rw [hbits]
      exact h.finalized
    · rw [hbits]
  obtain ⟨kv', hrun, hsecrets, hlookup⟩ := storeWithSecrets_contents X fs h.stores h.secrets kv
    (issuedCredential header) call.label slot call.nickname
    (some { dobDays := call.dobDays, rBits })
  have hrun' : call.run X fs w =
      (.ok (newKey X (placeOf call.label slot) (issuedCredential header)), ⟨some kv'⟩) := by
    unfold FinalizeCall.run finalizeAndStoreCredential
    rw [hchecks, h.storage]
    exact hrun
  have hne := (secretsKeyOf_newKey_ne X (placeOf call.label slot) (issuedCredential header)).symm
  have hpublic := hlookup _ hne
  rw [if_pos rfl] at hpublic
  rw [newKey_eq] at hrun' hpublic hsecrets
  rw [secretsKeyOf_recordKey] at hsecrets
  refine ⟨placeOf call.label slot, baseIdFor X (issuedCredential header), congrArg Prod.fst hrun', ?_⟩
  rw [congrArg Prod.snd hrun']
  refine ⟨⟨_, _, hpublic, decodeStored_encodeStored _ (storedRecord_fits fs.now
    (issuedCredential header) call.label slot call.nickname h.kid h.schema h.label h.nickname), rfl⟩,
    _, hsecrets, decodeSecrets_encodeSecrets _ ?_⟩
  show rBits.length < 2 ^ 64
  rw [h.rBitsLength]
  decide

end Issuance

/-! ## §4. A sample issuance -/

/-- A header with the circuit's lengths, valid until 2033. -/
def keptHeader : SignedCredentialHeader :=
  { sampleHeader with kid := "provii:2026-05", exp := 2000000000 }

/-- Crates for which every header is that one and every document the open
    credential. -/
def keptCrates : WalletCrates Unit :=
  { sampleCratesOf with
    parseHeader := fun _ => .ok keptHeader
    parseCredential := fun _ => .ok openCredential }

/-- The finalisation of the sample response into the primary slot. -/
def keptCall : FinalizeCall :=
  { headerJson := "header", dobDays := 19000, rBitsB64 := drawnBitsB64, label := none,
    credentialType := "primary", nickname := none }

def answeringImport : ImportFaults :=
  { resolve := .never, store := .never, secrets := .never, now := 1700000000 }

/-- The id under which it is stored. -/
def keptId : Key := newKey keptCrates.toCrates (placeOf none .primary) (issuedCredential keptHeader)

/-- A sandbox credential comes in, the kept one is renamed, and a cleanup
    and a sweep follow. -/
def keptOps : List SlotOp :=
  [.importCall (.storeCredentialWithLabel "a" (some "sandbox") "managed" none) none answeringImport,
    .updateCredentialNickname .never keptId (some "b"),
    .cleanupExpiredCredentials .never (fun _ => 1700000000) fun _ => .never,
    .deleteSandbox .never]

private theorem fits_short {text : String} (h : text.utf8ByteSize < 2 ^ 8) :
    Codec.string.fits text := by
  show (Wire.utf8 text).length < 2 ^ 64
  rw [Wire.utf8_length]
  omega

/-- The sample issuance. -/
theorem keptIssuance :
    Issuance keptCrates.toCrates (fun _ => .error "input contains invalid characters")
      answeringImport ∅ issuingWallet keptCall keptHeader drawnBits where
  storage := rfl
  rBitsLength := List.length_replicate
  signed := by
    have hdob : parseDob (fun _ => .error "input contains invalid characters") "19000" =
        .ok 19000 := by
      unfold parseDob
      rw [if_neg (by decide)]
      rfl
    refine ⟨"19000", sampleResponse, zeroCommitmentB64, ?_, ⟨rfl, rfl, rfl⟩, ?_⟩
    · unfold sdkIssueComputeCommitment
      rw [hdob]
      rfl
    · refine ⟨rfl, by decide, by decide, ?_, rfl, _, rfl, _, List.mem_singleton_self _, rfl⟩
      show Base64Url.rfc4648.decode zeroCommitmentB64.toList = _
      unfold zeroCommitmentB64
      rw [String.toList_ofList, Base64Url.rfc4648.decode_encode]
      rfl
  parsed := rfl
  available := Or.inl rfl
  kid := fits_short (by decide)
  schema := fits_short (by decide)
  label := by
    intro l hl
    cases hl
  nickname := by
    intro n hn
    cases hn
  resolves := Faults.never_healthy
  stores := Faults.never_healthy
  secrets := Faults.never_healthy

/-- Its id is the record's key in the primary slot. -/
private theorem keptId_eq : keptId = recordKey (placeOf none .primary) .cred
    (baseIdFor keptCrates.toCrates (issuedCredential keptHeader)) := newKey_eq ..

/-- Operations on the sandbox, and a cleanup before 2033, spare it. -/
private theorem keptOps_spare {p : Place} {b : BaseId} (hp : p = placeOf none .primary)
    (hid : recordKey p .cred b = keptId) (s : Storage) :
    StepsMeet (storageAfter keptCrates.toCrates)
      (fun s op => op.Spares keptCrates.toCrates keptHeader p b s) s keptOps := by
  have hns : (placeOf none .primary).ns = .primary := rfl
  -- what the import reaches is in the sandbox
  have himport : ∀ s kind, ¬ (SlotOp.importCall (.storeCredentialWithLabel "a" (some "sandbox")
      "managed" none) none answeringImport).Reaches keptCrates.toCrates s (recordKey p kind b) := by
    rintro s kind ⟨q, credential, ⟨slot, secrets, -, -, rfl⟩, hin⟩
    rw [inSlot_recordKey, decide_eq_true_iff, hp] at hin
    have hsame : fromLabel (some "sandbox") = fromLabel none := congrArg Place.ns hin
    exact absurd hsame (by decide)
  have hsweep : ∀ s kind, ¬ (SlotOp.deleteSandbox .never).Reaches keptCrates.toCrates s
      (recordKey p kind b) := by
    intro s kind hin
    have hin' : inNamespace .sandbox (recordKey p kind b) = true := hin
    rw [inNamespace_sandbox_recordKey, hp, hns, decide_eq_true_iff] at hin'
    cases hin'
  refine ⟨⟨himport _ .cred, himport _ .credsec⟩, ⟨?_, ?_⟩, ?_, ⟨hsweep _ .cred, hsweep _ .credsec⟩,
    trivial⟩
  · rw [← hid]
    intro hsame
    exact absurd ((recordKey_inj ..).1 hsame).2.1 (by decide)
  · intro n hn
    injection hn with hn
    rw [← hn]
    exact fits_short (by decide)
  · show nowSecs 1700000000 ≤ keptHeader.exp
    decide

/-! ## §5. The proof -/

/-- What it takes, beside the kept records, to prove a challenge: a
    thread, times before the expiries, the loaded key, the circuit's
    lengths, the age, and the prover. -/
structure CanProve (X : WalletCrates Params) (env : ProofEnv Params) (header : SignedCredentialHeader)
    (dobDays : Int32) (rBits : List Bool) (qr : QrChallengePayload) : Prop where
  thread : env.thread.rayonWorker = true → env.thread.spawnError = none ∧ env.thread.panics = false
  live : unixSecs env.now ≤ header.exp
  liveAtBuild : unixSecs env.buildNow ≤ header.exp
  challengeLive : unixSecs env.buildNow < qr.expiresAt
  vkId : env.prover.loadedVkId = some qr.verifyingKeyId
  lengths : CircuitLengths header
  age : validateAge dobDays qr.cutoffDays qr.underAge = true
  proves : ∃ params rp publics proof, env.prover.provingParams = some params ∧
    decodeB64_32 X.toCrates qr.rpChallenge = .ok rp ∧
    assembleInputs X.toProverCrates (header.credential dobDays rBits) rp qr = .ok publics ∧
    Proves X.toProverCrates params (header.credential dobDays rBits) dobDays rBits rp qr proof ∧
    proof.cutoff = qr.cutoffDays

/-- From the kept records the finalised credential is put together again. -/
theorem credentialWithSecrets_of_keeps (X : WalletCrates Params) {env : ProofEnv Params}
    {header : SignedCredentialHeader} {dobDays : Int32} {rBits : List Bool} {p : Place} {b : BaseId}
    (hget : env.get.Healthy) (hload : env.load.Healthy)
    (h : Keeps header dobDays rBits p b env.storage) :
    credentialWithSecrets X env (recordKey p .cred b) = .ok (header.credential dobDays rBits) := by
  obtain ⟨⟨backend⟩, getFaults, loadFaults, now, buildNow, prover, thread⟩ := env
  obtain ⟨⟨item, stored, hitem, hdecode, hcred⟩, secretsItem, hsecretsItem, hdecodeSecrets⟩ := h
  cases backend with
  | none => cases hitem
  | some kv =>
    have hread : getCredential X.toCrates getFaults (recordKey p .cred b) kv =
        .ok (some (issuedCredential header)) := by
      unfold getCredential
      rw [retrieve_healthy hget hitem]
      simp only [hdecode, hcred]
    have hsecrets : loadCredentialSecrets X.toCrates loadFaults (recordKey p .cred b) kv =
        .ok (some { dobDays, rBits }) := by
      unfold loadCredentialSecrets
      rw [secretsKeyOf_recordKey, retrieve_healthy hload hsecretsItem]
      simp only [hdecodeSecrets]
    unfold credentialWithSecrets
    simp only [read_some, hread, hsecrets]
    rfl

/-- A finalised credential passes the checks before the prover exactly
    when the challenge, the loaded key and the clock allow it. -/
private theorem requestable_of_finalized (X : WalletCrates Params) {env : ProofEnv Params}
    {header : SignedCredentialHeader} {dobDays : Int32} {rBits : List Bool}
    (hfin : finalizeCredential X.toCrates header dobDays rBits = .ok (header.credential dobDays rBits))
    (qr : QrChallengePayload) :
    (unixSecs env.now ≤ header.exp ∧
      Requestable X.toProverCrates env.thread env.prover (unixSecs env.buildNow)
        (header.credential dobDays rBits) qr) ↔ CanProve X env header dobDays rBits qr := by
  obtain ⟨-, -, -, -, hlen, hcommit, hsig, -⟩ :=
    finalizeCredential_ok X.toCrates header dobDays rBits _ hfin
  constructor
  · rintro ⟨hlive, hthread, params, dobDays', rBits', rp, proof, hchecked, hproves, hcutoff⟩
    have hdob : dobDays = dobDays' := Option.some.inj hchecked.hasDobDays
    have hbits : rBits = rBits' := Option.some.inj hchecked.hasRBits
    subst hdob hbits
    obtain ⟨publics, hpublics⟩ := hchecked.assembles
    exact
      { thread := hthread
        live := hlive
        liveAtBuild := hchecked.live
        challengeLive := hchecked.challengeLive
        vkId := hchecked.vkId
        lengths := lengths_of_verifyCircuitShape header dobDays rBits hchecked.shape
        age := hchecked.age
        proves := ⟨params, rp, publics, proof, hchecked.loaded, hchecked.rpChallenge, hpublics,
          hproves, hcutoff⟩ }
  · intro h
    obtain ⟨params, rp, publics, proof, hparams, hrp, hpublics, hproves, hcutoff⟩ := h.proves
    have hrecompute : (recomputeCommitment X.toCrates (header.credential dobDays rBits) dobDays
        rBits).2 = true := by
      unfold recomputeCommitment
      rw [hcommit]
      exact decide_eq_true rfl
    refine ⟨h.live, h.thread, params, dobDays, rBits, rp, proof, ?_, hproves, hcutoff⟩
    exact
      { loaded := hparams
        vkId := h.vkId
        live := h.liveAtBuild
        challengeLive := h.challengeLive
        hasDobDays := rfl
        hasRBits := rfl
        rBitsLength := hlen
        rpChallenge := hrp
        signature := hsig
        assembles := ⟨publics, hpublics⟩
        commitment := hrecompute
        age := h.age
        shape := verifyCircuitShape_of_lengths header dobDays rBits hlen h.lengths }

/-- **From kept records a proof is built exactly when it can be.** -/
theorem request_of_kept (X : WalletCrates Params) {env : ProofEnv Params}
    {header : SignedCredentialHeader} {dobDays : Int32} {rBits : List Bool} {p : Place} {b : BaseId}
    (hfin : finalizeCredential X.toCrates header dobDays rBits = .ok (header.credential dobDays rBits))
    (hget : env.get.Healthy) (hload : env.load.Healthy)
    (h : Keeps header dobDays rBits p b env.storage) (challengeId : String)
    (cached : Cache String CachedChallenge) :
    (∃ r, ageProofRequest X env (recordKey p .cred b) challengeId cached = .ok r) ↔
      ∃ entry, cached.lookup challengeId = some entry ∧
        CanProve X env header dobDays rBits entry.payload := by
  have hcred := credentialWithSecrets_of_keeps X hget hload h
  simp only [ageProofRequest_ok_iff, hcred]
  constructor
  · rintro ⟨r, entry, cred, hentry, hsame, hlive, hbuilt⟩
    injection hsame with hsame
    subst hsame
    refine ⟨entry, hentry, (requestable_of_finalized X hfin entry.payload).1 ⟨?_, ?_⟩⟩
    · exact UInt64.not_lt.1 hlive
    · exact (buildVerifyRequest_iff ..).1 ⟨r, hbuilt⟩
  · rintro ⟨entry, hentry, hcan⟩
    obtain ⟨hlive, hrequestable⟩ := (requestable_of_finalized X hfin entry.payload).2 hcan
    obtain ⟨r, hbuilt⟩ := (buildVerifyRequest_iff ..).2 hrequestable
    exact ⟨r, entry, _, hentry, rfl, UInt64.not_lt.2 hlive, hbuilt⟩

/-- **The property** of a store: on working reads, a proof with the id is
    built exactly when a cached challenge can be proved. -/
def ProvableLater (X : WalletCrates Params) (header : SignedCredentialHeader) (dobDays : Int32)
    (rBits : List Bool) (id : Key) (s : Storage) : Prop :=
  ∀ (env : ProofEnv Params) (challengeId : String) (cached : Cache String CachedChallenge),
    env.storage = s → env.get.Healthy → env.load.Healthy →
      ((∃ r, ageProofRequest X env id challengeId cached = .ok r) ↔
        ∃ entry, cached.lookup challengeId = some entry ∧
          CanProve X env header dobDays rBits entry.payload)

/-- **An issued credential stays provable.**  After an issuance on a
    working backend, in every state of every run of operations that spare
    the credential, with any failures of the backend among them, a proof
    with the answered id is built exactly when the challenge is cached,
    the loaded key is the challenge's, the clock is before both expiries,
    the birth day passes the cutoff, the header has the circuit's lengths
    and the prover proves: nothing of the commitment, the bits or the
    header is lost on the way. -/
theorem issued_credential_provable_later (X : WalletCrates Params)
    (naiveDate : String → Except String Int) (fs : ImportFaults) (kv : Kv) (w : ProviiWallet)
    (call : FinalizeCall) (header : SignedCredentialHeader) (rBits : List Bool)
    (h : Issuance X.toCrates naiveDate fs kv w call header rBits) :
    ∃ p b, (call.run X.toCrates fs w).1 = .ok (recordKey p .cred b) ∧
      ∀ ops, StepsMeet (storageAfter X.toCrates) (fun s op => op.Spares X.toCrates header p b s)
          (call.run X.toCrates fs w).2 ops →
        Always (storageAfter X.toCrates)
          (ProvableLater X header call.dobDays rBits (recordKey p .cred b))
          (call.run X.toCrates fs w).2 ops := by
  obtain ⟨p, b, hid, hkeeps⟩ := keeps_of_finalized h
  refine ⟨p, b, hid, fun ops hops => ?_⟩
  apply (keeps_run X.toCrates header call.dobDays rBits p b hkeeps hops).imp
  intro s hs env challengeId cached henv hget hload
  subst henv
  exact request_of_kept X h.finalized hget hload hs challengeId cached

/-- The sample issuance, and operations on the sandbox after it. -/
theorem issued_credential_provable_later_kept :
    (keptCall.run keptCrates.toCrates answeringImport issuingWallet).1 = .ok keptId ∧
      Always (storageAfter keptCrates.toCrates)
        (ProvableLater keptCrates keptHeader 19000 drawnBits keptId)
        (keptCall.run keptCrates.toCrates answeringImport issuingWallet).2 keptOps := by
  have hanswer : (keptCall.run keptCrates.toCrates answeringImport issuingWallet).1 = .ok keptId := by
    decide +kernel
  obtain ⟨p, b, hid, hall⟩ := issued_credential_provable_later keptCrates _ _ _ _ _ _ _ keptIssuance
  rw [hanswer] at hid
  injection hid with hid
  have hp : p = placeOf none .primary := by
    rw [keptId_eq] at hid
    exact ((recordKey_inj ..).1 hid).1.symm
  rw [hid]
  exact ⟨hid ▸ hanswer, hall keptOps (keptOps_spare hp hid.symm _)⟩

/-! ## §6. The verification -/

/-- A request that is built repeats the challenge's values. -/
private theorem challengeId_of_built {X : WalletCrates Params} {env : ProofEnv Params} {id : Key}
    {challengeId : String} {cached : Cache String CachedChallenge} {r : SubmitProofRequest}
    (h : ageProofRequest X env id challengeId cached = .ok r) :
    ∃ entry proof, cached.lookup challengeId = some entry ∧
      r = submitRequest X.toCrates entry.payload proof := by
  obtain ⟨entry, cred, hentry, -, -, hbuilt⟩ := (ageProofRequest_ok_iff ..).1 h
  obtain ⟨worker, hinner⟩ := buildVerifyRequest_ok X.toProverCrates env.thread env.prover _ cred
    entry.payload r hbuilt
  unfold buildVerifyRequestInternal at hinner
  simp only [bind_eq_ok_iff] at hinner
  obtain ⟨params, -, vkId, -, -, -, -, -, -, -, report, -, -, -, -, -, dobDays, -, rBits, -, -, -, rp,
    -, -, -, proof, -, -, -, hr⟩ := hinner
  injection hr with hr
  exact ⟨entry, proof, hentry, hr.symm⟩

/-- A challenge that was brought in is cached, and stays so over quiet
    operations. -/
private theorem cached_after_quiet (X : WalletCrates Params) {enter : ProcessCall}
    {challenge : QrChallengePayload} {session : Session} {quiet : List (SessionOp Params)}
    (hread : enter.challenge X.toDocumentCrates = .ok challenge)
    (hcached : (enter.run X.toDocumentCrates session).1 = .ok challenge.challengeId)
    (hquiet : ∀ op ∈ quiet, op.Quiet) :
    (run (sessionStep X) (enter.run X.toDocumentCrates session).2 quiet).cachedChallenges.lookup
      challenge.challengeId = some (entryOf enter.clock.now challenge) := by
  have hentered : (enter.run X.toDocumentCrates session).2.cachedChallenges.lookup
      challenge.challengeId = some (entryOf enter.clock.now challenge) := by
    rw [ProcessCall.run_of_ok hread, cacheChallenge_eq] at hcached ⊢
    apply lookup_offer_self
    by_contra hfull
    simp only [hfull] at hcached
    cases hcached
  have hstep : ∀ (s : Session) (op : SessionOp Params),
      s.cachedChallenges.lookup challenge.challengeId = some (entryOf enter.clock.now challenge) →
      op.Quiet → (sessionStep X s op).cachedChallenges.lookup challenge.challengeId =
        some (entryOf enter.clock.now challenge) := by
    intro s op hs hop
    rw [cached_sessionStep_of_quiet X s op hop]
    exact hs
  exact (always_of_step hstep hentered (stepsMeet_of_forall hquiet)).last

/-- **The property** of a store: a challenge that is brought in, and after
    any quiet operations proved with the id, can be submitted; and when
    the verifier answers with `OK` the verification is finished. -/
def Verifies (X : WalletCrates Params) (header : SignedCredentialHeader) (dobDays : Int32)
    (rBits : List Bool) (id : Key) (s : Storage) : Prop :=
  ∀ (enter : ProcessCall) (challenge : QrChallengePayload) (session : Session)
    (quiet : List (SessionOp Params)) (env : ProofEnv Params),
    enter.challenge X.toDocumentCrates = .ok challenge →
    (enter.run X.toDocumentCrates session).1 = .ok challenge.challengeId →
    (∀ op ∈ quiet, op.Quiet) →
    env.storage = s → env.get.Healthy → env.load.Healthy →
    CanProve X env header dobDays rBits challenge →
    ∃ json request proved,
      createAgeProof X env id challenge.challengeId
        (run (sessionStep X) (enter.run X.toDocumentCrates session).2 quiet) = (.ok json, proved) ∧
      X.submitRequestJson request = .ok json ∧
      request.challengeId = challenge.challengeId ∧ request.submitSecret = challenge.submitSecret ∧
      request.proof.verifyingKeyId = challenge.verifyingKeyId ∧
      request.proof.publicInputs.cutoffDays = challenge.cutoffDays ∧
      request.proof.publicInputs.rpChallenge = challenge.rpChallenge ∧
      ∀ (net : Network) (config : WalletConfig) (body : String) (answer : VerifyResponse),
        X.parseSubmitRequest json = .ok request → net.tokioRt = .ok () →
        net.postJson (config.verifierApiUrl ++ "/v1/verify") json = .ok body →
        X.parseVerifyResponse body = .ok answer → answer.result = "OK" →
        ∃ finished, submitProof X net config json proved = (.ok true, finished) ∧
          finished.stateManager.verificationStatus = .verified ∧
          challenge.challengeId ∉ finished.stateManager.activeVerifications

/-- Where a proof can be built for every cached challenge that can be
    proved, a verification succeeds. -/
theorem verifies_of_provable (X : WalletCrates Params)
    (hwrites : ∀ r, ∃ json, X.submitRequestJson r = .ok json) {header : SignedCredentialHeader}
    {dobDays : Int32} {rBits : List Bool} {id : Key} {s : Storage}
    (h : ProvableLater X header dobDays rBits id s) : Verifies X header dobDays rBits id s := by
  intro enter challenge session quiet env hread hcached hquiet henv hget hload hcan
  have hlookup := cached_after_quiet X hread hcached hquiet
  generalize run (sessionStep X) (enter.run X.toDocumentCrates session).2 quiet = before at hlookup ⊢
  obtain ⟨request, hrequest⟩ := (h env challenge.challengeId before.cachedChallenges henv hget
    hload).2 ⟨_, hlookup, hcan⟩
  obtain ⟨json, hjson⟩ := hwrites request
  obtain ⟨entry, proof, hentry, hvalues⟩ := challengeId_of_built hrequest
  rw [hlookup] at hentry
  injection hentry with hentry
  subst hentry
  refine ⟨json, request, { before with stateManager :=
    before.stateManager.updateVerificationStatus challenge.challengeId .proofGenerated }, ?_, hjson,
    ?_, ?_, ?_, ?_, ?_, ?_⟩
  · unfold createAgeProof finishProof
    rw [hrequest]
    simp only [hjson]
    rfl
  · rw [hvalues]
    rfl
  · rw [hvalues]
    rfl
  · rw [hvalues]
    rfl
  · rw [hvalues]
    rfl
  · rw [hvalues]
    rfl
  · intro net config body answer hparse hrt hpost hanswer hok
    have hid : request.challengeId = challenge.challengeId := by
      rw [hvalues]
      rfl
    have hsubmission : submission X net config json = .ok (challenge.challengeId, true) := by
      unfold submission
      rw [hrt, hparse, hpost, mapError_ok, ok_bind, ok_bind, ok_bind, hanswer, mapError_ok, ok_bind,
        hid, hok]
      rfl
    refine ⟨{ before with stateManager := (before.stateManager.updateVerificationStatus
      challenge.challengeId .proofGenerated).completeVerification challenge.challengeId true },
      ?_, rfl, ?_⟩
    · unfold submitProof
      rw [hsubmission]
    · show _ ∉ (StateManager.completeVerification _ _ _).activeVerifications
      rw [StateManager.active_completeVerification, StateManager.mem_active_removeVerification]
      intro hactive
      exact hactive.2 rfl

/-- **From issuance to acceptance.**  After an issuance on a working
    backend, in every state of every run of operations that spare the
    credential: a challenge that is scanned or typed, cached, and provable
    by the header and the committed secrets, is proved with the answered
    id after any quiet operations; the request repeats the challenge's
    values; and when the verifier accepts it, the wallet reports the
    challenge verified and no longer active. -/
theorem issued_credential_verifies (X : WalletCrates Params)
    (hwrites : ∀ r, ∃ json, X.submitRequestJson r = .ok json)
    (naiveDate : String → Except String Int) (fs : ImportFaults) (kv : Kv) (w : ProviiWallet)
    (call : FinalizeCall) (header : SignedCredentialHeader) (rBits : List Bool)
    (h : Issuance X.toCrates naiveDate fs kv w call header rBits) :
    ∃ p b, (call.run X.toCrates fs w).1 = .ok (recordKey p .cred b) ∧
      ∀ ops, StepsMeet (storageAfter X.toCrates) (fun s op => op.Spares X.toCrates header p b s)
          (call.run X.toCrates fs w).2 ops →
        Always (storageAfter X.toCrates)
          (Verifies X header call.dobDays rBits (recordKey p .cred b))
          (call.run X.toCrates fs w).2 ops := by
  obtain ⟨p, b, hid, hkeeps⟩ := keeps_of_finalized h
  refine ⟨p, b, hid, fun ops hops => ?_⟩
  apply (keeps_run X.toCrates header call.dobDays rBits p b hkeeps hops).imp
  intro s hs
  apply verifies_of_provable X hwrites
  intro env challengeId cached henv hget hload
  subst henv
  exact request_of_kept X h.finalized hget hload hs challengeId cached

/-- The same issuance and operations. -/
theorem issued_credential_verifies_kept :
    (keptCall.run keptCrates.toCrates answeringImport issuingWallet).1 = .ok keptId ∧
      Always (storageAfter keptCrates.toCrates) (Verifies keptCrates keptHeader 19000 drawnBits keptId)
        (keptCall.run keptCrates.toCrates answeringImport issuingWallet).2 keptOps := by
  have hanswer : (keptCall.run keptCrates.toCrates answeringImport issuingWallet).1 = .ok keptId := by
    decide +kernel
  obtain ⟨p, b, hid, hall⟩ := issued_credential_verifies keptCrates (fun r => ⟨_, rfl⟩) _ _ _ _ _ _ _
    keptIssuance
  rw [hanswer] at hid
  injection hid with hid
  have hp : p = placeOf none .primary := by
    rw [keptId_eq] at hid
    exact ((recordKey_inj ..).1 hid).1.symm
  rw [hid]
  exact ⟨hid ▸ hanswer, hall keptOps (keptOps_spare hp hid.symm _)⟩

end ProviiSdk.Wallet
