/-
  ProviiSdk.Wallet.IssuanceRoundTrip — from the commitment to the store and back.

  An issuance through the FFI: the commitment entry point hands out the
  birth day, the blinding bits in base64url and the commitment; the
  issuer signs a header over that commitment; the finalisation takes the
  fields back, checks them, and stores a public record and a secrets
  record under two keys.  Nothing is lost on the way.

  Main results:
    * `sdkIssueComputeCommitment_ok` — what a commitment response holds.
    * `issuance_round_trip` — after a finalisation on a working backend,
      the two records read back as the header's public fields and the
      private fields the commitment was computed from.
-/

import ProviiSdk.Core.Commitment
import ProviiSdk.Core.Sample
import ProviiSdk.Wallet.Imports

namespace ProviiSdk.Wallet

open ProviiSdk.Core ProviiSdk.Platform ProviiSdk.Ffi ProviiSdk.Text
open ProviiSdk.Wire (Codec)

/-! ## §1. The commitment entry point -/

/-- The numeral of an `i32` in a JSON document. -/
def int32Text (i : Int32) : String :=
  if i.toInt < 0 then String.ofList ('-' :: decimal i.toInt.natAbs)
  else String.ofList (decimal i.toInt.natAbs)

/-- The birth day of a text: an ISO date if it has a dash, else days
    since the epoch. -/
def parseDob (naiveDate : String → Except String Int) (dobIsoOrDays : String) :
    Except FfiError Int32 :=
  if '-' ∈ dobIsoOrDays.toList then
    match parseDobIso naiveDate dobIsoOrDays with
    | .error e => .error (.invalidFormat e.display)
    | .ok dobDays => .ok dobDays
  else
    -- without a dash the text of an `i32` is an unsigned one
    match parseUnsigned 2147483648 dobIsoOrDays.toList with
    | some n => .ok (Int32.ofNat n)
    | none => .error (.invalidFormat "Invalid DOB format - expected YYYY-MM-DD or numeric days")

/-- The entry point: the JSON document whose text is returned.  The
    blinding bits are what the random generator drew. -/
def sdkIssueComputeCommitment (X : Crates) (naiveDate : String → Except String Int)
    (rBits : List Bool) (dobIsoOrDays : String) : Except FfiError Json :=
  match parseDob naiveDate dobIsoOrDays with
  | .error e => .error e
  | .ok dobDays =>
    match computeCommitment X rBits dobDays with
    | .error e => .error (.generic e.display)
    | .ok parts =>
      .ok (.obj [
        ("dob_days", .num (int32Text parts.dobDays)),
        ("r_bits", .str (String.ofList (X.b64.encode (packBits parts.rBits)))),
        ("commitment", .str (String.ofList (X.b64.encode parts.cBytes.toList)))])

/-- The fields a wallet takes from a commitment response. -/
structure TakesFields (response : Json) (dobDays : Int32) (rBitsB64 commitment : String) : Prop where
  dobDays : response.get "dob_days" = some (.num (int32Text dobDays))
  rBits : (response.get "r_bits").bind Json.asStr = some rBitsB64
  commitment : (response.get "commitment").bind Json.asStr = some commitment

theorem int32Text_injective (i j : Int32) (h : int32Text i = int32Text j) : i = j := by
  have hdash : ∀ n : Nat, '-' ∉ decimal n := fun n => notMem_decimal n '-' (by decide)
  have hint : i.toInt = j.toInt := by
    unfold int32Text at h
    split at h
    next hi =>
      split at h
      next hj =>
        have habs := decimal_injective _ _ (List.cons.inj (String.ofList_injective h)).2
        omega
      next hj =>
        have hmem : '-' ∈ decimal j.toInt.natAbs := by
          rw [← String.ofList_injective h]
          exact List.mem_cons_self
        exact absurd hmem (hdash _)
    next hi =>
      split at h
      next hj =>
        have hmem : '-' ∈ decimal i.toInt.natAbs := by
          rw [String.ofList_injective h]
          exact List.mem_cons_self
        exact absurd hmem (hdash _)
      next hj =>
        have habs := decimal_injective _ _ (String.ofList_injective h)
        omega
  exact Int32.toInt_inj.1 hint

/-- **What a commitment response holds**: its fields are the birth day,
    the packed blinding bits and the commitment over both. -/
theorem sdkIssueComputeCommitment_ok (X : Crates) (naiveDate : String → Except String Int)
    (rBits : List Bool) (input : String) (response : Json) (dobDays : Int32)
    (rBitsB64 commitment : String)
    (hresp : sdkIssueComputeCommitment X naiveDate rBits input = .ok response)
    (hfields : TakesFields response dobDays rBitsB64 commitment) :
    parseDob naiveDate input = .ok dobDays ∧
      X.b64.decode rBitsB64.toList = .ok (packBits rBits) ∧
      ∃ c, X.pedersenCommitDobValidated dobDays rBits = .ok c ∧
        X.b64.decode commitment.toList = .ok c.toList := by
  unfold sdkIssueComputeCommitment at hresp
  cases hdob : parseDob naiveDate input with
  | error e => rw [hdob] at hresp; cases hresp
  | ok parsed =>
    rw [hdob] at hresp
    simp only at hresp
    unfold computeCommitment at hresp
    cases hcom : X.pedersenCommitDobValidated parsed rBits with
    | error e => rw [hcom] at hresp; cases hresp
    | ok c =>
      rw [hcom] at hresp
      injection hresp with hresp
      subst hresp
      obtain ⟨hd, hr, hc⟩ := hfields
      -- each field is the one the document was built with
      have hdays : parsed = dobDays := by
        injection hd with hd
        injection hd with hd
        exact int32Text_injective _ _ hd
      have hbits : String.ofList (X.b64.encode (packBits rBits)) = rBitsB64 := by
        injection hr with hr
      have hcommit : String.ofList (X.b64.encode c.toList) = commitment := by
        injection hc with hc
      subst hdays hbits hcommit
      refine ⟨rfl, ?_, c, hcom, ?_⟩
      · rw [String.toList_ofList, X.b64.decode_encode]
      · rw [String.toList_ofList, X.b64.decode_encode]

/-! ## §2. The wallet's side -/

/-- A slot of the type can be resolved: the primary one always, a managed
    one while an index is free. -/
def SlotAvailable (kv : Kv) (label : Option String) (credentialType : String) : Prop :=
  credentialType = "primary" ∨
    credentialType = "managed" ∧ ∃ i < maxManagedSlots, IndexFree (fromLabel label) kv i

theorem resolveSlot_of_available {f : Faults} (hf : f.Healthy) (kv : Kv) (label : Option String)
    (credentialType : String) (h : SlotAvailable kv label credentialType) :
    ∃ slot, resolveSlot f ⟨some kv⟩ credentialType label = .ok slot := by
  unfold resolveSlot
  rcases h with rfl | ⟨rfl, i, hi, hfree⟩
  · exact ⟨.primary, by simp⟩
  · rw [if_pos rfl, read_some]
    rcases nextAvailableManagedIndex_spec hf (fromLabel label) kv with
      ⟨j, hj, hlt, _, _⟩ | ⟨_, hall⟩
    · rw [hj]
      simp only
      rw [if_neg (UInt8.not_le.2 hlt)]
      exact ⟨.managed j, rfl⟩
    · exact absurd hfree (hall i hi)

/-- What the issuer sends back for a commitment, as the wallet parses it:
    a current header over that commitment, signed by a trusted key. -/
structure SignedFor (X : Crates) (w : ProviiWallet) (commitment : String)
    (header : SignedCredentialHeader) : Prop where
  v : header.v = 2
  iat : 0 < header.iat
  order : header.iat ≤ header.exp
  commitment : X.b64.decode commitment.toList = .ok header.cBytes.toList
  signature : X.verifyCredV2 header.credMsg header.sigRj header.issuerVk = .ok ()
  trusted : ∃ anchor, w.issuerTrustAnchor = some anchor ∧ ∃ k ∈ anchor.keys, header.issuerVk = k.vk

/-- Such a header finalises with the fields of the commitment. -/
private theorem finalize_of_signedFor (X : Crates) (w : ProviiWallet) (header : SignedCredentialHeader)
    (commitment : String) (dobDays : Int32) (rBits : List Bool) (c : Bytes32)
    (hlen : rBits.length = rBitsLen) (hcom : X.pedersenCommitDobValidated dobDays rBits = .ok c)
    (hdec : X.b64.decode commitment.toList = .ok c.toList)
    (hsigned : SignedFor X w commitment header) :
    finalizeCredential X header dobDays rBits = .ok (header.credential dobDays rBits) := by
  have hc : c = header.cBytes := by
    have heq := hdec.symm.trans hsigned.commitment
    injection heq with heq
    exact List.Vector.toList_injective heq
  have hiat : header.iat ≠ 0 := (UInt64.ne_of_lt hsigned.iat).symm
  have hexp : header.exp ≠ 0 :=
    (UInt64.ne_of_lt (UInt64.lt_of_lt_of_le hsigned.iat hsigned.order)).symm
  rw [finalizeCredential_ok_iff X header dobDays rBits hlen]
  exact ⟨⟨hsigned.v, hiat, hexp, hsigned.order, hc ▸ hcom, hsigned.signature⟩, rfl⟩

/-- The issuer check passes. -/
private theorem checkIssuer_of_signedFor (X : Crates) (w : ProviiWallet) (header : SignedCredentialHeader)
    (commitment : String) (hsigned : SignedFor X w commitment header) :
    checkIssuer w.issuerTrustAnchor header = .ok () := by
  obtain ⟨anchor, hanchor, hk⟩ := hsigned.trusted
  rw [hanchor]
  unfold checkIssuer
  simp only [(validateIssuerVk_ok_iff header anchor).2 hk]

/-- The public record of an issued credential: the header's fields. -/
def issuedCredential (header : SignedCredentialHeader) : CredentialV2 :=
  { v := header.v, kid := header.kid, issuerVk := header.issuerVk, sigRj := header.sigRj,
    cBytes := header.cBytes, iat := header.iat, exp := header.exp, schema := header.schema,
    dobDays := none, rBits := none }

/-! ## §3. Reading the records back -/

/-- A public record that fits reads back as its credential. -/
theorem getCredential_of_stored (X : Crates) (f : Faults) (hf : f.Healthy) (kv : Kv) (id : Key)
    (now : Int64) (credential : CredentialV2) (label : Option String) (slot : CredentialSlot)
    (nickname : Option String)
    (hfits : (storedRecord now credential label slot nickname).Fits)
    (h : kv.lookup id = some (newItem now credential label slot nickname)) :
    getCredential X f id kv = .ok (some (redacted credential)) := by
  have hret : retrieve f kv id =
      .ok (encodeStored (storedRecord now credential label slot nickname)) := retrieve_healthy hf h
  unfold getCredential
  rw [hret]
  simp only [decodeStored_encodeStored _ hfits]
  rfl

/-- A secrets record reads back as its secrets. -/
theorem loadCredentialSecrets_of_stored (X : Crates) (f : Faults) (hf : f.Healthy) (kv : Kv)
    (id : Key) (secrets : CredentialSecrets) (bio : BiometricRequirement)
    (hlen : secrets.rBits.length < 2 ^ 64)
    (h : kv.lookup (secretsKeyOf id) = some ⟨encodeSecrets secrets, bio⟩) :
    loadCredentialSecrets X f id kv = .ok (some secrets) := by
  have hret : retrieve f kv (secretsKeyOf id) = .ok (encodeSecrets secrets) :=
    retrieve_healthy hf h
  unfold loadCredentialSecrets
  rw [hret]
  simp only [decodeSecrets_encodeSecrets secrets hlen]

/-! ## §4. The round trip -/

/-- **The issuance round trip.**  For 128 blinding bits, if the wallet
    takes the fields of the commitment response for them and receives a
    current header over that commitment, signed by a trusted key, then a
    finalisation into an available slot of a working backend succeeds,
    and the id it returns reads back as the header's public fields, that
    birth day and those bits. -/
theorem issuance_round_trip (X : Crates) (naiveDate : String → Except String Int)
    (rBits : List Bool) (hlen : rBits.length = rBitsLen) (input : String) (response : Json)
    (hresp : sdkIssueComputeCommitment X naiveDate rBits input = .ok response)
    (dobDays : Int32) (rBitsB64 commitment : String)
    (hfields : TakesFields response dobDays rBitsB64 commitment)
    (kv : Kv) (w : ProviiWallet) (hkv : w.storage = ⟨some kv⟩) (headerJson : String)
    (header : SignedCredentialHeader) (hparse : X.parseHeader headerJson = .ok header)
    (hsigned : SignedFor X w commitment header)
    (label : Option String) (credentialType : String) (nickname : Option String)
    (havailable : SlotAvailable kv label credentialType)
    (hkid : Codec.string.fits header.kid) (hschema : Codec.string.fits header.schema)
    (hlabel : ∀ l ∈ label, Codec.string.fits l) (hnick : ∀ n ∈ nickname, Codec.string.fits n)
    (fs : ImportFaults) (hres : fs.resolve.Healthy) (hst : fs.store.Healthy)
    (hsec : fs.secrets.Healthy) :
    ∃ id kv', finalizeAndStoreCredential X fs w headerJson dobDays rBitsB64 label credentialType
        nickname = (.ok id, ⟨some kv'⟩) ∧
      ∀ f : Faults, f.Healthy →
        getCredential X f id kv' = .ok (some (issuedCredential header)) ∧
        loadCredentialSecrets X f id kv' = .ok (some { dobDays, rBits }) := by
  obtain ⟨-, hbits, c, hcom, hdec⟩ :=
    sdkIssueComputeCommitment_ok X naiveDate rBits input response dobDays rBitsB64 commitment hresp
      hfields
  obtain ⟨slot, hslot⟩ := resolveSlot_of_available hres kv label credentialType havailable
  have hunpack : unpackBits (packBits rBits) rBitsLen = rBits := by
    rw [← hlen]
    exact unpackBits_packBits rBits
  have hfin := finalize_of_signedFor X w header commitment dobDays rBits c hlen hcom hdec hsigned
  -- the checks pass, on the bits that came back
  have hchk : finalizeChecks X fs.resolve w headerJson dobDays rBitsB64 label credentialType =
      .ok (slot, issuedCredential header, { dobDays, rBits }) := by
    refine (finalizeChecks_ok_iff ..).2 ⟨header, packBits rBits, header.credential dobDays rBits, ?_,
      hparse, checkIssuer_of_signedFor X w header commitment hsigned, hbits, ?_, rfl, ?_⟩
    · rw [hkv]
      exact hslot
    · rw [hunpack]
      exact hfin
    · rw [hunpack]
  obtain ⟨kv', hrun, hsecrets, hlook⟩ := storeWithSecrets_contents X fs hst hsec kv
    (issuedCredential header) label slot nickname (some { dobDays, rBits })
  refine ⟨newKey X (placeOf label slot) (issuedCredential header), kv', ?_, fun f hf => ⟨?_, ?_⟩⟩
  · unfold finalizeAndStoreCredential
    rw [hchk, hkv]
    exact hrun
  · have hne := (secretsKeyOf_newKey_ne X (placeOf label slot) (issuedCredential header)).symm
    have hpublic := hlook _ hne
    rw [if_pos rfl] at hpublic
    exact getCredential_of_stored X f hf kv' _ fs.now (issuedCredential header) label slot nickname
      (storedRecord_fits fs.now (issuedCredential header) label slot nickname hkid hschema hlabel
        hnick) hpublic
  · refine loadCredentialSecrets_of_stored X f hf kv' _ { dobDays, rBits } _ ?_ hsecrets
    rw [hlen]
    decide

/-! ## §5. An issuance -/

/-- The blinding bits of the example. -/
def drawnBits : List Bool := List.replicate rBitsLen true

/-- The texts of the packed bits and of the zero commitment. -/
def drawnBitsB64 : String := String.ofList (Base64Url.rfc4648.encode (packBits drawnBits))
def zeroCommitmentB64 : String := String.ofList (Base64Url.rfc4648.encode (zeroBytes 32).toList)

/-- The commitment response for day 19000. -/
def sampleResponse : Json :=
  .obj [("dob_days", .num (int32Text 19000)), ("r_bits", .str drawnBitsB64),
    ("commitment", .str zeroCommitmentB64)]

private theorem sampleResponse_eq (naiveDate : String → Except String Int) :
    sdkIssueComputeCommitment sampleCrates naiveDate drawnBits "19000" = .ok sampleResponse := by
  have hdob : parseDob naiveDate "19000" = .ok 19000 := by
    unfold parseDob
    rw [if_neg (by decide)]
    rfl
  unfold sdkIssueComputeCommitment
  rw [hdob]
  rfl

/-- A wallet on an empty backend that trusts the sample header's issuer. -/
def issuingWallet : ProviiWallet :=
  { storage := ⟨some ∅⟩
    issuerTrustAnchor := some { keys := [⟨"provii:issuer", zeroBytes 32⟩], fetchedAt := 0 } }

/-- The round trip of that response into the primary slot. -/
theorem issuance_round_trip_sample :
    ∃ id kv', finalizeAndStoreCredential sampleCrates
        { resolve := .never, store := .never, secrets := .never, now := 0 } issuingWallet
        sampleHeaderJson 19000 drawnBitsB64 none "primary" none = (.ok id, ⟨some kv'⟩) ∧
      ∀ f : Faults, f.Healthy →
        getCredential sampleCrates f id kv' = .ok (some (issuedCredential sampleHeader)) ∧
        loadCredentialSecrets sampleCrates f id kv' =
          .ok (some { dobDays := 19000, rBits := drawnBits }) := by
  have hsigned : SignedFor sampleCrates issuingWallet zeroCommitmentB64 sampleHeader := by
    refine ⟨rfl, by decide, by decide, ?_, rfl, _, rfl, _, List.mem_singleton_self _, rfl⟩
    show Base64Url.rfc4648.decode zeroCommitmentB64.toList = _
    unfold zeroCommitmentB64
    rw [String.toList_ofList, Base64Url.rfc4648.decode_encode]
    rfl
  have hparse : sampleCrates.parseHeader sampleHeaderJson = .ok sampleHeader := by
    decide +kernel
  refine issuance_round_trip sampleCrates (fun _ => .error "input contains invalid characters")
    drawnBits List.length_replicate "19000" sampleResponse (sampleResponse_eq _) 19000 drawnBitsB64
    zeroCommitmentB64 ⟨rfl, rfl, rfl⟩ ∅ issuingWallet rfl sampleHeaderJson sampleHeader
    hparse hsigned none "primary" none (Or.inl rfl) ?_ ?_ ?_ ?_ _ Faults.never_healthy
    Faults.never_healthy Faults.never_healthy
  · show (Wire.utf8 "provii:issuer").length < 2 ^ 64
    decide
  · show (Wire.utf8 "provii.age/0").length < 2 ^ 64
    decide
  · intro l hl
    cases hl
  · intro n hn
    cases hn

end ProviiSdk.Wallet
