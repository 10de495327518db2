/-
  ProviiSdk.Wallet.SlotProofs — what the slot table says about proofs.

  The slot table holds, for every place, the credential the last import
  put there with its private fields.  The store keeps the public fields
  under one key and the private ones under another; listing, choosing and
  proving read them through the storage, each in its own way.  Over any
  run on an answering backend they all say what the table says: a
  credential is listed as able to prove exactly when its import brought
  secrets and it has not expired, the automatic choice is the only such
  credential of the environment, and a proof is built from exactly the
  credential that was imported.

  Main results:
    * `secretsKept_step` — the secrets records stay those of the table.
    * `listed_of_slotInv`, `autoCredential_iff`, `request_iff` — the three
      answers, from the table.
    * `slot_proofs` — in every state of every run.
-/

import ProviiSdk.Wallet.EndToEnd
import ProviiSdk.Wallet.SlotCapacity

namespace ProviiSdk.Wallet

open ProviiSdk.Core ProviiSdk.Platform ProviiSdk.Ffi ProviiSdk.Run ProviiSdk.Check
open ProviiSdk.BoundedCache
open ProviiSdk.Wire (Codec)

variable {Params : Type}

/-! ## §1. Secrets of the table -/

/-- The secrets record of a credential with private fields. -/
def secretsItem (credential : CredentialV2) : Option Item :=
  (takeSecrets credential).map fun secrets =>
    ⟨encodeSecrets secrets, BiometricRequirement.forCredentialSecrets⟩

/-- The secrets records of a store are those of the table, and short
    enough to be Rust vectors. -/
def SecretsKept (s : SlotState) : Prop :=
  ∀ p x, s.table p = some x →
    recordAt s.storage (secretsKeyOf x.id) = secretsItem x.credential ∧
      ∀ r ∈ x.credential.rBits, r.length < 2 ^ 64

/-- An operation is well addressed: the id of a deletion or a renaming is
    a public credential key, and the blinding bits of an import are a Rust
    vector. -/
def SlotOp.WellAddressed (X : Crates) : SlotOp → Prop
  | .importCall call anchor _ =>
    ∀ credential, call.imported X anchor = .ok credential → ∀ r ∈ credential.rBits, r.length < 2 ^ 64
  | .deleteCredential _ id => isCredentialKey id = true
  | .updateCredentialNickname _ id _ => isCredentialKey id = true
  | _ => True

/-- The secrets a call writes are those of the credential it imports. -/
theorem prepare_secrets {X : Crates} {anchor : Option IssuerTrustAnchor} {call : ImportCall}
    {credential : CredentialV2} {secrets : Option CredentialSecrets}
    (h : call.prepare X anchor = .ok (credential, secrets)) :
    ∃ full, call.imported X anchor = .ok full ∧ credential = redacted full ∧
      secrets = takeSecrets full := by
  obtain ⟨full, himported, hredacted⟩ := prepare_imported h
  refine ⟨full, himported, hredacted, ?_⟩
  have hdocument : ∀ json, ImportCall.parseDocument X json = .ok (credential, secrets) →
      (X.parseCredential json).mapError FfiError.invalidFormat = .ok full →
      secrets = takeSecrets full := by
    intro json hparsed himp
    unfold ImportCall.parseDocument at hparsed
    cases hparse : X.parseCredential json with
    | error e =>
      rw [hparse] at hparsed
      cases hparsed
    | ok parsed =>
      rw [hparse] at hparsed himp
      injection hparsed with hparsed
      injection hparsed with _ hsecrets
      injection himp with himp
      rw [← hsecrets, himp]
  cases call with
  | importCredential json => exact hdocument json h himported
  | importCredentialWithType json type nickname => exact hdocument json h himported
  | storeCredentialWithLabel json label type nickname => exact hdocument json h himported
  | storeCredential json => exact hdocument json h himported
  | finalizeAndStoreCredential c =>
    unfold ImportCall.prepare at h
    unfold ImportCall.imported at himported
    cases hprep : prepareFinalized X anchor c.headerJson c.dobDays c.rBitsB64 with
    | error e =>
      simp only [hprep] at h
      cases h
    | ok r =>
      simp only [hprep] at h himported
      injection h with h
      injection h with _ hsecrets
      injection himported with himported
      rw [← hsecrets, ← himported]
      rfl

/-- The id of a filling is a record's key of its place. -/
theorem SlotInv.key {s : SlotState} (h : SlotInv s) {p : Place} {x : Filling}
    (hx : s.table p = some x) : ∃ b, x.id = recordKey p .cred b := by
  obtain ⟨kv, -, hrep⟩ := h
  exact (hrep.stored p x hx).1

/-- A filling whose secrets record is not reached keeps it. -/
private theorem kept_of_unreached (X : Crates) {s : SlotState} {op : SlotOp} {p : Place}
    {x : Filling} (hkept : SecretsKept s) (hx : s.table p = some x)
    (hop : ¬ op.Reaches X s.storage (secretsKeyOf x.id)) :
    recordAt (storageAfter X s.storage op) (secretsKeyOf x.id) = secretsItem x.credential := by
  rw [recordAt_untouched X s.storage op _ hop]
  exact (hkept p x hx).1

/-- An import writes its secrets, and keeps those of every other place. -/
private theorem secretsKept_import (X : Crates) {s : SlotState} (hs : SlotInv s)
    (hkept : SecretsKept s) (call : ImportCall) (anchor : Option IssuerTrustAnchor)
    (fs : ImportFaults) (hop : (SlotOp.importCall call anchor fs).Answered X)
    (haddr : (SlotOp.importCall call anchor fs).WellAddressed X) :
    SecretsKept (slotStep X s (.importCall call anchor fs)) := by
  obtain ⟨storage, t⟩ := s
  obtain ⟨kv, rfl, hrep⟩ := id hs
  obtain ⟨-, hst, hsec, -⟩ := hop
  unfold SecretsKept slotStep
  show ∀ p x, t.fill call.label (call.resolve fs.resolve ⟨some kv⟩) (call.imported X anchor)
      (call.run X fs ⟨⟨some kv⟩, anchor⟩).1 p = some x →
    recordAt (call.run X fs ⟨⟨some kv⟩, anchor⟩).2 (secretsKeyOf x.id) = _ ∧ _
  rw [ImportCall.run_eq]
  unfold ImportCall.stages
  cases hslot : call.resolve fs.resolve ⟨some kv⟩ with
  | error e => exact hkept
  | ok slot =>
    cases hprep : call.prepare X anchor with
    | error e =>
      -- nothing was written, so nothing is filled
      intro p x hx
      refine hkept p x ?_
      rw [← hx]
      cases call.imported X anchor <;> rfl
    | ok r =>
      obtain ⟨credential, secrets⟩ := r
      obtain ⟨full, himported, rfl, rfl⟩ := prepare_secrets hprep
      obtain ⟨kv', hrun, hsecrets, hlook⟩ := storeWithSecrets_contents X fs hst hsec kv
        (redacted full) call.label slot call.nickname (takeSecrets full)
      show ∀ p x, t.fill call.label (.ok slot) (call.imported X anchor)
          (storeWithSecrets X fs ⟨some kv⟩ (redacted full) call.label slot call.nickname
            (takeSecrets full)).1 p = some x →
        recordAt (storeWithSecrets X fs ⟨some kv⟩ (redacted full) call.label slot call.nickname
          (takeSecrets full)).2 (secretsKeyOf x.id) = _ ∧ _
      rw [hrun, himported]
      intro p x hx
      have hx' : Function.update t (placeOf call.label slot)
          (some ⟨newKey X (placeOf call.label slot) (redacted full), full⟩) p = some x := hx
      by_cases hp : p = placeOf call.label slot
      · rw [hp, Function.update_self] at hx'
        injection hx' with hx'
        rw [← hx']
        exact ⟨hsecrets, haddr full himported⟩
      · have hold : t p = some x := by
          rwa [Function.update_of_ne hp] at hx'
        obtain ⟨b, hb⟩ := SlotInv.key hs hold
        have hother : inSlot (placeOf call.label slot) (secretsKeyOf x.id) = false := by
          rw [hb, secretsKeyOf_recordKey, inSlot_recordKey, decide_eq_false_iff_not]
          exact Ne.symm hp
        refine ⟨?_, (hkept p x hold).2⟩
        rw [← (hkept p x hold).1]
        have hframe := storeWithSecrets_untouched X fs ⟨some kv⟩ (redacted full) call.label slot
          call.nickname (takeSecrets full) (secretsKeyOf x.id) hother
        rwa [hrun] at hframe

/-- What a deletion, a renaming, a sweep or a cleanup leaves in the table
    keeps its secrets, if the operation does not reach their record. -/
private theorem secretsKept_left (X : Crates) {s : SlotState} (hkept : SecretsKept s) (op : SlotOp)
    (hstorage : (slotStep X s op).storage = storageAfter X s.storage op)
    (hleft : ∀ p x, (slotStep X s op).table p = some x →
      s.table p = some x ∧ ¬ op.Reaches X s.storage (secretsKeyOf x.id)) :
    SecretsKept (slotStep X s op) := by
  intro p x hx
  obtain ⟨hold, hunreached⟩ := hleft p x hx
  rw [hstorage]
  exact ⟨kept_of_unreached X hkept hold hunreached, (hkept p x hold).2⟩

/-- No public key reaches the secrets of another filling. -/
private theorem secrets_unreached {s : SlotState} (hs : SlotInv s) {p : Place} {x : Filling}
    (hx : s.table p = some x) {id : Key} (hid : isCredentialKey id = true) (hne : x.id ≠ id) :
    ¬ (secretsKeyOf x.id = id ∨ secretsKeyOf x.id = secretsKeyOf id) := by
  obtain ⟨b, hb⟩ := hs.key hx
  rintro (hsame | hsame)
  · rw [← hsame, isCredentialKey_secretsKeyOf] at hid
    cases hid
  · rw [hb] at hsame hne
    exact hne (public_of_secretsKeyOf hid p b hsame.symm).symm

/-- **One step**: the secrets records stay those of the table. -/
theorem secretsKept_step (X : Crates) (s : SlotState) (op : SlotOp) (hs : SlotInv s)
    (hkept : SecretsKept s) (hop : op.Answered X) (haddr : op.WellAddressed X) :
    SecretsKept (slotStep X s op) := by
  cases op with
  | importCall call anchor fs => exact secretsKept_import X hs hkept call anchor fs hop haddr
  | deleteCredential f id =>
    refine secretsKept_left X hkept _ rfl fun p x hx => ?_
    obtain ⟨hold, hne⟩ := (drop_eq_some_iff ..).1 hx
    exact ⟨hold, secrets_unreached hs hold haddr (ne_of_beq_false hne)⟩
  | deleteSandbox f =>
    refine secretsKept_left X hkept _ rfl fun p x hx => ?_
    have hx' : (if p.ns = .sandbox then none else s.table p) = some x := hx
    split at hx'
    next => cases hx'
    next hns =>
      obtain ⟨b, hb⟩ := hs.key hx'
      refine ⟨hx', ?_⟩
      show ¬ inNamespace .sandbox (secretsKeyOf x.id) = true
      rw [hb, secretsKeyOf_recordKey, inNamespace_sandbox_recordKey, decide_eq_true_iff]
      exact hns
  | updateCredentialNickname f id nickname =>
    refine secretsKept_left X hkept _ rfl fun p x hx => ⟨hx, ?_⟩
    intro hsame
    have hpublic : isCredentialKey (secretsKeyOf x.id) = true := hsame ▸ haddr
    rw [isCredentialKey_secretsKeyOf] at hpublic
    cases hpublic
  | cleanupExpiredCredentials f clock fd =>
    refine secretsKept_left X hkept _ rfl fun p x hx => ?_
    obtain ⟨hold, hlive⟩ := (drop_eq_some_iff ..).1 hx
    refine ⟨hold, ?_⟩
    obtain ⟨storage, t⟩ := s
    obtain ⟨kv, rfl, hrep⟩ := id hs
    rintro ⟨infos, hlist, info, hinfo, hexpired, hkey⟩
    have hentry := listEntry_of_listCredentials hlist info hinfo
    -- a listed credential with these secrets is this one, and it is live
    by_cases hid : x.id = info.id
    · obtain ⟨item, stored, hitem, hdecode, hjudged⟩ := listEntry_record hentry
      obtain ⟨-, bio, stored', hlook, hfits, hcred⟩ := hrep.stored p x hold
      rw [← hid] at hitem hjudged
      have hsame := decoded_unique hitem hdecode hlook (decodeStored_encodeStored stored' hfits)
      have hexp : stored.credential.exp = x.credential.exp := by
        rw [hsame]
        show (redacted stored'.credential).exp = _
        rw [hcred]
        rfl
      rw [hjudged, hexp] at hexpired
      rw [hexpired] at hlive
      cases hlive
    · exact secrets_unreached hs hold (listEntry_eq_some hentry).2 hid hkey

/-! ## §2. The listing -/

/-- How a listing has to show the credential of a slot. -/
structure Shows (clock : Key → Int64) (x : Filling) (info : CredentialInfo) : Prop where
  id : info.id = x.id
  expired : info.isExpired = decide (x.credential.exp < nowSecs (clock x.id))
  canProve : info.canProve = (!info.isExpired && (takeSecrets x.credential).isSome)

/-- The ids of a listing have no repetition. -/
theorem listCredentials_nodup {f : Faults} {clock : Key → Int64} {kv : Kv}
    {infos : List CredentialInfo} (h : listCredentials f clock kv = .ok infos) :
    (infos.map fun info => info.id).Nodup := by
  unfold listCredentials at h
  cases hl : listKeys f kv with
  | error e =>
    rw [hl] at h
    cases h
  | ok keys =>
    rw [hl] at h
    injection h with h
    have hkeys : keys.Nodup := by
      unfold listKeys at hl
      split at hl
      · cases hl
      · injection hl with hl
        rw [← hl]
        exact f.listing.nodup_order kv
    rw [← h]
    -- each id is the key it comes from
    have hids : ∀ ks : List Key,
        ((ks.filterMap (listEntry f clock kv)).map fun info => info.id).Sublist ks := by
      intro ks
      induction ks with
      | nil => exact List.Sublist.refl _
      | cons k ks ih =>
        cases hentry : listEntry f clock kv k with
        | none =>
          rw [List.filterMap_cons_none hentry]
          exact ih.cons k
        | some info =>
          rw [List.filterMap_cons_some hentry, List.map_cons, (listEntry_eq_some hentry).1]
          exact ih.cons_cons k
    exact (hids keys).nodup hkeys

/-- The listing shows a filling of the table as the table says. -/
private theorem listEntry_of_filling {s : SlotState} {kv : Kv} (hstorage : s.storage = ⟨some kv⟩)
    (hrep : Represents s.table kv) (hkept : SecretsKept s) {f : Faults} (hf : f.Healthy)
    (clock : Key → Int64) {p : Place} {x : Filling} (hx : s.table p = some x) :
    ∃ info, listEntry f clock kv x.id = some info ∧ Shows clock x info := by
  obtain ⟨⟨b, hb⟩, bio, stored, hlook, hfits, hcred⟩ := hrep.stored p x hx
  have hsecrets := (hkept p x hx).1
  rw [hstorage] at hsecrets
  have hpublic : isCredentialKey x.id = true := by
    rw [hb]
    exact isCredentialKey_recordKey p .cred b
  have hhas : exists? f kv (secretsKeyOf x.id) = .ok (takeSecrets x.credential).isSome := by
    unfold exists?
    rw [hf.has]
    show Except.ok (recordAt ⟨some kv⟩ (secretsKeyOf x.id)).isSome = _
    rw [hsecrets]
    unfold secretsItem
    rw [Option.isSome_map]
  have hexp : (redacted stored.credential).exp = x.credential.exp := by
    rw [hcred]
    rfl
  unfold listEntry
  rw [if_pos hpublic, retrieve_healthy hf hlook]
  simp only [decodeStored_encodeStored stored hfits, Option.map_some, hhas]
  refine ⟨_, rfl, rfl, ?_, ?_⟩
  · show decide ((redacted stored.credential).exp < nowSecs (clock x.id)) = _
    rw [hexp]
  · rfl

/-- **The listing, from the table**: it lists every filling once, and
    nothing else, and shows each as the table says. -/
theorem listed_of_slotInv {s : SlotState} (hs : SlotInv s) (hkept : SecretsKept s) {f : Faults}
    (hf : f.Healthy) (clock : Key → Int64) :
    ∃ infos, s.storage.read (listCredentials f clock) = .ok infos ∧
      (infos.map fun info => info.id).Nodup ∧
      (∀ info ∈ infos, ∃ p x, s.table p = some x ∧ Shows clock x info) ∧
      ∀ p x, s.table p = some x → ∃ info ∈ infos, Shows clock x info := by
  obtain ⟨kv, hstorage, hrep⟩ := id hs
  have hkeys := listKeys_healthy hf kv
  have hlist : listCredentials f clock kv =
      .ok ((f.listing.order kv.keys).filterMap (listEntry f clock kv)) := by
    unfold listCredentials
    rw [hkeys]
  refine ⟨_, ?_, listCredentials_nodup hlist, ?_, ?_⟩
  · rw [hstorage]
    exact hlist
  · intro info hinfo
    obtain ⟨key, hkey, hentry⟩ := List.mem_filterMap.1 hinfo
    rw [mem_listKeys hkeys, ← Option.ne_none_iff_isSome] at hkey
    obtain ⟨hid, hpublic⟩ := listEntry_eq_some hentry
    obtain ⟨p, kind, b, hrecord, -⟩ := hrep.keys key hkey
    cases kind with
    | credsec =>
      rw [hrecord, ← secretsKeyOf_recordKey, isCredentialKey_secretsKeyOf] at hpublic
      cases hpublic
    | cred =>
      rw [hrecord] at hkey
      obtain ⟨x, hx, hxid⟩ := hrep.held p b hkey
      obtain ⟨shown, hshown, hshows⟩ := listEntry_of_filling hstorage hrep hkept hf clock hx
      rw [hxid, ← hrecord, hentry] at hshown
      injection hshown with hshown
      exact ⟨p, x, hx, hshown ▸ hshows⟩
  · intro p x hx
    obtain ⟨info, hentry, hshows⟩ := listEntry_of_filling hstorage hrep hkept hf clock hx
    refine ⟨info, List.mem_filterMap.2 ⟨x.id, ?_, hentry⟩, hshows⟩
    obtain ⟨-, bio, stored, hlook, -⟩ := hrep.stored p x hx
    rw [mem_listKeys hkeys, hlook]
    rfl

/-! ## §3. The automatic choice -/

/-- The credential of a slot can prove in an environment: it is of the
    environment, its import brought both private fields, and it has not
    expired. -/
structure Usable (config : WalletConfig) (clock : Key → Int64) (t : SlotTable) (p : Place)
    (x : Filling) : Prop where
  filled : t p = some x
  environment : p.ns = configuredNamespace config
  live : nowSecs (clock x.id) ≤ x.credential.exp
  secrets : (takeSecrets x.credential).isSome = true

/-- **The credentials offered for a proof, from the table**: those of the
    environment that can prove, each once. -/
theorem provable_of_slotInv {s : SlotState} (hs : SlotInv s) (hkept : SecretsKept s)
    (env : ListEnv) (henv : env.storage = s.storage) (hf : env.list.Healthy)
    (config : WalletConfig) :
    ∃ infos, provableCredentials env config = .ok infos ∧
      (infos.map fun info => info.id).Nodup ∧
      ∀ id, (∃ info ∈ infos, info.id = id) ↔
        ∃ p x, Usable config env.clock s.table p x ∧ x.id = id := by
  obtain ⟨infos, hlist, hnodup, hlisted, hall⟩ := listed_of_slotInv hs hkept hf env.clock
  have hoffered : ∀ p x info, s.table p = some x → Shows env.clock x info →
      ((inEnvironment config info.id && info.canProve) = true ↔
        Usable config env.clock s.table p x) := by
    intro p x info hx hshows
    obtain ⟨b, hb⟩ := hs.key hx
    rw [hshows.id, hshows.canProve, hshows.expired, hb, inEnvironment_recordKey, ← hb]
    simp only [Bool.and_eq_true, decide_eq_true_eq, Bool.not_eq_true', decide_eq_false_iff_not,
      UInt64.not_lt]
    constructor
    · rintro ⟨hns, hlive, hsecrets⟩
      exact ⟨hx, hns, hlive, hsecrets⟩
    · intro h
      exact ⟨h.environment, h.live, h.secrets⟩
  refine ⟨infos.filter fun c => inEnvironment config c.id && c.canProve, ?_, ?_, ?_⟩
  · unfold provableCredentials
    rw [henv, hlist]
    rfl
  · exact ((List.filter_sublist ..).map _).nodup hnodup
  · intro id
    constructor
    · rintro ⟨info, hinfo, rfl⟩
      obtain ⟨hmem, hcan⟩ := List.mem_filter.1 hinfo
      obtain ⟨p, x, hx, hshows⟩ := hlisted info hmem
      exact ⟨p, x, (hoffered p x info hx hshows).1 hcan, hshows.id.symm⟩
    · rintro ⟨p, x, husable, rfl⟩
      obtain ⟨info, hmem, hshows⟩ := hall p x husable.filled
      exact ⟨info, List.mem_filter.2 ⟨hmem, (hoffered p x info husable.filled hshows).2 husable⟩,
        hshows.id⟩

/-- The only element of a list without repeated ids. -/
private theorem eq_singleton_iff {infos : List CredentialInfo}
    (hnodup : (infos.map fun info => info.id).Nodup) (id : Key) :
    (∃ info, infos = [info] ∧ info.id = id) ↔
      (∃ info ∈ infos, info.id = id) ∧ ∀ info ∈ infos, info.id = id := by
  constructor
  · rintro ⟨info, rfl, hid⟩
    refine ⟨⟨info, List.mem_singleton_self _, hid⟩, ?_⟩
    intro other hother
    rw [List.mem_singleton.1 hother]
    exact hid
  · rintro ⟨⟨info, hmem, hid⟩, hall⟩
    cases infos with
    | nil => cases hmem
    | cons first rest =>
      cases rest with
      | nil => exact ⟨first, rfl, hall first (List.mem_cons_self ..)⟩
      | cons second rest =>
        have hsame : first.id = second.id := by
          rw [hall first (List.mem_cons_self ..),
            hall second (List.mem_cons_of_mem _ (List.mem_cons_self ..))]
        simp only [List.map_cons, List.nodup_cons, hsame, List.mem_cons, true_or,
          not_true_eq_false, false_and] at hnodup

/-- **The automatic choice, from the table**: a credential is chosen
    exactly when the challenge is cached and it is the only one of the
    environment that can prove. -/
theorem autoCredential_iff (X : WalletCrates Params) {s : SlotState} (hs : SlotInv s)
    (hkept : SecretsKept s) (env : ListEnv) (henv : env.storage = s.storage)
    (hf : env.list.Healthy) (config : WalletConfig) (challengeId : String) (session : Session)
    (id : Key) :
    autoCredential X env config challengeId session = .ok id ↔
      (session.cachedChallenges.lookup challengeId).isSome = true ∧
        (∃ p x, Usable config env.clock s.table p x ∧ x.id = id) ∧
        ∀ p x, Usable config env.clock s.table p x → x.id = id := by
  obtain ⟨infos, hprovable, hnodup, hmem⟩ := provable_of_slotInv hs hkept env henv hf config
  have honly : (∃ info, infos = [info] ∧ info.id = id) ↔
      (∃ p x, Usable config env.clock s.table p x ∧ x.id = id) ∧
        ∀ p x, Usable config env.clock s.table p x → x.id = id := by
    rw [eq_singleton_iff hnodup, hmem]
    refine and_congr_right fun _ => ?_
    constructor
    · intro hall p x husable
      obtain ⟨info, hinfo, hid⟩ := (hmem x.id).2 ⟨p, x, husable, rfl⟩
      rw [← hid]
      exact hall info hinfo
    · intro hall info hinfo
      obtain ⟨p, x, husable, hid⟩ := (hmem info.id).1 ⟨info, hinfo, rfl⟩
      rw [← hid]
      exact hall p x husable
  rw [← honly]
  unfold autoCredential
  cases hcached : session.cachedChallenges.lookup challengeId with
  | none =>
    constructor
    · intro h
      cases h
    · intro h
      cases h.1
  | some entry =>
    simp only [okOr_some, ok_bind, hprovable, Option.isSome_some, true_and]
    -- the match of the source: none, one, or several
    cases infos with
    | nil => simp
    | cons first rest =>
      cases rest with
      | nil => simp
      | cons second rest => simp

/-! ## §4. The proof -/

/-- Every record key has a dot. -/
private theorem dot_mem_recordKey (p : Place) (kind : RecordKind) (b : BaseId) :
    '.' ∈ recordKey p kind b := by
  have hstem : ∀ sandbox managed kind, '.' ∈ stem sandbox managed kind := by
    intro sandbox managed kind
    cases sandbox <;> cases managed <;> cases kind <;> decide
  unfold recordKey
  rw [recordPrefix_eq, List.append_assoc]
  exact List.mem_append_left _ (hstem _ _ _)

/-- A credential with its private fields is the redacted one with its
    secrets put back. -/
private theorem restored {credential : CredentialV2} {secrets : CredentialSecrets}
    (h : takeSecrets credential = some secrets) :
    { redacted credential with
      dobDays := some secrets.dobDays, rBits := some secrets.rBits } = credential := by
  obtain ⟨v, issuerVk, sigRj, cBytes, kid, schema, iat, exp, dobDays, rBits⟩ := credential
  cases dobDays with
  | none => cases h
  | some d =>
    cases rBits with
    | none => cases h
    | some r =>
      injection h with h
      rw [← h]
      rfl

private theorem rBits_of_takeSecrets {credential : CredentialV2} {secrets : CredentialSecrets}
    (h : takeSecrets credential = some secrets) : secrets.rBits ∈ credential.rBits := by
  unfold takeSecrets at h
  split at h
  next d r _ hbits =>
    injection h with h
    rw [← h]
    exact hbits
  next => cases h

/-- The credential of an id with a secrets record is one of the table. -/
private theorem filling_of_records {s : SlotState} {kv : Kv} (hstorage : s.storage = ⟨some kv⟩)
    (hrep : Represents s.table kv) (hkept : SecretsKept s) {id : Key} {item item' : Item}
    {stored : StoredCredential} {secrets : CredentialSecrets} (hitem : kv.lookup id = some item)
    (hdecode : decodeStored item.data = some stored)
    (hitem' : kv.lookup (secretsKeyOf id) = some item')
    (hdecode' : decodeSecrets item'.data = some secrets) :
    ∃ p x, s.table p = some x ∧ x.id = id ∧ takeSecrets x.credential = some secrets ∧
      stored.credential = redacted x.credential := by
  -- the secrets record is that of a place, so the id is its public key
  obtain ⟨p₀, kind₀, b₀, hid₀, -⟩ := hrep.keys id (hitem ▸ Option.some_ne_none item)
  obtain ⟨p, kind, b, hsec, -⟩ :=
    hrep.keys (secretsKeyOf id) (hitem' ▸ Option.some_ne_none item')
  have hkind : kind = .credsec := by
    cases kind with
    | credsec => rfl
    | cred =>
      have hpublic := isCredentialKey_secretsKeyOf id
      rw [hsec, isCredentialKey_recordKey] at hpublic
      cases hpublic
  rw [hkind, ← secretsKeyOf_recordKey] at hsec
  have hid : id = recordKey p .cred b :=
    recordKey_of_secretsKeyOf (hid₀ ▸ dot_mem_recordKey p₀ kind₀ b₀) p b hsec
  have hstoredKey : kv.lookup (recordKey p .cred b) ≠ none := by
    rw [← hid, hitem]
    exact Option.some_ne_none item
  obtain ⟨x, hx, hxid⟩ := hrep.held p b hstoredKey
  rw [← hid] at hxid
  obtain ⟨-, bio, kept, hlook, hfits, hredacted⟩ := hrep.stored p x hx
  obtain ⟨hsecrets, hlen⟩ := hkept p x hx
  rw [hxid] at hlook
  rw [hxid, hstorage] at hsecrets
  have hsame := decoded_unique hitem hdecode hlook (decodeStored_encodeStored kept hfits)
  have hwritten : secretsItem x.credential = some item' := hsecrets.symm.trans hitem'
  obtain ⟨taken, htaken, hencoded⟩ := Option.map_eq_some_iff.1 hwritten
  refine ⟨p, x, hx, hxid, ?_, ?_⟩
  · have hbits : taken.rBits.length < 2 ^ 64 := hlen _ (rBits_of_takeSecrets htaken)
    rw [← hencoded, decodeSecrets_encodeSecrets taken hbits] at hdecode'
    rw [htaken, hdecode']
  · rw [hsame, ← hredacted]

/-- **What a proof starts from, from the table**: exactly the credentials
    that were imported with both private fields load, and each loads as
    it was imported. -/
theorem credentialWithSecrets_iff (X : WalletCrates Params) {s : SlotState} (hs : SlotInv s)
    (hkept : SecretsKept s) (env : ProofEnv Params) (henv : env.storage = s.storage)
    (hget : env.get.Healthy) (hload : env.load.Healthy) (credentialId : Key) (cred : CredentialV2) :
    credentialWithSecrets X env credentialId = .ok cred ↔
      ∃ p, s.table p = some ⟨credentialId, cred⟩ ∧ (takeSecrets cred).isSome = true := by
  obtain ⟨kv, hstorage, hrep⟩ := hs
  constructor
  · intro h
    obtain ⟨kv', item, stored, item', secrets, hbackend, hitem, hdecode, hitem', hdecode', rfl⟩ :=
      credentialWithSecrets_ok h
    rw [henv, hstorage] at hbackend
    injection hbackend with hbackend
    subst hbackend
    obtain ⟨p, ⟨xid, credential⟩, hx, rfl, htaken, hpublic⟩ :=
      filling_of_records hstorage hrep hkept hitem hdecode hitem' hdecode'
    rw [hpublic, restored htaken]
    refine ⟨p, hx, ?_⟩
    rw [htaken]
    rfl
  · rintro ⟨p, hx, hsome⟩
    obtain ⟨secrets, htaken⟩ := Option.isSome_iff_exists.1 hsome
    obtain ⟨-, bio, kept, hlook, hfits, hredacted⟩ := hrep.stored p _ hx
    obtain ⟨hsecrets, hlen⟩ := hkept p _ hx
    have hitem : kv.lookup (secretsKeyOf credentialId) =
        some ⟨encodeSecrets secrets, BiometricRequirement.forCredentialSecrets⟩ := by
      rw [hstorage] at hsecrets
      have hwritten : secretsItem cred =
          some ⟨encodeSecrets secrets, BiometricRequirement.forCredentialSecrets⟩ := by
        unfold secretsItem
        rw [htaken]
        rfl
      exact hsecrets.trans hwritten
    have hread : getCredential X.toCrates env.get credentialId kv = .ok (some (redacted cred)) := by
      unfold getCredential
      rw [retrieve_healthy hget hlook]
      simp only [decodeStored_encodeStored kept hfits, hredacted]
    have hloaded : loadCredentialSecrets X.toCrates env.load credentialId kv = .ok (some secrets) := by
      unfold loadCredentialSecrets
      rw [retrieve_healthy hload hitem]
      simp only [decodeSecrets_encodeSecrets secrets (hlen _ (rBits_of_takeSecrets htaken))]
    unfold credentialWithSecrets
    rw [henv, hstorage]
    simp only [read_some, hread, hloaded]
    show Except.ok { redacted cred with
      dobDays := some secrets.dobDays, rBits := some secrets.rBits } = _
    rw [restored htaken]

/-- **The proof, from the table**: a request with an id is built exactly
    when the challenge is cached and the core crate builds one from the
    credential imported under that id, which has not expired. -/
theorem request_iff (X : WalletCrates Params) {s : SlotState} (hs : SlotInv s)
    (hkept : SecretsKept s) (env : ProofEnv Params) (henv : env.storage = s.storage)
    (hget : env.get.Healthy) (hload : env.load.Healthy) (credentialId : Key) (challengeId : String)
    (cached : Cache String CachedChallenge) :
    (∃ r, ageProofRequest X env credentialId challengeId cached = .ok r) ↔
      ∃ p cred entry, s.table p = some ⟨credentialId, cred⟩ ∧
        cached.lookup challengeId = some entry ∧ unixSecs env.now ≤ cred.exp ∧
        Requestable X.toProverCrates env.thread env.prover (unixSecs env.buildNow) cred
          entry.payload := by
  simp only [ageProofRequest_ok_iff, credentialWithSecrets_iff X hs hkept env henv hget hload]
  constructor
  · rintro ⟨r, entry, cred, hentry, ⟨p, hx, -⟩, hlive, hbuilt⟩
    exact ⟨p, cred, entry, hx, hentry, UInt64.not_lt.1 hlive, (buildVerifyRequest_iff ..).1 ⟨r, hbuilt⟩⟩
  · rintro ⟨p, cred, entry, hx, hentry, hlive, hrequestable⟩
    obtain ⟨r, hbuilt⟩ := (buildVerifyRequest_iff ..).2 hrequestable
    refine ⟨r, entry, cred, hentry, ⟨p, hx, ?_⟩, UInt64.not_lt.2 hlive, hbuilt⟩
    -- the checks before the prover need both private fields
    obtain ⟨-, params, dobDays, rBits, rp, proof, hchecked, -⟩ := hrequestable
    unfold takeSecrets
    rw [hchecked.hasDobDays, hchecked.hasRBits]
    rfl

/-! ## §5. Whole runs -/

/-- **The property** of a state: on working reads, the listing, the
    automatic choice and the proof answer from the table. -/
structure AnswersFromTable (X : WalletCrates Params) (s : SlotState) : Prop where
  /-- Every slot's credential is listed once, and nothing else is; it can
      prove if its import brought secrets and it has not expired. -/
  listed : ∀ f clock, f.Healthy → ∃ infos, s.storage.read (listCredentials f clock) = .ok infos ∧
    (infos.map fun info => info.id).Nodup ∧
    (∀ info ∈ infos, ∃ p x, s.table p = some x ∧ Shows clock x info) ∧
    ∀ p x, s.table p = some x → ∃ info ∈ infos, Shows clock x info
  /-- The automatic choice is the only usable one of the environment. -/
  chosen : ∀ (env : ListEnv) config challengeId session id, env.storage = s.storage →
    env.list.Healthy →
      (autoCredential X env config challengeId session = .ok id ↔
        (session.cachedChallenges.lookup challengeId).isSome = true ∧
          (∃ p x, Usable config env.clock s.table p x ∧ x.id = id) ∧
          ∀ p x, Usable config env.clock s.table p x → x.id = id)
  /-- A request is built from exactly the credential that was imported. -/
  proved : ∀ (env : ProofEnv Params) id challengeId (cached : Cache String CachedChallenge),
    env.storage = s.storage → env.get.Healthy → env.load.Healthy →
      ((∃ r, ageProofRequest X env id challengeId cached = .ok r) ↔
        ∃ p cred entry, s.table p = some ⟨id, cred⟩ ∧ cached.lookup challengeId = some entry ∧
          unixSecs env.now ≤ cred.exp ∧
          Requestable X.toProverCrates env.thread env.prover (unixSecs env.buildNow) cred
            entry.payload)

/-- **Proofs, from the slot table.**  Over any run of imports, deletions,
    nickname updates and cleanups from the empty store, on a backend that
    answers every call, where only public credential keys are given as
    ids: in every state a listing shows each slot's credential once, able
    to prove exactly when its import brought both private fields and it
    has not expired; the automatic choice is made exactly when one
    credential of the environment can prove; and a request is built
    exactly when the core crate builds one from the credential as it was
    imported, private fields included.  The two records of a credential
    never come apart, and no proof mixes the records of two. -/
theorem slot_proofs (X : WalletCrates Params) (ops : List SlotOp)
    (hops : ∀ op ∈ ops, op.Answered X.toCrates ∧ op.WellAddressed X.toCrates) :
    Always (slotStep X.toCrates) (AnswersFromTable X) emptySlots ops := by
  have hstart : SlotInv emptySlots ∧ SecretsKept emptySlots := by
    refine ⟨⟨∅, rfl, represents_empty⟩, ?_⟩
    intro p x hx
    cases hx
  have hstep : ∀ s (op : SlotOp), SlotInv s ∧ SecretsKept s →
      op.Answered X.toCrates ∧ op.WellAddressed X.toCrates →
        SlotInv (slotStep X.toCrates s op) ∧ SecretsKept (slotStep X.toCrates s op) := by
    intro s op hs hop
    exact ⟨represents_step X.toCrates s op hs.1 hop.1,
      secretsKept_step X.toCrates s op hs.1 hs.2 hop.1 hop.2⟩
  have hrun := always_of_step
    (P := fun _ (op : SlotOp) => op.Answered X.toCrates ∧ op.WellAddressed X.toCrates) hstep hstart
    (stepsMeet_of_forall hops)
  apply hrun.imp
  intro s hs
  exact
    { listed := fun f clock hf => listed_of_slotInv hs.1 hs.2 hf clock
      chosen := fun env config challengeId session id henv hf =>
        autoCredential_iff X hs.1 hs.2 env henv hf config challengeId session id
      proved := fun env id challengeId cached henv hget hload =>
        request_iff X hs.1 hs.2 env henv hget hload id challengeId cached }

/-- An import into the primary slot, one into a slot of the sandbox, a
    renaming and a cleanup. -/
def provingOps : List SlotOp :=
  [.importCall (.storeCredential "a") none answeringImport,
    .importCall (.storeCredentialWithLabel "b" (some "sandbox") "managed" none) none answeringImport,
    .updateCredentialNickname .never
      (newKey keptCrates.toCrates (placeOf none .primary) (redacted openCredential)) (some "a"),
    .cleanupExpiredCredentials .never (fun _ => 1) fun _ => .never]

/-- An import of the open credential with short texts is answered and
    well addressed. -/
theorem keptImport_answered (call : ImportCall)
    (himported : call.imported keptCrates.toCrates none = .ok openCredential)
    (hlabel : ∀ l ∈ call.label, l.utf8ByteSize < 8)
    (hnick : ∀ n ∈ call.nickname, n.utf8ByteSize < 8) :
    (SlotOp.importCall call none answeringImport).Answered keptCrates.toCrates ∧
      (SlotOp.importCall call none answeringImport).WellAddressed keptCrates.toCrates := by
  have hfits : ∀ text : String, text.utf8ByteSize < 32 → Codec.string.fits text := by
    intro text hshort
    show (Wire.utf8 text).length < 2 ^ 64
    rw [Wire.utf8_length]
    omega
  have hnever := Faults.never_healthy
  refine ⟨⟨hnever, hnever, hnever, ?_, ?_, ?_⟩, ?_⟩
  · intro l hl
    exact hfits l (Nat.lt_of_lt_of_le (hlabel l hl) (by decide))
  · intro n hn
    exact hfits n (Nat.lt_of_lt_of_le (hnick n hn) (by decide))
  · intro credential h
    rw [himported] at h
    injection h with h
    rw [← h]
    exact ⟨hfits _ (by decide), hfits _ (by decide)⟩
  · intro credential h r hr
    rw [himported] at h
    injection h with h
    rw [← h] at hr
    injection hr with hr
    rw [← hr, List.length_replicate]
    decide

theorem slot_proofs_sample :
    Always (slotStep keptCrates.toCrates) (AnswersFromTable keptCrates) emptySlots provingOps := by
  refine slot_proofs keptCrates provingOps ?_
  intro op hop
  simp only [provingOps, List.mem_cons, List.not_mem_nil, or_false] at hop
  rcases hop with rfl | rfl | rfl | rfl
  · refine keptImport_answered (.storeCredential "a") rfl ?_ ?_
    · intro l hl
      cases hl
    · intro n hn
      cases hn
  · refine keptImport_answered (.storeCredentialWithLabel "b" (some "sandbox") "managed" none) rfl
      ?_ ?_
    · intro l hl
      injection hl with hl
      rw [← hl]
      decide
    · intro n hn
      cases hn
  · refine ⟨⟨Faults.never_healthy, ?_⟩, ?_⟩
    · intro n hn
      injection hn with hn
      rw [← hn]
      show (Wire.utf8 "a").length < 2 ^ 64
      rw [Wire.utf8_length]
      decide
    · show isCredentialKey (newKey _ _ _) = true
      rw [newKey_eq, isCredentialKey_recordKey]
      rfl
  · exact ⟨⟨Faults.never_healthy, fun _ => Faults.never_healthy⟩, trivial⟩

end ProviiSdk.Wallet
