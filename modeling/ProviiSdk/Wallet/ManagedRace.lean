/-
  ProviiSdk.Wallet.ManagedRace — two managed imports at the same time.

  A managed import enters the store up to three times: it resolves its
  slot, writes the public record, and writes the secrets.  Each entry is
  one critical section; between two of them another import may run.
  Two imports are a machine whose state is the backend and the stage of
  each call, and whose steps let one of the calls run its next section.

  Resolving a slot reserves nothing.  When both calls resolve before
  either writes, they get the same slot, and the second write deletes
  what the first one stored.

  Main results:
    * `solo_run` — the three sections of a call, run one after the
      other, are the wallet's entry point.
    * `managed_imports_kept_iff` — both imports are kept exactly when no
      call resolves its slot between the resolve and the write of the
      other.
    * `interleaved_imports_lose_one` — a schedule that loses an import.
-/

import ProviiSdk.Core.Sample
import ProviiSdk.Lib.Run
import ProviiSdk.Wallet.Credentials

namespace ProviiSdk.Wallet

open ProviiSdk.Core ProviiSdk.Platform ProviiSdk.Ffi ProviiSdk.Run

/-! ## §1. An import in sections -/

/-- The arguments of an import into a managed slot, at each of the entry
    points that has one. -/
inductive ManagedImport where
  | importCredentialWithType (credentialJson : String) (nickname : Option String)
  | storeCredentialWithLabel (credentialJson : String) (label nickname : Option String)
  | finalizeAndStoreCredential (headerJson : String) (dobDays : Int32) (rBitsB64 : String)
    (label nickname : Option String)

namespace ManagedImport

def label : ManagedImport → Option String
  | .importCredentialWithType _ _ => none
  | .storeCredentialWithLabel _ label _ => label
  | .finalizeAndStoreCredential _ _ _ label _ => label

def nickname : ManagedImport → Option String
  | .importCredentialWithType _ nickname => nickname
  | .storeCredentialWithLabel _ _ nickname => nickname
  | .finalizeAndStoreCredential _ _ _ _ nickname => nickname

/-- Parse an imported credential and take its secrets. -/
def prepareImported (X : Crates) (credentialJson : String) :
    Except FfiError (CredentialV2 × Option CredentialSecrets) :=
  match X.parseCredential credentialJson with
  | .error e => .error (.invalidFormat e)
  | .ok cred => .ok (redacted cred, takeSecrets cred)

/-- What a call does between resolving its slot and writing it.  It
    reads neither the store nor the slot. -/
def prepare (X : Crates) (anchor : Option IssuerTrustAnchor) :
    ManagedImport → Except FfiError (CredentialV2 × Option CredentialSecrets)
  | .importCredentialWithType json _ => prepareImported X json
  | .storeCredentialWithLabel json _ _ => prepareImported X json
  | .finalizeAndStoreCredential headerJson dobDays rBitsB64 _ _ =>
    match prepareFinalized X anchor headerJson dobDays rBitsB64 with
    | .error e => .error e
    | .ok (credential, secrets) => .ok (credential, some secrets)

/-- The wallet's entry point. -/
def run (X : Crates) (anchor : Option IssuerTrustAnchor) (fs : ImportFaults) (kv : Kv) :
    ManagedImport → Except FfiError Key × Storage
  | .importCredentialWithType json nickname =>
    Wallet.importCredentialWithType X fs ⟨some kv⟩ json "managed" nickname
  | .storeCredentialWithLabel json label nickname =>
    Wallet.storeCredentialWithLabel X fs ⟨some kv⟩ json label "managed" nickname
  | .finalizeAndStoreCredential headerJson dobDays rBitsB64 label nickname =>
    Wallet.finalizeAndStoreCredential X fs ⟨⟨some kv⟩, anchor⟩ headerJson dobDays rBitsB64 label
      "managed" nickname

end ManagedImport

/-- How far a call has come. -/
inductive Stage where
  | start
  | resolved (slot : CredentialSlot)
  | stored (id : Key) (secrets : CredentialSecrets)
  | done (result : Except FfiError Key)
  deriving DecidableEq

/-- The stage after the public record is written. -/
def afterStore (id : Key) : Option CredentialSecrets → Stage
  | none => .done (.ok id)
  | some secrets => .stored id secrets

/-- Run the next section of a call. -/
def advance (X : Crates) (anchor : Option IssuerTrustAnchor) (call : ManagedImport) (f : Faults)
    (now : Int64) (kv : Kv) : Stage → Kv × Stage
  | .start =>
    match resolveSlot f ⟨some kv⟩ "managed" call.label with
    | .error e => (kv, .done (.error e))
    | .ok slot => (kv, .resolved slot)
  | .resolved slot =>
    match call.prepare X anchor with
    | .error e => (kv, .done (.error e))
    | .ok (credential, secrets) =>
      match storeCredentialWithSlot X f now credential call.label slot call.nickname kv with
      | (.error e, kv) => (kv, .done (.error (.storage e)))
      | (.ok id, kv) => (kv, afterStore id secrets)
  | .stored id secrets =>
    match storeCredentialSecrets f id secrets kv with
    | (.error e, kv) => (kv, .done (.error (.storage e)))
    | (.ok (), kv) => (kv, .done (.ok id))
  | .done result => (kv, .done result)

/-- The three sections of a call with nothing in between. -/
def solo (X : Crates) (anchor : Option IssuerTrustAnchor) (call : ManagedImport)
    (fs : ImportFaults) (kv : Kv) : Kv × Stage :=
  let first := advance X anchor call fs.resolve fs.now kv .start
  let second := advance X anchor call fs.store fs.now first.1 first.2
  advance X anchor call fs.secrets fs.now second.1 second.2

/-- The writing sections of a call are the wallet's shared write. -/
private theorem advance_advance_resolved (X : Crates) (anchor : Option IssuerTrustAnchor)
    (call : ManagedImport) (fs : ImportFaults) (kv : Kv) (slot : CredentialSlot)
    (credential : CredentialV2) (secrets : Option CredentialSecrets)
    (hprep : call.prepare X anchor = .ok (credential, secrets)) :
    ∃ r kv',
      advance X anchor call fs.secrets fs.now
          (advance X anchor call fs.store fs.now kv (.resolved slot)).1
          (advance X anchor call fs.store fs.now kv (.resolved slot)).2 = (kv', .done r) ∧
      storeWithSecrets X fs ⟨some kv⟩ credential call.label slot call.nickname secrets =
        (r, ⟨some kv'⟩) := by
  unfold storeWithSecrets
  rw [call_some]
  simp only [advance, hprep]
  cases hst : storeCredentialWithSlot X fs.store fs.now credential call.label slot call.nickname
      kv with
  | mk res kv₁ =>
    cases res with
    | error e => exact ⟨_, _, rfl, rfl⟩
    | ok id =>
      cases secrets with
      | none => exact ⟨_, _, rfl, rfl⟩
      | some s =>
        simp only [afterStore, call_some]
        cases storeCredentialSecrets fs.secrets id s kv₁ with
        | mk res₂ kv₂ =>
          cases res₂ with
          | error e => exact ⟨_, _, rfl, rfl⟩
          | ok u => exact ⟨_, _, rfl, rfl⟩

/-- A finalisation checks the slot first and prepares the credential
    then. -/
private theorem finalize_eq (X : Crates) (fs : ImportFaults) (w : ProviiWallet) (headerJson : String)
    (dobDays : Int32) (rBitsB64 : String) (label nickname : Option String) (type : String) :
    finalizeAndStoreCredential X fs w headerJson dobDays rBitsB64 label type nickname =
      match resolveSlot fs.resolve w.storage type label with
      | .error e => (.error e, w.storage)
      | .ok slot =>
        match prepareFinalized X w.issuerTrustAnchor headerJson dobDays rBitsB64 with
        | .error e => (.error e, w.storage)
        | .ok (credential, secrets) =>
          storeWithSecrets X fs w.storage credential label slot nickname (some secrets) := by
  unfold finalizeAndStoreCredential finalizeChecks
  cases resolveSlot fs.resolve w.storage type label with
  | error e => rfl
  | ok slot =>
    cases prepareFinalized X w.issuerTrustAnchor headerJson dobDays rBitsB64 with
    | error e => rfl
    | ok r => rfl

/-- **A call whose sections run undisturbed is the entry point.** -/
theorem solo_run (X : Crates) (anchor : Option IssuerTrustAnchor) (call : ManagedImport)
    (fs : ImportFaults) (kv : Kv) :
    ∃ r kv', solo X anchor call fs kv = (kv', .done r) ∧
      call.run X anchor fs kv = (r, ⟨some kv'⟩) := by
  -- the entry point, as slot resolution, preparation and write
  have hrun : call.run X anchor fs kv =
      match resolveSlot fs.resolve ⟨some kv⟩ "managed" call.label with
      | .error e => (.error e, ⟨some kv⟩)
      | .ok slot =>
        match call.prepare X anchor with
        | .error e => (.error e, ⟨some kv⟩)
        | .ok (credential, secrets) =>
          storeWithSecrets X fs ⟨some kv⟩ credential call.label slot call.nickname secrets := by
    cases call with
    | importCredentialWithType json nickname =>
      simp only [ManagedImport.run, importCredentialWithType, importCredentialInternal,
        ManagedImport.prepare, ManagedImport.prepareImported, ManagedImport.label,
        ManagedImport.nickname]
      cases resolveSlot fs.resolve ⟨some kv⟩ "managed" none <;>
        cases X.parseCredential json <;> rfl
    | storeCredentialWithLabel json label nickname =>
      simp only [ManagedImport.run, storeCredentialWithLabel, importCredentialInternal,
        ManagedImport.prepare, ManagedImport.prepareImported, ManagedImport.label,
        ManagedImport.nickname]
      cases resolveSlot fs.resolve ⟨some kv⟩ "managed" label <;>
        cases X.parseCredential json <;> rfl
    | finalizeAndStoreCredential headerJson dobDays rBitsB64 label nickname =>
      simp only [ManagedImport.run, finalize_eq, ManagedImport.prepare, ManagedImport.label,
        ManagedImport.nickname]
      cases resolveSlot fs.resolve ⟨some kv⟩ "managed" label <;>
        cases prepareFinalized X anchor headerJson dobDays rBitsB64 <;> rfl
  rw [hrun]
  unfold solo
  cases hslot : resolveSlot fs.resolve ⟨some kv⟩ "managed" call.label with
  | error e => exact ⟨_, _, by simp only [advance, hslot], rfl⟩
  | ok slot =>
    cases hprep : call.prepare X anchor with
    | error e => exact ⟨_, _, by simp only [advance, hslot, hprep], rfl⟩
    | ok p =>
      obtain ⟨credential, secrets⟩ := p
      obtain ⟨r, kv', hadv, hstore⟩ :=
        advance_advance_resolved X anchor call fs kv slot credential secrets hprep
      refine ⟨r, kv', ?_, hstore⟩
      rw [← hadv]
      simp only [advance, hslot]

/-! ## §2. Two imports on one store -/

/-- The backend and the stages of two calls, named by a bit. -/
structure RaceState where
  kv : Kv
  stage : Bool → Stage

/-- One scheduling choice: the call whose next section runs, the order
    in which the backend lists its keys, and the clock.  The backend
    does not fail. -/
structure Tick where
  who : Bool
  listing : Listing
  now : Int64

/-- The state after a section. -/
def raceStep (X : Crates) (anchor : Option IssuerTrustAnchor) (calls : Bool → ManagedImport)
    (s : RaceState) (t : Tick) : RaceState :=
  let next := advance X anchor (calls t.who) (.answering t.listing) t.now s.kv (s.stage t.who)
  { kv := next.1, stage := Function.update s.stage t.who next.2 }

/-- Both calls are yet to enter the store. -/
def raceStart (kv : Kv) : RaceState := { kv, stage := fun _ => .start }

/-- The call resolves its slot only while the other one is not between
    its own resolve and its write. -/
def NoOverlap (s : RaceState) (t : Tick) : Prop :=
  s.stage t.who = .start → ∀ slot, s.stage (!t.who) ≠ .resolved slot

/-- The public record of the call is stored under `id`. -/
def RecordStored (X : Crates) (call : ManagedImport) (kv : Kv) (credential : CredentialV2)
    (id : Key) : Prop :=
  ∃ now slot, id = newKey X (placeOf call.label slot) credential ∧
    kv.lookup id = some (newItem now credential call.label slot call.nickname)

/-- The secrets are stored with the record of `id`. -/
def SecretsStored (kv : Kv) (secrets : CredentialSecrets) (id : Key) : Prop :=
  kv.lookup (secretsKeyOf id) =
    some ⟨encodeSecrets secrets, BiometricRequirement.forCredentialSecrets⟩

/-- What the call imported is in the store under `id`: its public record
    and its secrets if it has any. -/
def ImportPresent (X : Crates) (anchor : Option IssuerTrustAnchor) (call : ManagedImport)
    (kv : Kv) (id : Key) : Prop :=
  ∃ credential secrets, call.prepare X anchor = .ok (credential, secrets) ∧
    RecordStored X call kv credential id ∧ ∀ s ∈ secrets, SecretsStored kv s id

/-! ## §3. What one section does -/

/-- The index every healthy listing yields as the next one. -/
def NextIndex (ns : CredentialNamespace) (kv : Kv) (i : UInt8) : Prop :=
  ∀ f : Faults, f.Healthy → nextAvailableManagedIndex f ns kv = .ok i

/-- What a section of a call does on a healthy backend. -/
inductive Advanced (X : Crates) (anchor : Option IssuerTrustAnchor) (call : ManagedImport)
    (kv : Kv) : Stage → Kv × Stage → Prop where
  | resolveRefused (e : FfiError) : Advanced X anchor call kv .start (kv, .done (.error e))
  | resolved (i : UInt8) (hnext : NextIndex (fromLabel call.label) kv i) :
    Advanced X anchor call kv .start (kv, .resolved (.managed i))
  | prepareRefused (slot : CredentialSlot) (e : FfiError) :
    Advanced X anchor call kv (.resolved slot) (kv, .done (.error e))
  | stored (now : Int64) (slot : CredentialSlot) (credential : CredentialV2)
    (secrets : Option CredentialSecrets) (kv' : Kv)
    (hprep : call.prepare X anchor = .ok (credential, secrets))
    (hkv' : ∀ k, kv'.lookup k =
      if k = newKey X (placeOf call.label slot) credential then
        some (newItem now credential call.label slot call.nickname)
      else if inSlot (placeOf call.label slot) k then none else kv.lookup k) :
    Advanced X anchor call kv (.resolved slot)
      (kv', afterStore (newKey X (placeOf call.label slot) credential) secrets)
  | secretsStored (id : Key) (secrets : CredentialSecrets) :
    Advanced X anchor call kv (.stored id secrets)
      (kv.insert (secretsKeyOf id)
        ⟨encodeSecrets secrets, BiometricRequirement.forCredentialSecrets⟩, .done (.ok id))
  | finished (result : Except FfiError Key) :
    Advanced X anchor call kv (.done result) (kv, .done result)

/-- **Every section does one of these.** -/
theorem advance_advanced (X : Crates) (anchor : Option IssuerTrustAnchor) (call : ManagedImport)
    (f : Faults) (hf : f.Healthy) (now : Int64) (kv : Kv) (stage : Stage) :
    Advanced X anchor call kv stage (advance X anchor call f now kv stage) := by
  cases stage with
  | start =>
    unfold advance resolveSlot
    simp only [if_true, Storage.read]
    cases hidx : nextAvailableManagedIndex f (fromLabel call.label) kv with
    | error e => exact .resolveRefused _
    | ok i =>
      by_cases hmax : i ≥ maxManagedSlots
      · simp only [if_pos hmax]
        exact .resolveRefused _
      · simp only [if_neg hmax]
        refine .resolved i fun f' hf' => ?_
        rw [← hidx, nextAvailableManagedIndex_congr hf' hf]
  | resolved slot =>
    unfold advance
    cases hprep : call.prepare X anchor with
    | error e => exact .prepareRefused slot e
    | ok p =>
      obtain ⟨credential, secrets⟩ := p
      obtain ⟨kv', hrun, hkv'⟩ := storeCredentialWithSlot_healthy X f hf now credential call.label
        slot call.nickname kv
      simp only [hrun]
      exact .stored now slot credential secrets kv' hprep hkv'
  | stored id secrets =>
    rcases storeCredentialSecrets_outcome f id secrets kv with ⟨e, hfail, _⟩ | ⟨_, heq⟩
    · rw [hf.store] at hfail
      cases hfail
    · simp only [advance, heq]
      exact .secretsStored id secrets
  | done result => exact .finished result

/-! ## §4. Calls that do not overlap -/

/-- The slot a call has resolved, as its stage shows it. -/
def slotOf : Stage → Option CredentialSlot
  | .resolved slot => some slot
  | .stored id _ => some (fromCredentialId id).2
  | .done (.ok id) => some (fromCredentialId id).2
  | _ => none

/-- What a call has written so far is in the store. -/
def StageKept (X : Crates) (anchor : Option IssuerTrustAnchor) (call : ManagedImport) (kv : Kv) :
    Stage → Prop
  | .stored id secrets => ∃ credential, call.prepare X anchor = .ok (credential, some secrets) ∧
    RecordStored X call kv credential id
  | .done (.ok id) => ImportPresent X anchor call kv id
  | _ => True

/-- The calls keep what they have written, hold different slots, and a
    call that alone has resolved holds the next index. -/
structure Apart (X : Crates) (anchor : Option IssuerTrustAnchor) (calls : Bool → ManagedImport)
    (s : RaceState) : Prop where
  kept : ∀ w, StageKept X anchor (calls w) s.kv (s.stage w)
  apart : ∀ w slot, slotOf (s.stage w) = some slot → slotOf (s.stage (!w)) ≠ some slot
  next : ∀ w slot, s.stage w = .resolved slot → s.stage (!w) = .start →
    ∃ i, slot = .managed i ∧ NextIndex (fromLabel (calls w).label) s.kv i

theorem fromCredentialId_newKey (X : Crates) (p : Place) (credential : CredentialV2) :
    fromCredentialId (newKey X p credential) = (p.ns, p.slot) := by
  rw [newKey_eq, fromCredentialId_recordKey]

theorem secretsKeyOf_newKey (X : Crates) (p : Place) (credential : CredentialV2) :
    secretsKeyOf (newKey X p credential) = recordKey p .credsec (baseIdFor X credential) := by
  rw [newKey_eq, secretsKeyOf_recordKey]

theorem slotOf_afterStore (X : Crates) (p : Place) (credential : CredentialV2)
    (secrets : Option CredentialSecrets) :
    slotOf (afterStore (newKey X p credential) secrets) = some p.slot := by
  cases secrets with
  | none => simp only [afterStore, slotOf, fromCredentialId_newKey]
  | some s => simp only [afterStore, slotOf, fromCredentialId_newKey]

/-- Writes outside the call's slot keep what it has written. -/
theorem StageKept.frame {X : Crates} {anchor : Option IssuerTrustAnchor} {call : ManagedImport}
    {kv kv' : Kv} {stage : Stage} (h : StageKept X anchor call kv stage)
    (hframe : ∀ slot, slotOf stage = some slot → ∀ kind b,
      kv'.lookup (recordKey (placeOf call.label slot) kind b) =
        kv.lookup (recordKey (placeOf call.label slot) kind b)) :
    StageKept X anchor call kv' stage := by
  cases stage with
  | start => trivial
  | resolved slot => trivial
  | stored id secrets =>
    obtain ⟨credential, hprep, now, slot, rfl, hitem⟩ := h
    have hslot := hframe slot (by simp only [slotOf, fromCredentialId_newKey]; rfl)
    refine ⟨credential, hprep, now, slot, rfl, ?_⟩
    rw [newKey_eq] at hitem ⊢
    rw [hslot, hitem]
  | done result =>
    cases result with
    | error e => trivial
    | ok id =>
      obtain ⟨credential, secrets, hprep, ⟨now, slot, rfl, hitem⟩, hsec⟩ := h
      have hslot := hframe slot (by simp only [slotOf, fromCredentialId_newKey]; rfl)
      refine ⟨credential, secrets, hprep, ⟨now, slot, rfl, ?_⟩, fun s hs => ?_⟩
      · rw [newKey_eq] at hitem ⊢
        rw [hslot, hitem]
      · have hs' := hsec s hs
        unfold SecretsStored at hs' ⊢
        rw [secretsKeyOf_newKey] at hs' ⊢
        rw [hslot, hs']

/-- A section keeps what its own call has written. -/
theorem Advanced.kept {X : Crates} {anchor : Option IssuerTrustAnchor} {call : ManagedImport}
    {kv : Kv} {stage : Stage} {r : Kv × Stage} (h : Advanced X anchor call kv stage r)
    (hk : StageKept X anchor call kv stage) : StageKept X anchor call r.1 r.2 := by
  cases h with
  | resolveRefused e => trivial
  | resolved i hnext => trivial
  | prepareRefused slot e => trivial
  | stored now slot credential secrets kv' hprep hkv' =>
    have hrec : RecordStored X call kv' credential
        (newKey X (placeOf call.label slot) credential) :=
      ⟨now, slot, rfl, by rw [hkv', if_pos rfl]⟩
    cases secrets with
    | none => exact ⟨credential, none, hprep, hrec, by simp⟩
    | some s => exact ⟨credential, hprep, hrec⟩
  | secretsStored id secrets =>
    obtain ⟨credential, hprep, now, slot, rfl, hitem⟩ := hk
    refine ⟨credential, some secrets, hprep, ⟨now, slot, rfl, ?_⟩, fun s hs => ?_⟩
    · -- the secrets go under a key of the other kind
      rw [lookup_insert_of, if_neg, hitem]
      rw [secretsKeyOf_newKey, newKey_eq]
      exact fun he => absurd ((recordKey_inj ..).1 he).2.1 (by decide)
    · injection hs with hs
      show AList.lookup _ _ = _
      rw [lookup_insert_of, if_pos rfl, hs]
  | finished result => exact hk

/-- A section touches the records of its own slot only. -/
theorem Advanced.frame {X : Crates} {anchor : Option IssuerTrustAnchor} {call : ManagedImport}
    {kv : Kv} {stage : Stage} {r : Kv × Stage} (h : Advanced X anchor call kv stage r)
    (hk : StageKept X anchor call kv stage) (q : Place)
    (hq : ∀ slot, slotOf stage = some slot → placeOf call.label slot ≠ q) (kind : RecordKind)
    (b : BaseId) : r.1.lookup (recordKey q kind b) = kv.lookup (recordKey q kind b) := by
  cases h with
  | resolveRefused e => rfl
  | resolved i hnext => rfl
  | prepareRefused slot e => rfl
  | stored now slot credential secrets kv' hprep hkv' =>
    have hne := hq slot rfl
    show kv'.lookup _ = _
    rw [hkv', if_neg, inSlot_recordKey, decide_eq_false hne, if_neg (by decide)]
    rw [newKey_eq]
    exact fun he => hne ((recordKey_inj ..).1 he).1.symm
  | secretsStored id secrets =>
    obtain ⟨credential, hprep, now, slot, rfl, hitem⟩ := hk
    have hne := hq slot (by simp only [slotOf, fromCredentialId_newKey]; rfl)
    show AList.lookup _ (kv.insert _ _) = _
    rw [lookup_insert_of, if_neg]
    rw [secretsKeyOf_newKey]
    exact fun he => hne ((recordKey_inj ..).1 he).1.symm
  | finished result => rfl

/-- A slot a call holds after a section is the one it held before, or
    the one it just resolved. -/
theorem Advanced.slotOf {X : Crates} {anchor : Option IssuerTrustAnchor} {call : ManagedImport}
    {kv : Kv} {stage : Stage} {r : Kv × Stage} (h : Advanced X anchor call kv stage r)
    (slot : CredentialSlot) (hslot : Wallet.slotOf r.2 = some slot) :
    Wallet.slotOf stage = some slot ∨
      (stage = .start ∧ ∃ i, slot = .managed i ∧ NextIndex (fromLabel call.label) kv i) := by
  cases h with
  | resolveRefused e => exact absurd hslot (by simp [Wallet.slotOf])
  | resolved i hnext =>
    injection hslot with hslot
    exact Or.inr ⟨rfl, i, hslot.symm, hnext⟩
  | prepareRefused slot' e => exact absurd hslot (by simp [Wallet.slotOf])
  | stored now slot' credential secrets kv' hprep hkv' =>
    refine Or.inl ?_
    rw [← hslot, slotOf_afterStore]
    rfl
  | secretsStored id secrets => exact Or.inl hslot
  | finished result => exact Or.inl hslot

theorem Advanced.ne_start {X : Crates} {anchor : Option IssuerTrustAnchor} {call : ManagedImport}
    {kv : Kv} {stage : Stage} {r : Kv × Stage} (h : Advanced X anchor call kv stage r) :
    r.2 ≠ .start := by
  cases h with
  | stored now slot credential secrets kv' hprep hkv' => cases secrets <;> simp [afterStore]
  | _ => simp

/-- A call whose record is stored in a managed slot occupies its index. -/
theorem StageKept.not_nextIndex {X : Crates} {anchor : Option IssuerTrustAnchor}
    {call : ManagedImport} {kv : Kv} {stage : Stage} (h : StageKept X anchor call kv stage)
    (hres : ∀ slot, stage ≠ .resolved slot) (i : UInt8)
    (hslot : slotOf stage = some (.managed i)) : ¬ NextIndex (fromLabel call.label) kv i := by
  have hrec : ∃ credential id, RecordStored X call kv credential id ∧
      (fromCredentialId id).2 = .managed i := by
    cases stage with
    | start => exact absurd hslot (by simp [slotOf])
    | resolved slot => exact absurd rfl (hres slot)
    | stored id secrets =>
      obtain ⟨credential, -, hstored⟩ := h
      exact ⟨credential, id, hstored, Option.some.inj hslot⟩
    | done result =>
      cases result with
      | error e => exact absurd hslot (by simp [slotOf])
      | ok id =>
        obtain ⟨credential, secrets, -, hstored, -⟩ := h
        exact ⟨credential, id, hstored, Option.some.inj hslot⟩
  obtain ⟨credential, id, ⟨now, slot, rfl, hitem⟩, hid⟩ := hrec
  rw [fromCredentialId_newKey] at hid
  intro hnext
  have hfree := indexFree_of_nextAvailable (hnext _ Faults.never_healthy)
  refine hfree (newKey X (placeOf call.label slot) credential) (by rw [hitem]; simp) ?_
  rw [newKey_eq]
  exact occupiedIndex_cred (placeOf call.label slot) i _ hid

/-- A step of the race: one call moves by a section, the other stays. -/
private theorem raceStep_moves (X : Crates) (anchor : Option IssuerTrustAnchor)
    (calls : Bool → ManagedImport) (s : RaceState) (t : Tick) :
    Advanced X anchor (calls t.who) s.kv (s.stage t.who)
        ((raceStep X anchor calls s t).kv, (raceStep X anchor calls s t).stage t.who) ∧
      (raceStep X anchor calls s t).stage (!t.who) = s.stage (!t.who) := by
  have hother : (!t.who) ≠ t.who := by cases t.who <;> decide
  refine ⟨?_, Function.update_of_ne hother ..⟩
  have hself : (raceStep X anchor calls s t).stage t.who =
      (advance X anchor (calls t.who) (.answering t.listing) t.now s.kv (s.stage t.who)).2 :=
    Function.update_self ..
  rw [hself]
  exact advance_advanced X anchor (calls t.who) (.answering t.listing)
    (Faults.answering_healthy _) t.now s.kv (s.stage t.who)

/-- Every call is the one named or the other one. -/
private theorem eq_or_eq_not (w v : Bool) : w = v ∨ w = !v := by
  cases w <;> cases v <;> decide

private theorem label_not {calls : Bool → ManagedImport}
    (hns : fromLabel (calls true).label = fromLabel (calls false).label) (w : Bool) :
    fromLabel (calls (!w)).label = fromLabel (calls w).label := by
  cases w
  · exact hns
  · exact hns.symm

/-- A call has just resolved its slot: the contents are unchanged, and
    the slot is the next free one. -/
private theorem Advanced.resolved_inv {X : Crates} {anchor : Option IssuerTrustAnchor}
    {call : ManagedImport} {kv kv' : Kv} {stage : Stage} {slot : CredentialSlot}
    (h : Advanced X anchor call kv stage (kv', .resolved slot)) :
    kv' = kv ∧ stage = .start ∧ ∃ i, slot = .managed i ∧ NextIndex (fromLabel call.label) kv i := by
  generalize hr : (kv', Stage.resolved slot) = r at h
  cases h with
  | resolved i hnext =>
    injection hr with hkv hslot
    injection hslot with hslot
    exact ⟨hkv, rfl, i, hslot, hnext⟩
  | stored now slot' credential secrets kv₁ hprep hkv' =>
    injection hr with _ hstage
    cases secrets <;> cases hstage
  | resolveRefused e => cases hr
  | prepareRefused slot' e => cases hr
  | secretsStored id secrets => cases hr
  | finished result => cases hr

/-- **A section of a call that does not overlap keeps the calls apart.** -/
theorem apart_step (X : Crates) (anchor : Option IssuerTrustAnchor) (calls : Bool → ManagedImport)
    (hns : fromLabel (calls true).label = fromLabel (calls false).label) (s : RaceState) (t : Tick)
    (hs : Apart X anchor calls s) (hover : NoOverlap s t) :
    Apart X anchor calls (raceStep X anchor calls s t) := by
  obtain ⟨hadv, hrest⟩ := raceStep_moves X anchor calls s t
  generalize raceStep X anchor calls s t = s' at hadv hrest ⊢
  -- the moved call's new slot is not the other one's
  have hslots : ∀ slot, slotOf (s'.stage t.who) = some slot →
      slotOf (s.stage (!t.who)) ≠ some slot := by
    intro slot hslot
    rcases hadv.slotOf slot hslot with hold | ⟨hstart, i, rfl, hnext⟩
    · exact hs.apart t.who slot hold
    · intro hsame
      refine (hs.kept (!t.who)).not_nextIndex (hover hstart) i hsame ?_
      rw [label_not hns]
      exact hnext
  refine ⟨fun w => ?_, fun w slot hslot => ?_, fun w slot hres hstart => ?_⟩
  · rcases eq_or_eq_not w t.who with rfl | rfl
    · exact hadv.kept (hs.kept t.who)
    · rw [hrest]
      refine (hs.kept (!t.who)).frame fun slot hslot kind b => ?_
      refine hadv.frame (hs.kept t.who) _ (fun slot' hslot' hplace => ?_) kind b
      have hsame : slot' = slot := congrArg Place.slot hplace
      exact hs.apart t.who slot' hslot' (by rw [hslot, hsame])
  · rcases eq_or_eq_not w t.who with rfl | rfl
    · rw [hrest]
      exact hslots slot hslot
    · rw [hrest] at hslot
      rw [Bool.not_not]
      exact fun hnew => hslots slot hnew hslot
  · rcases eq_or_eq_not w t.who with rfl | rfl
    · -- it resolved just now, and the contents are unchanged
      rw [hres] at hadv
      obtain ⟨hkv, -, i, hi, hnext⟩ := hadv.resolved_inv
      rw [hkv]
      exact ⟨i, hi, hnext⟩
    · rw [Bool.not_not] at hstart
      exact absurd hstart hadv.ne_start

/-! ## §5. Calls that overlap -/

/-- The id under which a call has written its public record. -/
def writtenId : Stage → Option Key
  | .stored id _ => some id
  | .done (.ok id) => some id
  | _ => none

/-- Both calls go for the same slot.  Once both have written, the record
    of one of them is gone. -/
structure Clash (X : Crates) (anchor : Option IssuerTrustAnchor) (calls : Bool → ManagedImport)
    (slot : CredentialSlot) (s : RaceState) : Prop where
  started : ∀ w, s.stage w ≠ .start
  resolved : ∀ w slot', s.stage w = .resolved slot' → slot' = slot
  named : ∀ w id, writtenId (s.stage w) = some id → ∃ credential secrets,
    (calls w).prepare X anchor = .ok (credential, secrets) ∧
      id = newKey X (placeOf (calls w).label slot) credential
  lost : (∀ w, writtenId (s.stage w) ≠ none) → ∃ w id, writtenId (s.stage w) = some id ∧
    ∀ credential secrets, (calls w).prepare X anchor = .ok (credential, secrets) →
      ¬ RecordStored X (calls w) s.kv credential id

/-- The calls import different credentials. -/
def DifferentCredentials (X : Crates) (anchor : Option IssuerTrustAnchor)
    (calls : Bool → ManagedImport) : Prop :=
  ∀ c s c' s', (calls false).prepare X anchor = .ok (c, s) →
    (calls true).prepare X anchor = .ok (c', s') → c ≠ c'

/-- No text of the records the calls write is longer than a Rust string
    can be. -/
def TextsFit (X : Crates) (anchor : Option IssuerTrustAnchor) (calls : Bool → ManagedImport) :
    Prop :=
  ∀ w credential secrets, (calls w).prepare X anchor = .ok (credential, secrets) →
    ∀ now slot, (storedRecord now credential (calls w).label slot (calls w).nickname).Fits

/-- What is prepared for the public record has no private fields. -/
theorem ManagedImport.prepare_redacted {X : Crates} {anchor : Option IssuerTrustAnchor}
    {call : ManagedImport} {credential : CredentialV2} {secrets : Option CredentialSecrets}
    (h : call.prepare X anchor = .ok (credential, secrets)) : redacted credential = credential := by
  have himported : ∀ json, prepareImported X json = .ok (credential, secrets) →
      redacted credential = credential := by
    intro json h
    unfold prepareImported at h
    cases hp : X.parseCredential json with
    | error e => rw [hp] at h; cases h
    | ok cred =>
      rw [hp] at h
      injection h with h
      injection h with h _
      rw [← h]
      rfl
  cases call with
  | importCredentialWithType json nickname => exact himported json h
  | storeCredentialWithLabel json label nickname => exact himported json h
  | finalizeAndStoreCredential headerJson dobDays rBitsB64 label nickname =>
    simp only [prepare] at h
    split at h
    · cases h
    next c s' heq =>
      injection h with h
      injection h with h _
      rw [← h]
      exact redacted_of_prepareFinalized heq

/-- Records of different credentials differ. -/
theorem newItem_ne {now now' : Int64} {c c' : CredentialV2} {label label' : Option String}
    {slot slot' : CredentialSlot} {nickname nickname' : Option String}
    (hfit : (storedRecord now c label slot nickname).Fits)
    (hfit' : (storedRecord now' c' label' slot' nickname').Fits) (hc : redacted c = c)
    (hc' : redacted c' = c') (hne : c ≠ c') :
    newItem now c label slot nickname ≠ newItem now' c' label' slot' nickname' := by
  intro heq
  have henc := congrArg (fun i : Item => decodeStored i.data) heq
  simp only [newItem, decodeStored_encodeStored _ hfit, decodeStored_encodeStored _ hfit'] at henc
  injection henc with henc
  have hcred : redacted c = redacted c' := congrArg StoredCredential.credential henc
  rw [hc, hc'] at hcred
  exact hne hcred

/-- A record under a public key is not changed by a write to a secrets
    key. -/
theorem recordStored_of_insert {X : Crates} {call : ManagedImport} {kv : Kv}
    {credential : CredentialV2} {id : Key} {p : Place} {b : BaseId} {item : Item}
    (h : RecordStored X call (kv.insert (recordKey p .credsec b) item) credential id) :
    RecordStored X call kv credential id := by
  obtain ⟨now, slot, rfl, hitem⟩ := h
  refine ⟨now, slot, rfl, ?_⟩
  rw [← hitem, lookup_insert_of, if_neg]
  rw [newKey_eq]
  exact fun he => absurd ((recordKey_inj ..).1 he).2.1 (by decide)

/-- A call that has written after a section had written before it, or
    wrote its public record in it. -/
private theorem Advanced.written {X : Crates} {anchor : Option IssuerTrustAnchor}
    {call : ManagedImport} {kv kv' : Kv} {stage stage' : Stage}
    (h : Advanced X anchor call kv stage (kv', stage')) {id : Key}
    (hid : writtenId stage' = some id) :
    (writtenId stage = some id ∧ (kv' = kv ∨ ∃ item, kv' = kv.insert (secretsKeyOf id) item)) ∨
    ∃ now slot credential secrets, stage = .resolved slot ∧
      call.prepare X anchor = .ok (credential, secrets) ∧
      id = newKey X (placeOf call.label slot) credential ∧
      ∀ k, kv'.lookup k =
        if k = newKey X (placeOf call.label slot) credential then
          some (newItem now credential call.label slot call.nickname)
        else if inSlot (placeOf call.label slot) k then none else kv.lookup k := by
  cases h with
  | resolveRefused e => cases hid
  | resolved i hnext => cases hid
  | prepareRefused slot e => cases hid
  | stored now slot credential secrets _ hprep hkv' =>
    refine Or.inr ⟨now, slot, credential, secrets, rfl, hprep, ?_, hkv'⟩
    cases secrets <;> exact (Option.some.inj hid).symm
  | secretsStored id' secrets =>
    injection hid with hid
    subst hid
    exact Or.inl ⟨rfl, Or.inr ⟨_, rfl⟩⟩
  | finished result => exact Or.inl ⟨hid, Or.inl rfl⟩

/-- **Resolving while the other call is about to write is a clash.** -/
theorem clash_of_overlap (X : Crates) (anchor : Option IssuerTrustAnchor)
    (calls : Bool → ManagedImport)
    (hns : fromLabel (calls true).label = fromLabel (calls false).label) (s : RaceState) (t : Tick)
    (hs : Apart X anchor calls s) (slot : CredentialSlot) (hstart : s.stage t.who = .start)
    (hother : s.stage (!t.who) = .resolved slot) :
    Clash X anchor calls slot (raceStep X anchor calls s t) := by
  obtain ⟨hadv, hrest⟩ := raceStep_moves X anchor calls s t
  generalize raceStep X anchor calls s t = s' at hadv hrest ⊢
  rw [hstart] at hadv
  rw [hother] at hrest
  refine ⟨fun w => ?_, fun w slot' hres => ?_, fun w id hid => ?_, fun hall => ?_⟩
  · rcases eq_or_eq_not w t.who with rfl | rfl
    · exact hadv.ne_start
    · rw [hrest]
      simp
  · rcases eq_or_eq_not w t.who with rfl | rfl
    · -- both calls read the same next index
      rw [hres] at hadv
      obtain ⟨-, -, i, rfl, hnext⟩ := hadv.resolved_inv
      obtain ⟨j, rfl, hnext'⟩ := hs.next (!t.who) slot hother (by rw [Bool.not_not, hstart])
      rw [label_not hns] at hnext'
      have hij := hnext _ Faults.never_healthy
      rw [hnext' _ Faults.never_healthy] at hij
      injection hij with hij
      rw [hij]
    · rw [hrest] at hres
      injection hres with hres
      exact hres.symm
  · rcases eq_or_eq_not w t.who with rfl | rfl
    · rcases hadv.written hid with ⟨hold, _⟩ | ⟨_, _, _, _, hres, _⟩
      · cases hold
      · cases hres
    · rw [hrest] at hid
      cases hid
  · exact absurd (by rw [hrest]; rfl) (hall (!t.who))

/-- **A clash stays a clash**: the call that writes last removes the
    record of the other one. -/
theorem clash_step (X : Crates) (anchor : Option IssuerTrustAnchor) (calls : Bool → ManagedImport)
    (hns : fromLabel (calls true).label = fromLabel (calls false).label)
    (hdiff : DifferentCredentials X anchor calls) (hfit : TextsFit X anchor calls)
    (slot : CredentialSlot) (s : RaceState) (t : Tick) (hs : Clash X anchor calls slot s) :
    Clash X anchor calls slot (raceStep X anchor calls s t) := by
  obtain ⟨hadv, hrest⟩ := raceStep_moves X anchor calls s t
  generalize raceStep X anchor calls s t = s' at hadv hrest ⊢
  refine ⟨fun w => ?_, fun w slot' hres => ?_, fun w id hid => ?_, fun hall => ?_⟩
  · rcases eq_or_eq_not w t.who with rfl | rfl
    · exact hadv.ne_start
    · rw [hrest]
      exact hs.started _
  · rcases eq_or_eq_not w t.who with rfl | rfl
    · rw [hres] at hadv
      exact absurd hadv.resolved_inv.2.1 (hs.started t.who)
    · rw [hrest] at hres
      exact hs.resolved _ slot' hres
  · rcases eq_or_eq_not w t.who with rfl | rfl
    · rcases hadv.written hid with ⟨hold, _⟩ | ⟨_, slot', credential, secrets, hres, hprep, rfl, _⟩
      · exact hs.named t.who id hold
      · rw [hs.resolved t.who slot' hres]
        exact ⟨credential, secrets, hprep, rfl⟩
    · rw [hrest] at hid
      exact hs.named _ id hid
  · obtain ⟨id, hid⟩ := Option.ne_none_iff_exists'.1 (hall t.who)
    rcases hadv.written hid with ⟨hold, hkv⟩ | ⟨now, slot', c, sec, hres, hprep, rfl, hkv⟩
    · -- nothing public was written: the lost record stays lost
      have hall' : ∀ w, writtenId (s.stage w) ≠ none := by
        intro w
        rcases eq_or_eq_not w t.who with rfl | rfl
        · rw [hold]
          simp
        · rw [← hrest]
          exact hall _
      obtain ⟨v, idv, hv, hlost⟩ := hs.lost hall'
      refine ⟨v, idv, ?_, fun credential secrets hprep hstored => ?_⟩
      · rcases eq_or_eq_not v t.who with rfl | rfl
        · rw [hid, ← hv, hold]
        · rw [hrest, hv]
      · refine hlost credential secrets hprep ?_
        rcases hkv with hkv | ⟨item, hkv⟩
        · exact hkv ▸ hstored
        · obtain ⟨c, -, -, rfl⟩ := hs.named t.who id hold
          rw [show s'.kv = _ from hkv, secretsKeyOf_newKey] at hstored
          exact recordStored_of_insert hstored
    · -- the record of the other call was in the slot just emptied
      have hslot := hs.resolved t.who slot' hres
      subst hslot
      obtain ⟨ido, hido⟩ := Option.ne_none_iff_exists'.1 (hall (!t.who))
      refine ⟨!t.who, ido, hido, fun c' sec' hprep' hstored => ?_⟩
      rw [hrest] at hido
      obtain ⟨c'', sec'', hprep'', rfl⟩ := hs.named (!t.who) ido hido
      rw [hprep''] at hprep'
      injection hprep' with hprep'
      injection hprep' with hc' _
      subst hc'
      obtain ⟨now', slot'', hkey, hitem⟩ := hstored
      have hplace : placeOf (calls (!t.who)).label slot' = placeOf (calls t.who).label slot' := by
        unfold placeOf
        simp only [label_not hns]
      rw [show s'.kv.lookup _ = _ from hkv _] at hitem
      split at hitem
      · injection hitem with hitem
        refine newItem_ne (hfit t.who c sec hprep now slot') (hfit _ c'' sec'' hprep'' now' slot'')
          (ManagedImport.prepare_redacted hprep) (ManagedImport.prepare_redacted hprep'') ?_ hitem
        revert hprep hprep''
        cases t.who
        · exact fun h h' => hdiff _ _ _ _ h h'
        · exact fun h h' => (hdiff _ _ _ _ h' h).symm
      · rw [hplace, if_pos (inSlot_newKey ..)] at hitem
        cases hitem

/-! ## §6. Whole schedules -/

/-- A clash lasts to the end of the schedule. -/
private theorem clash_run (X : Crates) (anchor : Option IssuerTrustAnchor)
    (calls : Bool → ManagedImport)
    (hns : fromLabel (calls true).label = fromLabel (calls false).label)
    (hdiff : DifferentCredentials X anchor calls) (hfit : TextsFit X anchor calls)
    (slot : CredentialSlot) (s : RaceState) (ticks : List Tick) (hs : Clash X anchor calls slot s) :
    Clash X anchor calls slot (run (raceStep X anchor calls) s ticks) :=
  (always_of_invariant
    (fun s t h => clash_step X anchor calls hns hdiff hfit slot s t h) ticks hs).last

/-- A schedule with an overlap loses the record of one call: up to the
    first overlap the calls are apart, from there on they clash. -/
private theorem clash_of_not_stepsMeet (X : Crates) (anchor : Option IssuerTrustAnchor)
    (calls : Bool → ManagedImport)
    (hns : fromLabel (calls true).label = fromLabel (calls false).label)
    (hdiff : DifferentCredentials X anchor calls) (hfit : TextsFit X anchor calls)
    (ticks : List Tick) (s : RaceState) (hs : Apart X anchor calls s)
    (hover : ¬ StepsMeet (raceStep X anchor calls) NoOverlap s ticks) :
    ∃ slot, Clash X anchor calls slot (run (raceStep X anchor calls) s ticks) := by
  induction ticks generalizing s with
  | nil => exact absurd trivial hover
  | cons t ticks ih =>
    by_cases ht : NoOverlap s t
    · refine ih _ (apart_step X anchor calls hns s t hs ht) fun hrest => ?_
      exact hover ⟨ht, hrest⟩
    · unfold NoOverlap at ht
      push Not at ht
      obtain ⟨hstart, slot, hother⟩ := ht
      refine ⟨slot, clash_run X anchor calls hns hdiff hfit slot _ ticks ?_⟩
      exact clash_of_overlap X anchor calls hns s t hs slot hstart hother

/-- **Both imports are kept, exactly**: for two managed imports of
    different credentials into one namespace, in any schedule of their
    sections on a backend that does not fail after which both calls have
    returned `Ok`, both credentials and their secrets are stored under
    the ids returned if and only if no call resolves its slot while the
    other is between its resolve and its write. -/
theorem managed_imports_kept_iff (X : Crates) (anchor : Option IssuerTrustAnchor)
    (calls : Bool → ManagedImport) (kv : Kv) (ticks : List Tick) (idA idB : Key)
    (hns : fromLabel (calls true).label = fromLabel (calls false).label)
    (hdiff : DifferentCredentials X anchor calls) (hfit : TextsFit X anchor calls)
    (hA : (run (raceStep X anchor calls) (raceStart kv) ticks).stage false = .done (.ok idA))
    (hB : (run (raceStep X anchor calls) (raceStart kv) ticks).stage true = .done (.ok idB)) :
    (ImportPresent X anchor (calls false)
          (run (raceStep X anchor calls) (raceStart kv) ticks).kv idA ∧
        ImportPresent X anchor (calls true)
          (run (raceStep X anchor calls) (raceStart kv) ticks).kv idB) ↔
      StepsMeet (raceStep X anchor calls) NoOverlap (raceStart kv) ticks := by
  have hinit : Apart X anchor calls (raceStart kv) :=
    ⟨fun _ => trivial, fun _ _ h => absurd h (by simp [raceStart, slotOf]),
      fun _ _ h => absurd h (by simp [raceStart])⟩
  constructor
  · rintro ⟨hpA, hpB⟩
    by_contra hover
    obtain ⟨slot, hclash⟩ := clash_of_not_stepsMeet X anchor calls hns hdiff hfit ticks _ hinit hover
    obtain ⟨w, id, hid, hlost⟩ := hclash.lost (fun w => by cases w <;> simp [hA, hB, writtenId])
    -- whichever record is lost, its call's import is not present
    cases w with
    | false =>
      rw [hA] at hid
      injection hid with hid
      obtain ⟨c, sec, hprep, hstored, -⟩ := hpA
      exact hlost c sec hprep (hid ▸ hstored)
    | true =>
      rw [hB] at hid
      injection hid with hid
      obtain ⟨c, sec, hprep, hstored, -⟩ := hpB
      exact hlost c sec hprep (hid ▸ hstored)
  · intro hover
    have hend := (always_of_step (apart_step X anchor calls hns) hinit hover).last
    have hkA := hend.kept false
    have hkB := hend.kept true
    rw [hA] at hkA
    rw [hB] at hkB
    exact ⟨hkA, hkB⟩

/-! ## §7. A schedule that loses an import -/

/-- A JSON array of `n` equal numbers. -/
def arrayJson (digit : String) (n : Nat) : String :=
  "[" ++ String.intercalate "," (List.replicate n digit) ++ "]"

/-- The JSON text of a credential with its secrets, for a commitment of
    equal bytes. -/
def raceJson (digit : String) : String :=
  "\x7b\"v\":2,\"kid\":\"provii:issuer\",\"issuer_vk\":" ++ arrayJson "0" 32 ++
  ",\"sig_rj\":" ++ arrayJson "0" 64 ++ ",\"c_bytes\":" ++ arrayJson digit 32 ++
  ",\"iat\":1,\"exp\":2,\"schema\":\"provii.age/0\",\"dob_days\":7,\"r_bits\":[true]\x7d"

def raceCredential (byte : UInt8) : CredentialV2 :=
  { sampleCredential with
    cBytes := ⟨List.replicate 32 byte, List.length_replicate⟩, dobDays := some 7,
    rBits := some [true] }

/-- Crates that know the JSON texts of two credentials. -/
def raceCrates : Crates :=
  { sampleCrates with
    parseCredential := fun json =>
      if json = raceJson "0" then .ok (raceCredential 0)
      else if json = raceJson "1" then .ok (raceCredential 1)
      else .error "expected value" }

/-- Two imports into managed production slots. -/
def raceCalls : Bool → ManagedImport
  | false => .importCredentialWithType (raceJson "0") (some "a")
  | true => .importCredentialWithType (raceJson "1") (some "b")

def tick (who : Bool) : Tick := { who, listing := .asKept, now := 0 }

/-- Both calls resolve their slots before either of them writes. -/
def overlapping : List Tick :=
  [tick false, tick true, tick false, tick false, tick true, tick true]

/-- One call after the other. -/
def oneByOne : List Tick :=
  [tick false, tick false, tick false, tick true, tick true, tick true]

/-- The public record each call writes, as it is prepared. -/
def raceRecord : Bool → CredentialV2
  | false => redacted (raceCredential 0)
  | true => redacted (raceCredential 1)

/-- The key of a call's public record in a managed slot. -/
def raceId (w : Bool) (index : UInt8) : Key :=
  newKey raceCrates (placeOf none (.managed index)) (raceRecord w)

private theorem raceCalls_prepare (w : Bool) : (raceCalls w).prepare raceCrates none =
    .ok (raceRecord w, some { dobDays := 7, rBits := [true] }) := by
  cases w <;> decide +kernel

private theorem raceCalls_different : DifferentCredentials raceCrates none raceCalls := by
  intro c s c' s' h h'
  rw [raceCalls_prepare] at h h'
  injection h with h
  injection h' with h'
  injection h with h _
  injection h' with h' _
  rw [← h, ← h']
  decide +kernel

private theorem raceCalls_textsFit : TextsFit raceCrates none raceCalls := by
  intro w credential secrets h now slot
  rw [raceCalls_prepare] at h
  injection h with h
  injection h with h _
  rw [StoredCredential.fits_iff, ← h]
  have htype : ∀ slot : CredentialSlot, Wire.Codec.string.fits (storedRecord now (raceRecord w)
      (raceCalls w).label slot (raceCalls w).nickname).metadata.credentialType := by
    intro slot
    cases slot
    · show (Wire.utf8 "primary").length < 2 ^ 64
      decide +kernel
    · show (Wire.utf8 "managed").length < 2 ^ 64
      decide +kernel
  refine ⟨?_, ?_, ?_, htype slot, ?_⟩
  · cases w <;> (show (Wire.utf8 "provii:issuer").length < 2 ^ 64; decide +kernel)
  · cases w <;> (show (Wire.utf8 "provii.age/0").length < 2 ^ 64; decide +kernel)
  · cases w <;> exact fun _ hl => absurd hl (by simp [storedRecord, raceCalls, ManagedImport.label])
  · cases w
    · rintro n hn
      rw [← Option.some.inj hn]
      show (Wire.utf8 "a").length < 2 ^ 64
      decide +kernel
    · rintro n hn
      rw [← Option.some.inj hn]
      show (Wire.utf8 "b").length < 2 ^ 64
      decide +kernel

/-- **The second write deletes the first import**: with every managed
    slot free, both calls of an overlapping schedule return `Ok`, and the
    first credential is not in the store. -/
theorem interleaved_imports_lose_one :
    let s := run (raceStep raceCrates none raceCalls) (raceStart ∅) overlapping
    DifferentCredentials raceCrates none raceCalls ∧ (∀ i, IndexFree .primary ∅ i) ∧
      s.stage false = .done (.ok (raceId false 0)) ∧ s.stage true = .done (.ok (raceId true 0)) ∧
      ¬ ImportPresent raceCrates none (raceCalls false) s.kv (raceId false 0) := by
  have hgone : (run (raceStep raceCrates none raceCalls) (raceStart ∅) overlapping).kv.lookup
      (raceId false 0) = none := by
    decide +kernel
  refine ⟨raceCalls_different, fun i k hk => absurd rfl hk, by decide +kernel, by decide +kernel, ?_⟩
  rintro ⟨c, secrets, -, ⟨now, slot, -, hitem⟩, -⟩
  rw [hgone] at hitem
  cases hitem

/-- The equivalence at the schedule that runs one call after the other. -/
theorem managed_imports_kept_oneByOne :
    (ImportPresent raceCrates none (raceCalls false)
          (run (raceStep raceCrates none raceCalls) (raceStart ∅) oneByOne).kv (raceId false 0) ∧
        ImportPresent raceCrates none (raceCalls true)
          (run (raceStep raceCrates none raceCalls) (raceStart ∅) oneByOne).kv (raceId true 1)) ↔
      StepsMeet (raceStep raceCrates none raceCalls) NoOverlap (raceStart ∅) oneByOne :=
  managed_imports_kept_iff raceCrates none raceCalls ∅ oneByOne (raceId false 0) (raceId true 1)
    (by decide +kernel) raceCalls_different raceCalls_textsFit (by decide +kernel)
    (by decide +kernel)

end ProviiSdk.Wallet
