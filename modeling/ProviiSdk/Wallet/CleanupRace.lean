/-
  ProviiSdk.Wallet.CleanupRace — a cleanup among other calls.

  A cleanup lists the credentials in one critical section and deletes the
  expired ones, by their ids, in later ones.  An id depends on the
  commitment only, so a credential that is renewed in between has the id
  of the expired one.  The machine below takes one critical section at a
  time, of any number of cleanups, of imports, and of deletions.

  Main results:
    * `cleanup_alone` — the sections of a cleanup, run one after the
      other, are the wallet's method.
    * `cleanup_safe_iff` — no cleanup deletes a live credential exactly
      when none was renewed between its listing and its deletion.
    * `cleanup_deletes_renewed` — a run that loses a renewed credential.
-/

import ProviiSdk.Lib.Run
import ProviiSdk.Wallet.Imports
import ProviiSdk.Wallet.Sample

namespace ProviiSdk.Wallet

open ProviiSdk.Core ProviiSdk.Platform ProviiSdk.Ffi ProviiSdk.Run
open ProviiSdk.Wire (Codec)

/-! ## §1. The machine -/

/-- How far a cleanup has come: what it has left of its listing, and how
    many credentials it has removed. -/
inductive CleanupStage where
  | idle
  | sweeping (left : List CredentialInfo) (removed : Nat)

/-- The next critical section of a cleanup.  An idle one starts with its
    listing; one that has nothing left returns. -/
def advanceCleanup (f : Faults) (clock : Key → Int64) (kv : Kv) : CleanupStage → Kv × CleanupStage
  | .idle =>
    match listCredentials f clock kv with
    | .ok creds => (kv, .sweeping creds 0)
    | .error _ => (kv, .sweeping [] 0)
  | .sweeping [] _ => (kv, .idle)
  | .sweeping (info :: infos) removed =>
    if info.isExpired then
      match deleteCredential f info.id kv with
      | (.error _, kv) => (kv, .sweeping infos removed)
      | (.ok (), kv) => (kv, .sweeping infos (removed + 1))
    else (kv, .sweeping infos removed)

/-- What a cleanup has left of its listing. -/
def CleanupStage.left : CleanupStage → List CredentialInfo
  | .idle => []
  | .sweeping left _ => left

/-- The id a cleanup is about to delete. -/
def CleanupStage.target : CleanupStage → Option Key
  | .idle => none
  | .sweeping [] _ => none
  | .sweeping (info :: _) _ => if info.isExpired then some info.id else none

/-- The arguments of a write into a slot; a Rust string is shorter than
    the wire format's limit. -/
structure SlotImport where
  credential : CredentialV2
  label : Option String
  slot : CredentialSlot
  nickname : Option String
  kid : Codec.string.fits credential.kid
  schema : Codec.string.fits credential.schema
  labelFits : ∀ l ∈ label, Codec.string.fits l
  nicknameFits : ∀ n ∈ nickname, Codec.string.fits n

/-- One critical section: the two writes of an import, a deletion, or
    the next section of a cleanup; each at a time. -/
inductive CleanupOp (ι : Type) where
  | storeCredentialWithSlot (f : Faults) (now : Int64) (imported : SlotImport)
  | storeCredentialSecrets (f : Faults) (now : Int64) (credId : Key) (secrets : CredentialSecrets)
  | deleteCredential (f : Faults) (now : Int64) (credentialId : Key)
  | deleteSandboxCredentials (f : Faults) (now : Int64)
  | cleanup (who : ι) (f : Faults) (clock : Key → Int64) (now : Int64)

variable {ι : Type}

/-- The clock when a section ends. -/
def CleanupOp.now : CleanupOp ι → Int64
  | .storeCredentialWithSlot _ now _ => now
  | .storeCredentialSecrets _ now _ _ => now
  | .deleteCredential _ now _ => now
  | .deleteSandboxCredentials _ now => now
  | .cleanup _ _ _ now => now

/-- The store, the clock and the cleanups; and for each cleanup and key
    the expiry of what was imported there since the cleanup's listing,
    as long as it is there. -/
structure CleanupSystem (ι : Type) where
  kv : Kv
  clock : Int64
  stage : ι → CleanupStage
  renewed : ι → Key → Option UInt64

/-- What is known about the imports after a section that left `kv`. -/
def noteWrite (written : Option (Key × UInt64)) (kv : Kv) (renewed : Key → Option UInt64)
    (k : Key) : Option UInt64 :=
  if (kv.lookup k).isSome then
    match written with
    | some (key, exp) => if k = key then some exp else renewed k
    | none => renewed k
  else none

/-- The system after a section that wrote a credential, or none. -/
def CleanupSystem.settle (s : CleanupSystem ι) (now : Int64) (written : Option (Key × UInt64))
    (kv : Kv) : CleanupSystem ι :=
  { s with kv, clock := now, renewed := fun who => noteWrite written kv (s.renewed who) }

/-- The credential a slot store has written. -/
def writtenBy (imported : SlotImport) (r : Except String Key) : Option (Key × UInt64) :=
  match r with
  | .ok key => some (key, imported.credential.exp)
  | .error _ => none

section Step

variable [DecidableEq ι]

/-- The system after one critical section. -/
def cleanupStep (X : Crates) (s : CleanupSystem ι) : CleanupOp ι → CleanupSystem ι
  | .storeCredentialWithSlot f now imported =>
    let r := Ffi.storeCredentialWithSlot X f now imported.credential imported.label imported.slot
      imported.nickname s.kv
    s.settle now (writtenBy imported r.1) r.2
  | .storeCredentialSecrets f now credId secrets =>
    s.settle now none (Ffi.storeCredentialSecrets f credId secrets s.kv).2
  | .deleteCredential f now credentialId =>
    s.settle now none (Ffi.deleteCredential f credentialId s.kv).2
  | .deleteSandboxCredentials f now =>
    s.settle now none (Ffi.deleteSandboxCredentials f s.kv).2
  | .cleanup who f clock now =>
    let next := advanceCleanup f clock s.kv (s.stage who)
    let settled := s.settle now none next.1
    { settled with
      stage := Function.update s.stage who next.2
      renewed :=
        match s.stage who with
        -- the listing is taken now
        | .idle => Function.update settled.renewed who fun _ => none
        | .sweeping _ _ => settled.renewed }

end Step

/-- No cleanup is going on. -/
def cleanupStart (kv : Kv) (clock : Int64) : CleanupSystem ι :=
  { kv, clock, stage := fun _ => .idle, renewed := fun _ _ => none }

/-! ## §2. The property -/

/-- The clock does not go back. -/
def Forward (s : CleanupSystem ι) : CleanupOp ι → Prop
  | .cleanup _ _ clock now => s.clock ≤ now ∧ ∀ k, s.clock ≤ clock k ∧ clock k ≤ now
  | op => s.clock ≤ op.now

/-- A record is deleted. -/
def Deleted (kv kv' : Kv) (k : Key) : Prop := kv.lookup k ≠ none ∧ kv'.lookup k = none

section Property

variable [DecidableEq ι]

/-- **A cleanup deletes no live credential**: when a section of a cleanup
    deletes a record of the id it is at, the credential stored under the
    id has expired. -/
def SafeCleanup (X : Crates) (s : CleanupSystem ι) (op : CleanupOp ι) : Prop :=
  ∀ who f clock now id, op = .cleanup who f clock now → (s.stage who).target = some id →
    ∀ item stored, s.kv.lookup id = some item → decodeStored item.data = some stored →
      (Deleted s.kv (cleanupStep X s op).kv id ∨
        Deleted s.kv (cleanupStep X s op).kv (secretsKeyOf id)) →
      stored.credential.exp < nowSecs now

/-- What a cleanup is about to delete was not renewed since the listing,
    or has expired again, or cannot be deleted. -/
def NotRenewed (s : CleanupSystem ι) (op : CleanupOp ι) : Prop :=
  ∀ who f clock now id, op = .cleanup who f clock now → (s.stage who).target = some id →
    f.delete id = none → ∀ exp, s.renewed who id = some exp → exp < nowSecs now

end Property

/-! ## §3. A cleanup by itself -/

section Alone

variable [DecidableEq ι]

/-- The deletions of a cleanup, one after the other, are its loop. -/
private theorem sweep_alone (X : Crates) (who : ι) (clock : Key → Int64) (now : Int64)
    (fd : Key → Faults) (infos : List CredentialInfo) (removed : Nat) (s : CleanupSystem ι)
    (hstage : s.stage who = .sweeping infos removed) :
    ∃ ops n, (∀ op ∈ ops, ∃ f, op = .cleanup who f clock now) ∧
      deleteExpired fd infos removed ⟨some s.kv⟩ = (n, ⟨some (run (cleanupStep X) s ops).kv⟩) ∧
      (run (cleanupStep X) s ops).stage who = .sweeping [] n := by
  induction infos generalizing removed s with
  | nil =>
    refine ⟨[], removed, ?_, rfl, hstage⟩
    intro op hop
    cases hop
  | cons info infos ih =>
    have hnext : ∀ kv' removed', advanceCleanup (fd info.id) clock s.kv
        (.sweeping (info :: infos) removed) = (kv', .sweeping infos removed') →
        ∃ ops n, (∀ op ∈ ops, ∃ f, op = .cleanup who f clock now) ∧
          deleteExpired fd infos removed' ⟨some kv'⟩ =
            (n, ⟨some (run (cleanupStep X) s ops).kv⟩) ∧
          (run (cleanupStep X) s ops).stage who = .sweeping [] n := by
      intro kv' removed' hadvance
      have hkv : (cleanupStep X s (.cleanup who (fd info.id) clock now)).kv = kv' := by
        show (advanceCleanup (fd info.id) clock s.kv (s.stage who)).1 = kv'
        rw [hstage, hadvance]
      have hstage' : (cleanupStep X s (.cleanup who (fd info.id) clock now)).stage who =
          .sweeping infos removed' := by
        show Function.update s.stage who
          (advanceCleanup (fd info.id) clock s.kv (s.stage who)).2 who = _
        rw [Function.update_self, hstage, hadvance]
      obtain ⟨ops, n, hops, hloop, hend⟩ := ih removed' _ hstage'
      rw [hkv] at hloop
      exact ⟨.cleanup who (fd info.id) clock now :: ops, n,
        List.forall_mem_cons.2 ⟨⟨_, rfl⟩, hops⟩, hloop, hend⟩
    unfold deleteExpired
    by_cases hexpired : info.isExpired = true
    · rw [if_pos hexpired, call_some]
      have hadvance : ∀ r, deleteCredential (fd info.id) info.id s.kv = r →
          advanceCleanup (fd info.id) clock s.kv (.sweeping (info :: infos) removed) =
            (r.2, .sweeping infos (if r.1 = .ok () then removed + 1 else removed)) := by
        rintro ⟨e | _, kv'⟩ hdelete
        · unfold advanceCleanup
          simp only [if_pos hexpired, hdelete]
          rfl
        · unfold advanceCleanup
          simp only [if_pos hexpired, hdelete]
          rfl
      cases hdelete : deleteCredential (fd info.id) info.id s.kv with
      | mk r kv' =>
        have hadvance' := hadvance _ hdelete
        cases r with
        | error e => exact hnext kv' removed hadvance'
        | ok u => exact hnext kv' (removed + 1) hadvance'
    · rw [if_neg hexpired]
      refine hnext s.kv removed ?_
      unfold advanceCleanup
      simp only [if_neg hexpired]

/-- **A cleanup by itself is the wallet's method**: its listing and its
    deletions with nothing in between. -/
theorem cleanup_alone (X : Crates) (who : ι) (f : Faults) (clock : Key → Int64) (now : Int64)
    (fd : Key → Faults) (s : CleanupSystem ι) (hidle : s.stage who = .idle) :
    ∃ ops n, (∀ op ∈ ops, ∃ f', op = .cleanup who f' clock now) ∧
      cleanupExpiredCredentials f clock fd ⟨some s.kv⟩ =
        (n, ⟨some (run (cleanupStep X) s ops).kv⟩) ∧
      (run (cleanupStep X) s ops).stage who = .sweeping [] n := by
  have hstart : ∀ infos, advanceCleanup f clock s.kv .idle = (s.kv, .sweeping infos 0) →
      ∃ ops n, (∀ op ∈ ops, ∃ f', op = .cleanup who f' clock now) ∧
        deleteExpired fd infos 0 ⟨some s.kv⟩ = (n, ⟨some (run (cleanupStep X) s ops).kv⟩) ∧
        (run (cleanupStep X) s ops).stage who = .sweeping [] n := by
    intro infos hadvance
    have hkv : (cleanupStep X s (.cleanup who f clock now)).kv = s.kv := by
      show (advanceCleanup f clock s.kv (s.stage who)).1 = s.kv
      rw [hidle, hadvance]
    have hstage : (cleanupStep X s (.cleanup who f clock now)).stage who = .sweeping infos 0 := by
      show Function.update s.stage who (advanceCleanup f clock s.kv (s.stage who)).2 who = _
      rw [Function.update_self, hidle, hadvance]
    obtain ⟨ops, n, hops, hloop, hend⟩ := sweep_alone X who clock now fd infos 0 _ hstage
    rw [hkv] at hloop
    exact ⟨.cleanup who f clock now :: ops, n, List.forall_mem_cons.2 ⟨⟨_, rfl⟩, hops⟩, hloop, hend⟩
  unfold cleanupExpiredCredentials Storage.read
  unfold advanceCleanup at hstart
  cases hlist : listCredentials f clock s.kv with
  | error e =>
    simp only [hlist] at hstart ⊢
    exact hstart [] rfl
  | ok creds =>
    simp only [hlist] at hstart ⊢
    exact hstart creds rfl

end Alone

/-! ## §4. What a section does to a public record -/

/-- The record under a public key after a section: gone, or as it was, or
    what the section has written. -/
def Settles (kv kv' : Kv) (written : Option (Key × UInt64)) : Prop :=
  ∀ k, isCredentialKey k = true → kv'.lookup k = none ∨
    (kv'.lookup k = kv.lookup k ∧ ∀ exp, written ≠ some (k, exp)) ∨
    ∃ exp item stored, written = some (k, exp) ∧ kv'.lookup k = some item ∧
      decodeStored item.data = some stored ∧ stored.credential.exp = exp

/-- A section that only deletes. -/
theorem settles_of_erase {kv kv' : Kv}
    (h : ∀ k, isCredentialKey k = true → kv'.lookup k = none ∨ kv'.lookup k = kv.lookup k) :
    Settles kv kv' none := by
  intro k hk
  rcases h k hk with hgone | hsame
  · exact Or.inl hgone
  · exact Or.inr (Or.inl ⟨hsame, fun exp => (Option.some_ne_none _).symm⟩)

theorem settles_eraseAll (kv : Kv) (gone : List Key) : Settles kv (eraseAll kv gone) none := by
  refine settles_of_erase fun k _ => ?_
  rw [lookup_eraseAll]
  split
  · exact Or.inl rfl
  · exact Or.inr rfl

theorem settles_deleteCredential (f : Faults) (id : Key) (kv : Kv) :
    Settles kv (deleteCredential f id kv).2 none := by
  rcases deleteCredential_outcome f id kv with ⟨e, -, h⟩ | ⟨-, -, h⟩ | ⟨-, -, h⟩
  · rw [h]
    exact settles_eraseAll kv []
  · rw [h]
    exact settles_eraseAll kv [id]
  · rw [h]
    exact settles_eraseAll kv [id, secretsKeyOf id]

theorem settles_deleteSandboxCredentials (f : Faults) (kv : Kv) :
    Settles kv (deleteSandboxCredentials f kv).2 none := by
  unfold deleteSandboxCredentials deleteAllInNamespace
  split
  · exact settles_eraseAll kv []
  · rw [deleteMatching_spec]
    exact settles_eraseAll kv _

theorem settles_storeCredentialSecrets (f : Faults) (credId : Key) (secrets : CredentialSecrets)
    (kv : Kv) : Settles kv (storeCredentialSecrets f credId secrets kv).2 none := by
  rcases storeCredentialSecrets_outcome f credId secrets kv with ⟨e, -, h⟩ | ⟨-, h⟩
  · rw [h]
    exact settles_eraseAll kv []
  · rw [h]
    refine settles_of_erase fun k hk => Or.inr ?_
    rw [lookup_insert_of, if_neg]
    rintro rfl
    rw [isCredentialKey_secretsKeyOf] at hk
    cases hk

theorem settles_storeCredentialWithSlot (X : Crates) (f : Faults) (now : Int64)
    (imported : SlotImport) (kv : Kv) :
    Settles kv (storeCredentialWithSlot X f now imported.credential imported.label imported.slot
        imported.nickname kv).2
      (writtenBy imported (storeCredentialWithSlot X f now imported.credential imported.label
        imported.slot imported.nickname kv).1) := by
  have hout := storeCredentialWithSlot_outcome X f now imported.credential imported.label
    imported.slot imported.nickname kv
  generalize storeCredentialWithSlot X f now imported.credential imported.label imported.slot
    imported.nickname kv = r at hout ⊢
  cases hout with
  | listFailed e hlist => exact settles_eraseAll kv []
  | deleteFailed keys gone k e hlist hpre hgone hfail => exact settles_eraseAll kv gone
  | storeFailed keys e hlist hgone hfail => exact settles_eraseAll kv _
  | stored keys hlist hgone hstore =>
    intro k hk
    have hlookup := lookup_insert_of (eraseAll kv (slotKeys (placeOf imported.label imported.slot)
      keys)) (newKey X (placeOf imported.label imported.slot) imported.credential) k
      (newItem now imported.credential imported.label imported.slot imported.nickname)
    simp only [hlookup]
    by_cases hkey : k = newKey X (placeOf imported.label imported.slot) imported.credential
    · rw [if_pos hkey]
      have hdecode := decodeStored_encodeStored _ (storedRecord_fits now imported.credential
        imported.label imported.slot imported.nickname imported.kid imported.schema
        imported.labelFits imported.nicknameFits)
      refine Or.inr (Or.inr ⟨imported.credential.exp, newItem now imported.credential imported.label
        imported.slot imported.nickname, _, ?_, rfl, hdecode, rfl⟩)
      rw [hkey]
      rfl
    · rw [if_neg hkey]
      rcases settles_eraseAll kv (slotKeys (placeOf imported.label imported.slot) keys) k hk with
        hgone' | ⟨hsame, -⟩ | ⟨exp, _, _, hnone, -⟩
      · exact Or.inl hgone'
      · refine Or.inr (Or.inl ⟨hsame, fun exp h => hkey ?_⟩)
        injection h with h
        exact (congrArg Prod.fst h).symm
      · cases hnone

/-- A section of a cleanup deletes what its target says, or nothing. -/
theorem advanceCleanup_kv (f : Faults) (clock : Key → Int64) (kv : Kv) (stage : CleanupStage) :
    (advanceCleanup f clock kv stage).1 =
      stage.target.elim kv fun id => (deleteCredential f id kv).2 := by
  cases stage with
  | idle =>
    unfold advanceCleanup
    cases listCredentials f clock kv <;> rfl
  | sweeping left removed =>
    cases left with
    | nil => rfl
    | cons info infos =>
      unfold advanceCleanup CleanupStage.target
      by_cases hexpired : info.isExpired = true
      · simp only [if_pos hexpired]
        show _ = (deleteCredential f info.id kv).2
        rcases deleteCredential f info.id kv with ⟨e | _, kv'⟩
        · rfl
        · rfl
      · simp only [if_neg hexpired]
        rfl

theorem settles_advanceCleanup (f : Faults) (clock : Key → Int64) (kv : Kv)
    (stage : CleanupStage) : Settles kv (advanceCleanup f clock kv stage).1 none := by
  rw [advanceCleanup_kv]
  cases stage.target with
  | some id => exact settles_deleteCredential f id kv
  | none => exact settles_eraseAll kv []

/-! ## §5. The invariant -/

/-- What is known about the record under a listed id: it is the renewed
    one, or else it expired before the clock. -/
structure Tracked (kv : Kv) (clock : Int64) (id : Key) (renewed : Option UInt64) : Prop where
  imported : ∀ exp, renewed = some exp → ∃ item stored, kv.lookup id = some item ∧
    decodeStored item.data = some stored ∧ stored.credential.exp = exp
  listed : renewed = none → ∀ item stored, kv.lookup id = some item →
    decodeStored item.data = some stored → stored.credential.exp < nowSecs clock

/-- Later clock readings give later times. -/
theorem nowSecs_le {a b : Int64} (h : a ≤ b) : nowSecs a ≤ nowSecs b := by
  have hle : a.toInt ≤ b.toInt := Int64.le_iff_toInt_le.1 h
  have ha : a.toInt < 9223372036854775808 := Int64.toInt_lt a
  have hb : b.toInt < 9223372036854775808 := Int64.toInt_lt b
  unfold nowSecs
  rw [UInt64.le_iff_toNat_le, UInt64.toNat_ofNat', UInt64.toNat_ofNat']
  omega

/-- What is known about a key that was not written. -/
private theorem noteWrite_of_other {written : Option (Key × UInt64)} {k : Key}
    (h : ∀ exp, written ≠ some (k, exp)) (kv : Kv) (renewed : Key → Option UInt64) :
    noteWrite written kv renewed k = if (kv.lookup k).isSome then renewed k else none := by
  cases written with
  | none => rfl
  | some w =>
    have hne : k ≠ w.1 := by
      rintro rfl
      exact h w.2 rfl
    unfold noteWrite
    simp only [if_neg hne]

/-- **A section keeps track** of every public record. -/
theorem Tracked.settle {kv kv' : Kv} {clock now : Int64} {id : Key}
    {renewed : Key → Option UInt64} {written : Option (Key × UInt64)}
    (h : Tracked kv clock id (renewed id)) (hsettles : Settles kv kv' written)
    (hpublic : isCredentialKey id = true) (hnow : clock ≤ now) :
    Tracked kv' now id (noteWrite written kv' renewed id) := by
  rcases hsettles id hpublic with hgone | ⟨hsame, hother⟩ | ⟨exp, item, stored, hwritten, hitem,
    hstored, hexp⟩
  · -- no record, so nothing is known and nothing claimed
    unfold noteWrite
    rw [hgone]
    constructor
    · intro exp hexp
      cases hexp
    · intro _ item stored hitem
      rw [hgone] at hitem
      cases hitem
  · rw [noteWrite_of_other hother, hsame]
    cases hlookup : kv.lookup id with
    | none =>
      constructor
      · intro exp hexp
        cases hexp
      · intro _ item stored hitem
        rw [hsame, hlookup] at hitem
        cases hitem
    | some item =>
      rw [Option.isSome_some, if_pos rfl]
      constructor
      · intro exp hexp
        obtain ⟨item', stored, hitem', hstored, hcred⟩ := h.imported exp hexp
        exact ⟨item', stored, hsame.trans hitem', hstored, hcred⟩
      · intro hnone item' stored hitem' hstored
        rw [hsame] at hitem'
        exact UInt64.lt_of_lt_of_le (h.listed hnone item' stored hitem' hstored) (nowSecs_le hnow)
  · unfold noteWrite
    rw [hitem, hwritten, Option.isSome_some, if_pos rfl]
    simp only [if_true]
    constructor
    · intro exp' hexp'
      injection hexp' with hexp'
      exact ⟨item, stored, hitem, hstored, hexp.trans hexp'⟩
    · intro hnone
      cases hnone

/-- Every cleanup is on the track of what it may delete. -/
def OnTrack (s : CleanupSystem ι) : Prop :=
  ∀ who, ∀ info ∈ (s.stage who).left, info.isExpired = true →
    isCredentialKey info.id = true ∧ Tracked s.kv s.clock info.id (s.renewed who info.id)

theorem onTrack_start (kv : Kv) (clock : Int64) :
    OnTrack (cleanupStart kv clock : CleanupSystem ι) := by
  intro who info hinfo
  cases hinfo

/-- A section other than a listing keeps track, whatever is left of each
    listing. -/
theorem OnTrack.settle {s : CleanupSystem ι} (h : OnTrack s) {now : Int64}
    {written : Option (Key × UInt64)} {kv' : Kv} (hsettles : Settles s.kv kv' written)
    (hnow : s.clock ≤ now) (stage : ι → CleanupStage)
    (hleft : ∀ who, ∀ info ∈ (stage who).left, info ∈ (s.stage who).left) :
    OnTrack { s.settle now written kv' with stage } := by
  intro who info hinfo hexpired
  obtain ⟨hpublic, htracked⟩ := h who info (hleft who info hinfo) hexpired
  exact ⟨hpublic, htracked.settle hsettles hpublic hnow⟩

/-- A listing puts a cleanup on the track. -/
theorem tracked_of_listing {f : Faults} {clock : Key → Int64} {kv : Kv}
    {infos : List CredentialInfo} {now : Int64} (h : listCredentials f clock kv = .ok infos)
    (hclock : ∀ k, clock k ≤ now) {info : CredentialInfo} (hinfo : info ∈ infos)
    (hexpired : info.isExpired = true) :
    isCredentialKey info.id = true ∧ Tracked kv now info.id none := by
  refine ⟨isCredentialKey_of_listCredentials h info hinfo, ?_, ?_⟩
  · intro exp hexp
    cases hexp
  · intro _ item stored hitem hstored
    obtain ⟨item', stored', hitem', hstored', hexp⟩ :=
      listEntry_record (listEntry_of_listCredentials h info hinfo)
    rw [hexpired, ← decoded_unique hitem hstored hitem' hstored'] at hexp
    exact UInt64.lt_of_lt_of_le (of_decide_eq_true hexp.symm) (nowSecs_le (hclock info.id))

section Main

variable [DecidableEq ι]

/-- A section of a cleanup leaves less of its listing, or takes one. -/
theorem advanceCleanup_left (f : Faults) (clock : Key → Int64) (kv : Kv)
    (left : List CredentialInfo) (removed : Nat) :
    ∀ info ∈ (advanceCleanup f clock kv (.sweeping left removed)).2.left, info ∈ left := by
  intro info hinfo
  unfold advanceCleanup at hinfo
  cases left with
  | nil => cases hinfo
  | cons first infos =>
    simp only at hinfo
    split at hinfo
    · split at hinfo
      · exact List.mem_cons_of_mem first hinfo
      · exact List.mem_cons_of_mem first hinfo
    · exact List.mem_cons_of_mem first hinfo

/-- **A step keeps track.** -/
theorem onTrack_step (X : Crates) (s : CleanupSystem ι) (op : CleanupOp ι) (h : OnTrack s)
    (hforward : Forward s op) : OnTrack (cleanupStep X s op) := by
  cases op with
  | storeCredentialWithSlot f now imported =>
    exact h.settle (settles_storeCredentialWithSlot X f now imported s.kv) hforward s.stage
      fun _ _ hinfo => hinfo
  | storeCredentialSecrets f now credId secrets =>
    exact h.settle (settles_storeCredentialSecrets f credId secrets s.kv) hforward s.stage
      fun _ _ hinfo => hinfo
  | deleteCredential f now credentialId =>
    exact h.settle (settles_deleteCredential f credentialId s.kv) hforward s.stage
      fun _ _ hinfo => hinfo
  | deleteSandboxCredentials f now =>
    exact h.settle (settles_deleteSandboxCredentials f s.kv) hforward s.stage
      fun _ _ hinfo => hinfo
  | cleanup who f clock now =>
    obtain ⟨hnow, hclock⟩ := hforward
    have hsettles := settles_advanceCleanup f clock s.kv (s.stage who)
    cases hstage : s.stage who with
    | sweeping left removed =>
      have hstep : cleanupStep X s (.cleanup who f clock now) =
          { s.settle now none (advanceCleanup f clock s.kv (s.stage who)).1 with
            stage := Function.update s.stage who (advanceCleanup f clock s.kv (s.stage who)).2 } := by
        unfold cleanupStep
        simp only [hstage]
      rw [hstep]
      refine h.settle hsettles hnow _ fun j info hinfo => ?_
      by_cases hj : j = who
      · subst hj
        rw [Function.update_self, hstage] at hinfo
        rw [hstage]
        exact advanceCleanup_left f clock s.kv left removed info hinfo
      · rw [Function.update_of_ne hj] at hinfo
        exact hinfo
    | idle =>
      -- the listing leaves the store alone, and starts a track of its own
      have hkv : (advanceCleanup f clock s.kv .idle).1 = s.kv := advanceCleanup_kv f clock s.kv .idle
      rw [hstage, hkv] at hsettles
      intro j info hinfo hexpired
      unfold cleanupStep at hinfo ⊢
      simp only [hstage] at hinfo ⊢
      by_cases hj : j = who
      · subst hj
        rw [Function.update_self] at hinfo
        rw [Function.update_self]
        unfold advanceCleanup at hinfo ⊢
        cases hlist : listCredentials f clock s.kv with
        | error e =>
          rw [hlist] at hinfo
          cases hinfo
        | ok creds =>
          rw [hlist] at hinfo
          exact tracked_of_listing hlist (fun k => (hclock k).2) hinfo hexpired
      · rw [Function.update_of_ne hj] at hinfo
        rw [Function.update_of_ne hj]
        obtain ⟨hpublic, htracked⟩ := h j info hinfo hexpired
        exact ⟨hpublic, hkv.symm ▸ htracked.settle hsettles hpublic hnow⟩

/-! ## §6. The exact condition -/

/-- What a cleanup is at is a listed credential that had expired. -/
theorem target_left {stage : CleanupStage} {id : Key} (h : stage.target = some id) :
    ∃ info ∈ stage.left, info.isExpired = true ∧ info.id = id := by
  cases stage with
  | idle => cases h
  | sweeping left removed =>
    cases left with
    | nil => cases h
    | cons info infos =>
      unfold CleanupStage.target at h
      simp only at h
      split at h
      next hexpired =>
        injection h with h
        exact ⟨info, List.mem_cons_self, hexpired, h⟩
      next => cases h

/-- A section of a cleanup deletes something exactly if the delete of the
    public record does not fail. -/
theorem deleted_iff (f : Faults) (id : Key) (kv : Kv) (hstored : kv.lookup id ≠ none) :
    (Deleted kv (deleteCredential f id kv).2 id ∨
      Deleted kv (deleteCredential f id kv).2 (secretsKeyOf id)) ↔ f.delete id = none := by
  have hself : ∀ k, ¬ Deleted kv kv k := fun k h => h.1 h.2
  rcases deleteCredential_outcome f id kv with ⟨e, hfail, h⟩ | ⟨hok, -, h⟩ | ⟨hok, -, h⟩
  · rw [h, hfail]
    refine iff_of_false ?_ (Option.some_ne_none e)
    rintro (hdeleted | hdeleted)
    · exact hself id hdeleted
    · exact hself _ hdeleted
  · rw [h]
    exact iff_of_true (Or.inl ⟨hstored, AList.lookup_erase id kv⟩) hok
  · rw [h]
    refine iff_of_true (Or.inl ⟨hstored, ?_⟩) hok
    rw [lookup_erase_of]
    split
    · rfl
    · exact AList.lookup_erase id kv

/-- **One step** of a cleanup is safe exactly if what it deletes was not
    renewed. -/
theorem safeCleanup_iff (X : Crates) (s : CleanupSystem ι) (op : CleanupOp ι) (h : OnTrack s)
    (hforward : Forward s op) : SafeCleanup X s op ↔ NotRenewed s op := by
  have hkv : ∀ who f clock now id, op = .cleanup who f clock now → (s.stage who).target = some id →
      (cleanupStep X s op).kv = (deleteCredential f id s.kv).2 := by
    rintro who f clock now id rfl htarget
    show (advanceCleanup f clock s.kv (s.stage who)).1 = _
    rw [advanceCleanup_kv, htarget, Option.elim_some]
  constructor
  · intro hsafe who f clock now id hop htarget hdelete exp hexp
    obtain ⟨info, hinfo, hexpired, rfl⟩ := target_left htarget
    obtain ⟨item, stored, hitem, hstored, hcred⟩ := (h who info hinfo hexpired).2.imported exp hexp
    rw [← hcred]
    refine hsafe who f clock now info.id hop htarget item stored hitem hstored ?_
    rw [hkv who f clock now info.id hop htarget]
    refine (deleted_iff f info.id s.kv ?_).2 hdelete
    rw [hitem]
    exact Option.some_ne_none item
  · intro hnot who f clock now id hop htarget item stored hitem hstored hdeleted
    obtain ⟨info, hinfo, hexpired, rfl⟩ := target_left htarget
    have htracked := (h who info hinfo hexpired).2
    rw [hkv who f clock now info.id hop htarget] at hdeleted
    have hdelete := (deleted_iff f info.id s.kv (by rw [hitem]; exact Option.some_ne_none item)).1
      hdeleted
    cases hrenewed : s.renewed who info.id with
    | some exp =>
      obtain ⟨item', stored', hitem', hstored', hcred⟩ := htracked.imported exp hrenewed
      rw [decoded_unique hitem hstored hitem' hstored', hcred]
      exact hnot who f clock now info.id hop htarget hdelete exp hrenewed
    | none =>
      -- the listed record, which had expired by then
      have hlive := htracked.listed hrenewed item stored hitem hstored
      rw [hop] at hforward
      exact UInt64.lt_of_lt_of_le hlive (nowSecs_le hforward.1)

/-- **No cleanup deletes a live credential**, in a run on a clock that
    does not go back, exactly when no cleanup deletes under an id at
    which a credential that is still live was imported after the
    cleanup's listing. -/
theorem cleanup_safe_iff (X : Crates) (kv : Kv) (clock : Int64) (ops : List (CleanupOp ι))
    (hforward : StepsMeet (cleanupStep X) Forward (cleanupStart kv clock) ops) :
    StepsMeet (cleanupStep X) (SafeCleanup X) (cleanupStart kv clock) ops ↔
      StepsMeet (cleanupStep X) NotRenewed (cleanupStart kv clock) ops :=
  stepsMeet_iff_of_assumption (fun s op h hop => onTrack_step X s op h hop)
    (fun s op h hop => safeCleanup_iff X s op h hop) (onTrack_start kv clock) hforward

end Main

/-- The sample credential with another expiry. -/
def renewal (exp : UInt64) : SlotImport :=
  { credential := redacted { provableCredential with exp }
    label := none
    slot := .primary
    nickname := none
    kid := by
      show (Wire.utf8 "provii:2026-05").length < 2 ^ 64
      decide
    schema := by
      show (Wire.utf8 "provii.age/0").length < 2 ^ 64
      decide
    labelFits := by
      intro l hl
      cases hl
    nicknameFits := by
      intro n hn
      cases hn }

/-- A store with an expired credential. -/
def expiredStore : Kv :=
  (storeCredentialWithSlot sampleCrates .never 0 (renewal 1699999999).credential none .primary none
    ∅).2

/-- A section of the only cleanup, on a healthy backend. -/
def cleanupAt (now : Int64) : CleanupOp Unit := .cleanup () .never (fun _ => now) now

/-- A cleanup lists the credential, it is renewed, and the cleanup goes
    on. -/
def renewedMeanwhile : List (CleanupOp Unit) :=
  [cleanupAt 1700000000, .storeCredentialWithSlot .never 1700000000 (renewal 2000000000),
    cleanupAt 1700000000]

/-- The same, but the import that comes in between has expired as well. -/
def expiredMeanwhile : List (CleanupOp Unit) :=
  [cleanupAt 1700000000, .storeCredentialWithSlot .never 1700000000 (renewal 1699999998),
    cleanupAt 1700000000]

theorem expiredMeanwhile_forward :
    StepsMeet (cleanupStep sampleCrates) Forward (cleanupStart expiredStore 1700000000)
      expiredMeanwhile := by
  have hsame : (1700000000 : Int64) ≤ 1700000000 := by decide
  exact ⟨⟨hsame, fun _ => ⟨hsame, hsame⟩⟩, hsame, ⟨hsame, fun _ => ⟨hsame, hsame⟩⟩, trivial⟩

/-- The wallet when its cleanup goes on. -/
def expiredImported : CleanupSystem Unit :=
  run (cleanupStep sampleCrates) (cleanupStart expiredStore 1700000000) (expiredMeanwhile.take 2)

theorem expiredImported_target :
    (expiredImported.stage ()).target =
      some (newKey sampleCrates (placeOf none .primary) (renewal 1699999998).credential) := by
  decide +kernel

theorem expiredImported_renewed :
    expiredImported.renewed ()
      (newKey sampleCrates (placeOf none .primary) (renewal 1699999998).credential) =
        some 1699999998 := by
  decide +kernel

/-- Its cleanup deletes what was imported, and has the right to. -/
theorem expiredMeanwhile_notRenewed :
    StepsMeet (cleanupStep sampleCrates) NotRenewed (cleanupStart expiredStore 1700000000)
      expiredMeanwhile := by
  refine ⟨?_, ?_, ?_, trivial⟩
  · -- a listing deletes nothing
    intro who f clock now id _ htarget
    cases htarget
  · intro who f clock now id hop
    cases hop
  · intro who f clock now id hop htarget _ exp hexp
    injection hop with _ _ _ hnow
    subst hnow
    have hid := expiredImported_target.symm.trans htarget
    injection hid with hid
    rw [← hid] at hexp
    have hsame := expiredImported_renewed.symm.trans hexp
    injection hsame with hsame
    rw [← hsame]
    decide

theorem renewedMeanwhile_forward :
    StepsMeet (cleanupStep sampleCrates) Forward (cleanupStart expiredStore 1700000000)
      renewedMeanwhile := by
  have hsame : (1700000000 : Int64) ≤ 1700000000 := by decide
  exact ⟨⟨hsame, fun _ => ⟨hsame, hsame⟩⟩, hsame, ⟨hsame, fun _ => ⟨hsame, hsame⟩⟩, trivial⟩

/-- A run that meets the condition, and the equivalence at one that does
    not. -/
theorem cleanup_safe_renewed :
    StepsMeet (cleanupStep sampleCrates) (SafeCleanup sampleCrates)
        (cleanupStart expiredStore 1700000000) expiredMeanwhile ∧
      (StepsMeet (cleanupStep sampleCrates) (SafeCleanup sampleCrates)
          (cleanupStart expiredStore 1700000000) renewedMeanwhile ↔
        StepsMeet (cleanupStep sampleCrates) NotRenewed (cleanupStart expiredStore 1700000000)
          renewedMeanwhile) :=
  ⟨(cleanup_safe_iff sampleCrates expiredStore 1700000000 expiredMeanwhile
      expiredMeanwhile_forward).2 expiredMeanwhile_notRenewed,
    cleanup_safe_iff sampleCrates expiredStore 1700000000 renewedMeanwhile
      renewedMeanwhile_forward⟩

/-- **A renewed credential is lost**: the cleanup deletes it by the id of
    the expired one. -/
theorem cleanup_deletes_renewed :
    StepsMeet (cleanupStep sampleCrates) Forward (cleanupStart expiredStore 1700000000)
        renewedMeanwhile ∧
      ¬ StepsMeet (cleanupStep sampleCrates) (SafeCleanup sampleCrates)
        (cleanupStart expiredStore 1700000000) renewedMeanwhile := by
  refine ⟨renewedMeanwhile_forward, fun h => ?_⟩
  have hexp := h.2.2.1 () .never (fun _ => 1700000000) 1700000000
    (newKey sampleCrates (placeOf none .primary) (renewal 2000000000).credential) rfl
    (by decide +kernel) (newItem 1700000000 (renewal 2000000000).credential none .primary none)
    (storedRecord 1700000000 (renewal 2000000000).credential none .primary none)
    (by decide +kernel) (by decide +kernel)
    (Or.inl ⟨by decide +kernel, by decide +kernel⟩)
  exact absurd hexp (by decide)

end ProviiSdk.Wallet
