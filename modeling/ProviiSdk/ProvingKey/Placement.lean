/-
  ProviiSdk.ProvingKey.Placement — what a download leaves behind.

  A download checks what it has before it renames it into place, and
  touches the final file in no other way.  This file follows one attempt
  through every exit, and then the loop of attempts with the checks in
  front of it, over every content of the two files, every answer of the
  two transports and every failing file operation.

  Main results:
    * `verifyPkIntegrity_true` — what a passed check says of a file.
    * `downloadSingleAttempt_placed` — what one attempt does to the final
      file.
    * `downloadWithProgress_placed` — what a whole download does to it.
    * `placement_safe` — both, and that a rejected file is not continued.
-/

import ProviiSdk.Lib.Retry
import ProviiSdk.ProvingKey.Resume
import ProviiSdk.ProvingKey.RetryBudget

namespace ProviiSdk.ProvingKey

open ProviiSdk.Ffi ProviiSdk.Retry

/-! ## §1. The whole download -/

/-- What one round of the loop meets: the shared record of attempts and
    the clock when it is extended and when it is asked, a random draw,
    and the failures and the network of the attempt. -/
structure Round where
  gatePoisoned : Option String
  trimNow : Nat
  pushNow : Nat
  gateRecord : RetryState
  queryPoisoned : Option String
  queryNow : Nat
  queryRecord : RetryState
  random : UInt64
  io : AttemptFaults
  net : Network

/-- One round of the loop; without an answer it goes on after a delay. -/
def downloadRound (hash : Blake2s256) (m : ProvingKeyManager) (r : Round) (disk : Disk) :
    Option (Except FfiError Unit) × Disk :=
  match (recordAttempt r.gatePoisoned r.trimNow r.pushNow m.vkId r.gateRecord).1 with
  | .error e => (some (.error e), disk)
  | .ok attemptIdx =>
    match downloadSingleAttempt hash m r.io r.net disk with
    | (.ok (), disk) => (some (.ok ()), disk)
    | (.error attemptErr, disk) =>
      match afterFailure m.vkId attemptIdx attemptErr r.random
          (attemptsConsumed r.queryPoisoned r.queryNow m.vkId r.queryRecord).1 with
      | .finished result => (some result, disk)
      | _ => (none, disk)

/-- Check the surroundings and the final file, and try to download it
    until an attempt succeeds or no more may be made. -/
def downloadWithProgress (hash : Blake2s256) (m : ProvingKeyManager) (env : StepEnv)
    (finalFaults : VerifyFaults) (rs : List Round) (disk : Disk) :
    Option (Except FfiError Unit) × Disk :=
  -- a check that fails to run counts as a failed check
  let valid := decide (verifyPkIntegrity hash finalFaults disk.final = .ok true)
  match preflight { env with finalFileValid := valid } with
  | some result => (some result, disk)
  | none => rounds (downloadRound hash m) rs disk

/-! ## §2. The property -/

/-- **The final file is the key or what it was**: after a success it
    passes the check, and after an error it is untouched. -/
structure Placed (hash : Blake2s256) (before : Disk) (result : Except FfiError Unit)
    (after : Disk) : Prop where
  genuine : result = .ok () → ∃ key, after.final = some key ∧ Genuine hash key
  kept : ∀ e, result = .error e → after.final = before.final

/-- An error that leaves the final file alone. -/
theorem Placed.of_error {hash : Blake2s256} {before after : Disk} (e : FfiError)
    (h : after.final = before.final) : Placed hash before (.error e) after := by
  constructor
  · intro hok
    cases hok
  · intro _ _
    exact h

/-- A success that puts a genuine file in place. -/
theorem Placed.of_genuine {hash : Blake2s256} {before after : Disk} {key : Content}
    (hfinal : after.final = some key) (hkey : Genuine hash key) :
    Placed hash before (.ok ()) after := by
  constructor
  · intro _
    exact ⟨key, hfinal, hkey⟩
  · intro e he
    cases he

/-- What was true of the final file before may be said of an earlier
    state with the same final file. -/
theorem Placed.of_final_eq {hash : Blake2s256} {earlier before after : Disk}
    {result : Except FfiError Unit} (h : Placed hash before result after)
    (hfinal : before.final = earlier.final) : Placed hash earlier result after := by
  constructor
  · exact h.genuine
  · intro e he
    rw [h.kept e he, hfinal]

/-! ## §3. One attempt -/

/-- **A passed check** is one of a file of the right size and digest. -/
theorem verifyPkIntegrity_true {hash : Blake2s256} {io : VerifyFaults} {file : Option Content}
    (h : verifyPkIntegrity hash io file = .ok true) :
    ∃ key, file = some key ∧ Genuine hash key := by
  unfold verifyPkIntegrity at h
  cases file with
  | none => cases h
  | some content =>
    simp only at h
    split at h
    · cases h
    split at h
    · cases h
    split at h
    · cases h
    next hsize =>
      split at h
      · cases h
      split at h
      · cases h
      injection h with h
      exact ⟨content, rfl, not_not.1 hsize, eq_of_beq h⟩

/-- The HTTP/3 leg writes to the temporary file only. -/
theorem downloadWithHttp3_final (io : WriteFaults) (net : Network) (resumeFrom : Nat)
    (disk : Disk) : (downloadWithHttp3 io net resumeFrom disk).2.final = disk.final := by
  unfold downloadWithHttp3
  split
  · rfl
  split
  · rfl
  split
  · rfl
  · rfl

/-- And so does the HTTP/2 leg. -/
theorem http2DownloadToFile_final (io : WriteFaults) (net : Network) (outPath : String)
    (resumeFrom expectedSize : Option Nat) (disk : Disk) :
    (http2DownloadToFile io net outPath resumeFrom expectedSize disk).2.final = disk.final := by
  unfold http2DownloadToFile
  split
  · rfl
  split
  · rfl
  split
  · rfl
  split
  · rfl
  split
  · rfl
  split
  · rfl
  · rfl

/-- What an attempt makes of what it finds. -/
theorem detectResume_placed (hash : Blake2s256) (io : AttemptFaults) (disk : Disk) :
    (∀ result after, detectResume hash io disk = .finished result after →
      Placed hash disk result after) ∧
    ∀ offset after, detectResume hash io disk = .continueAt offset after →
      after.final = disk.final := by
  unfold detectResume
  cases htemp : disk.temp with
  | none =>
    refine ⟨fun result after h => ?_, fun offset after h => ?_⟩
    · cases h
    · cases h
      rfl
  | some content =>
    simp only
    split
    · refine ⟨fun result after h => ?_, fun offset after h => ?_⟩
      · cases h
      · cases h
        rfl
    split
    next e _ =>
      refine ⟨fun result after h => ?_, fun offset after h => ?_⟩
      · cases h
        exact .of_error _ rfl
      · cases h
    split
    · split
      next hvalid =>
        obtain ⟨key, hkey, hgenuine⟩ := verifyPkIntegrity_true hvalid
        split
        · refine ⟨fun result after h => ?_, fun offset after h => ?_⟩
          · cases h
            exact .of_error _ rfl
          · cases h
        · refine ⟨fun result after h => ?_, fun offset after h => ?_⟩
          · cases h
            exact .of_genuine hkey hgenuine
          · cases h
      next =>
        split
        · refine ⟨fun result after h => ?_, fun offset after h => ?_⟩
          · cases h
          · cases h
            rfl
        · refine ⟨fun result after h => ?_, fun offset after h => ?_⟩
          · cases h
          · cases h
            rfl
    · refine ⟨fun result after h => ?_, fun offset after h => ?_⟩
      · cases h
      · cases h
        rfl

/-- The last check and the rename. -/
theorem finishDownload_placed (hash : Blake2s256) (io : AttemptFaults) (disk : Disk) :
    Placed hash disk (finishDownload hash io disk).1 (finishDownload hash io disk).2 := by
  unfold finishDownload
  cases hcheck : verifyPkIntegrity hash io.verifyAfter disk.temp with
  | error e => exact .of_error e rfl
  | ok valid =>
    cases valid with
    | false =>
      simp only
      split
      · exact .of_error _ rfl
      · exact .of_error _ rfl
    | true =>
      obtain ⟨key, hkey, hgenuine⟩ := verifyPkIntegrity_true hcheck
      simp only
      split
      · exact .of_error _ rfl
      · exact .of_genuine hkey hgenuine

/-- **One attempt** puts the key in place or leaves the final file
    alone. -/
theorem downloadSingleAttempt_placed (hash : Blake2s256) (m : ProvingKeyManager)
    (io : AttemptFaults) (net : Network) (disk : Disk) :
    Placed hash disk (downloadSingleAttempt hash m io net disk).1
      (downloadSingleAttempt hash m io net disk).2 := by
  obtain ⟨hfinished, hcontinue⟩ := detectResume_placed hash io disk
  unfold downloadSingleAttempt
  cases hresume : detectResume hash io disk with
  | finished result after => exact hfinished result after hresume
  | continueAt resumeFrom found =>
    have hfound := hcontinue resumeFrom found hresume
    have hleg3 := downloadWithHttp3_final io.http3 net resumeFrom found
    simp only
    generalize downloadWithHttp3 io.http3 net resumeFrom found = leg at hleg3 ⊢
    rcases leg with ⟨e3 | _, left⟩
    · -- the other leg starts from what this one has left
      have hleg2 : (fallBackToHttp2 m io net left).2.final = left.final :=
        http2DownloadToFile_final ..
      simp only
      generalize fallBackToHttp2 m io net left = leg at hleg2 ⊢
      rcases leg with ⟨e2 | _, after⟩
      · exact .of_error e2 (hleg2.trans (hleg3.trans hfound))
      · exact (finishDownload_placed hash io after).of_final_eq (hleg2.trans (hleg3.trans hfound))
    · exact (finishDownload_placed hash io left).of_final_eq (hleg3.trans hfound)

/-! ## §4. A rejected file -/

/-- The error of a file that fails the check. -/
def integrityFailure : FfiError :=
  .invalidFormat "Downloaded file failed integrity check. File may be corrupted."

/-- The errors of the files and of the network. -/
def IsTransportError : FfiError → Prop
  | .storage _ => True
  | .network _ => True
  | .requestTimeout _ => True
  | _ => False

theorem verifyPkIntegrity_error {hash : Blake2s256} {io : VerifyFaults} {file : Option Content}
    {e : FfiError} (h : verifyPkIntegrity hash io file = .error e) : IsTransportError e := by
  unfold verifyPkIntegrity at h
  cases file with
  | none => cases h
  | some content =>
    simp only at h
    split at h
    · cases h
    split at h
    · injection h with h
      exact h ▸ trivial
    split at h
    · cases h
    split at h
    · injection h with h
      exact h ▸ trivial
    split at h
    · injection h with h
      exact h ▸ trivial
    · cases h

/-- The HTTP/2 loop ends with such errors only. -/
theorem writeChunks_http2_error (outPath : String) (io : WriteFaults) (chunks : List Content)
    (i d : Nat) (file : Content) (e : FfiError)
    (h : (writeChunks (http2Writer outPath) io i d file chunks).1 = .error e) :
    IsTransportError e := by
  induction chunks generalizing i d file with
  | nil => cases h
  | cons chunk chunks ih =>
    unfold writeChunks at h
    split at h
    · injection h with h
      exact h ▸ trivial
    simp only at h
    split at h
    next e' hlimit =>
      injection h with h
      have hover : (if saturatingAdd d chunk.length > maxDownloadBytes then some (.network _)
        else none) = some e' := hlimit
      split at hover
      · injection hover with hover
        rw [← h, ← hover]
        trivial
      · cases hover
    split at h
    · split at h
      · injection h with h
        exact h ▸ trivial
      · exact ih _ _ _ h
    · exact ih _ _ _ h

/-- And so does the whole HTTP/2 leg. -/
theorem http2DownloadToFile_error {io : WriteFaults} {net : Network} {outPath : String}
    {resumeFrom expectedSize : Option Nat} {disk : Disk} {e : FfiError}
    (h : (http2DownloadToFile io net outPath resumeFrom expectedSize disk).1 = .error e) :
    IsTransportError e := by
  unfold http2DownloadToFile at h
  split at h
  · injection h with h
    exact h ▸ trivial
  split at h
  next f _ =>
    injection h with h
    rw [← h]
    cases f <;> trivial
  next answer _ =>
    split at h
    · injection h with h
      exact h ▸ trivial
    split at h
    · injection h with h
      exact h ▸ trivial
    split at h
    next e' hlength =>
      injection h with h
      unfold checkContentLength at hlength
      split at hlength
      · cases hlength
      · simp only at hlength
        split at hlength
        · injection hlength with hlength
          rw [← h, ← hlength]
          trivial
        · cases hlength
    split at h
    · injection h with h
      exact h ▸ trivial
    simp only at h
    unfold receiveBody at h
    split at h
    next e' _ hloop =>
      injection h with h
      rw [← h]
      exact writeChunks_http2_error outPath io _ _ _ _ e' (congrArg Prod.fst hloop)
    · split at h
      next e' hread =>
        injection h with h
        obtain ⟨f, -, hf⟩ := Option.map_eq_some_iff.1 hread
        rw [← h, ← hf]
        cases f <;> trivial
      · split at h
        · injection h with h
          exact h ▸ trivial
        · cases h

/-- An attempt that ends before the download does not reject a file. -/
theorem detectResume_error {hash : Blake2s256} {io : AttemptFaults} {disk after : Disk}
    {e : FfiError} (h : detectResume hash io disk = .finished (.error e) after) :
    IsTransportError e := by
  unfold detectResume at h
  split at h
  · cases h
  split at h
  · cases h
  split at h
  · cases h
    trivial
  split at h
  · split at h
    · split at h
      · cases h
        trivial
      · cases h
    · split at h
      · cases h
      · cases h
  · cases h

/-- A rejected file is removed, if it can be. -/
theorem finishDownload_rejected {hash : Blake2s256} {io : AttemptFaults} {disk : Disk}
    (h : (finishDownload hash io disk).1 = .error integrityFailure)
    (hremove : io.removeAfter = none) : (finishDownload hash io disk).2.temp = none := by
  unfold finishDownload at h ⊢
  cases hcheck : verifyPkIntegrity hash io.verifyAfter disk.temp with
  | error e =>
    rw [hcheck] at h
    injection h with h
    have htransport := verifyPkIntegrity_error hcheck
    rw [h] at htransport
    exact htransport.elim
  | ok valid =>
    rw [hcheck] at h
    cases valid with
    | false => simp only [hremove]
    | true =>
      simp only at h
      split at h
      · cases h
      · cases h

/-- **A rejected file is gone** after the attempt. -/
theorem temp_of_rejected {hash : Blake2s256} {m : ProvingKeyManager} {io : AttemptFaults}
    {net : Network} {disk : Disk}
    (h : (downloadSingleAttempt hash m io net disk).1 = .error integrityFailure)
    (hremove : io.removeAfter = none) : (downloadSingleAttempt hash m io net disk).2.temp = none := by
  unfold downloadSingleAttempt at h ⊢
  cases hresume : detectResume hash io disk with
  | finished result after =>
    rw [hresume] at h
    have hresult : result = .error integrityFailure := h
    rw [hresult] at hresume
    exact absurd (detectResume_error hresume) id
  | continueAt resumeFrom found =>
    rw [hresume] at h
    simp only at h ⊢
    generalize downloadWithHttp3 io.http3 net resumeFrom found = leg at h ⊢
    rcases leg with ⟨e3 | _, left⟩
    · simp only at h ⊢
      have hleg2 : ∀ e, (fallBackToHttp2 m io net left).1 = .error e → IsTransportError e :=
        fun e he => http2DownloadToFile_error he
      generalize fallBackToHttp2 m io net left = leg at h hleg2 ⊢
      rcases leg with ⟨e2 | _, after⟩
      · injection h with h
        have htransport := hleg2 e2 rfl
        rw [h] at htransport
        exact htransport.elim
      · exact finishDownload_rejected h hremove
    · exact finishDownload_rejected h hremove

/-- With no temporary file, an attempt starts at the first byte. -/
theorem detectResume_of_no_temp (hash : Blake2s256) (io : AttemptFaults) {disk : Disk}
    (h : disk.temp = none) : detectResume hash io disk = .continueAt 0 disk := by
  unfold detectResume
  rw [h]

/-! ## §5. The whole download -/

/-- After a failed attempt the loop ends with an error or goes on. -/
theorem afterFailure_outcome (vkId : UInt32) (attemptIdx : Nat) (attemptErr : FfiError)
    (random : UInt64) (consumed : Except FfiError Nat) :
    (∃ e, afterFailure vkId attemptIdx attemptErr random consumed = .finished (.error e)) ∨
      ∃ delay, afterFailure vkId attemptIdx attemptErr random consumed = .backingOff delay := by
  unfold afterFailure
  cases consumed with
  | error e => exact Or.inl ⟨e, rfl⟩
  | ok n =>
    simp only
    split
    · exact Or.inl ⟨_, rfl⟩
    · exact Or.inr ⟨_, rfl⟩

/-- One round puts the key in place or leaves the final file alone. -/
theorem downloadRound_placed (hash : Blake2s256) (m : ProvingKeyManager) (r : Round)
    (disk : Disk) :
    ((downloadRound hash m r disk).1 = none → (downloadRound hash m r disk).2.final = disk.final) ∧
      ∀ result, (downloadRound hash m r disk).1 = some result →
        Placed hash disk result (downloadRound hash m r disk).2 := by
  unfold downloadRound
  split
  next e _ =>
    refine ⟨fun h => rfl, fun result h => ?_⟩
    cases h
    exact .of_error e rfl
  next attemptIdx _ =>
    have hplaced := downloadSingleAttempt_placed hash m r.io r.net disk
    generalize downloadSingleAttempt hash m r.io r.net disk = attempt at hplaced ⊢
    rcases attempt with ⟨e | _, after⟩
    · have hkept := hplaced.kept e rfl
      simp only
      rcases afterFailure_outcome m.vkId attemptIdx e r.random
        (attemptsConsumed r.queryPoisoned r.queryNow m.vkId r.queryRecord).1 with
        ⟨e', hend⟩ | ⟨delay, hgo⟩
      · rw [hend]
        refine ⟨fun h => hkept, fun result h => ?_⟩
        cases h
        exact .of_error e' hkept
      · rw [hgo]
        refine ⟨fun h => hkept, fun result h => ?_⟩
        cases h
    · refine ⟨fun h => ?_, fun result h => ?_⟩
      · cases h
      · cases h
        exact hplaced

/-- The checks in front of the loop let a download succeed only if the
    final file is found valid. -/
theorem preflight_ok {env : StepEnv} (h : preflight env = some (.ok ())) :
    env.finalFileValid = true := by
  unfold preflight at h
  split at h
  · cases h
  · split at h
    · cases h
    · split at h
      · cases h
      · split at h
        next hvalid => exact hvalid
        next => cases h

/-- **A whole download** puts the key in place or leaves the final file
    alone; while it is going on the file is untouched. -/
theorem downloadWithProgress_placed (hash : Blake2s256) (m : ProvingKeyManager) (env : StepEnv)
    (finalFaults : VerifyFaults) (rs : List Round) (disk : Disk) :
    ((downloadWithProgress hash m env finalFaults rs disk).1 = none →
      (downloadWithProgress hash m env finalFaults rs disk).2.final = disk.final) ∧
      ∀ result, (downloadWithProgress hash m env finalFaults rs disk).1 = some result →
        Placed hash disk result (downloadWithProgress hash m env finalFaults rs disk).2 := by
  have hgo : ∀ r d, d.final = disk.final → (downloadRound hash m r d).1 = none →
      (downloadRound hash m r d).2.final = disk.final :=
    fun r d hd hnone => ((downloadRound_placed hash m r d).1 hnone).trans hd
  have hend : ∀ r d result, d.final = disk.final → (downloadRound hash m r d).1 = some result →
      Placed hash disk result (downloadRound hash m r d).2 :=
    fun r d result hd hsome => ((downloadRound_placed hash m r d).2 result hsome).of_final_eq hd
  unfold downloadWithProgress
  simp only
  split
  next result hpreflight =>
    refine ⟨fun h => rfl, fun result' h => ?_⟩
    cases h
    cases result with
    | error e => exact .of_error e rfl
    | ok u =>
      obtain ⟨key, hkey, hgenuine⟩ :=
        verifyPkIntegrity_true (of_decide_eq_true (preflight_ok hpreflight))
      exact .of_genuine hkey hgenuine
  next => exact rounds_rule hgo hend rs disk rfl

/-- **Proving-key placement is safe.**  Whatever the two files hold, the
    transports answer and the file system refuses: an attempt and a whole
    download succeed only with a final file that passes the check, an
    error leaves the final file as it was, and after an attempt that
    rejected its file, and removed it, the next one starts at byte 0. -/
theorem placement_safe (hash : Blake2s256) (m : ProvingKeyManager) (disk : Disk) :
    (∀ io net, Placed hash disk (downloadSingleAttempt hash m io net disk).1
      (downloadSingleAttempt hash m io net disk).2) ∧
    (∀ env finalFaults rs result,
      (downloadWithProgress hash m env finalFaults rs disk).1 = some result →
        Placed hash disk result (downloadWithProgress hash m env finalFaults rs disk).2) ∧
    (∀ io net, (downloadSingleAttempt hash m io net disk).1 = .error integrityFailure →
      io.removeAfter = none → ∀ io',
        detectResume hash io' (downloadSingleAttempt hash m io net disk).2 =
          .continueAt 0 (downloadSingleAttempt hash m io net disk).2) := by
  refine ⟨fun io net => downloadSingleAttempt_placed hash m io net disk, ?_, ?_⟩
  · intro env finalFaults rs result h
    exact (downloadWithProgress_placed hash m env finalFaults rs disk).2 result h
  · intro io net h hremove io'
    exact detectResume_of_no_temp hash io' (temp_of_rejected h hremove)

end ProviiSdk.ProvingKey
