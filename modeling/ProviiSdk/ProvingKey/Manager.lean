/-
  ProviiSdk.ProvingKey.Manager — downloading the proving key.

  The proving key is fetched over HTTP/3, or over HTTP/2 when that
  fails, into a temporary file that a later attempt continues; a file of
  the right size and digest is renamed into place.  Two files and two
  transports are modelled: every file operation and every stage of an
  exchange may fail, and what a server sends is arbitrary.

  File contents are byte lists, and the progress callback is left out:
  nothing depends on what it is told.

  Main results:
    * `writeChunks_ok`, `writeChunks_healthy` — what the receiving loop
      writes when it ends well, and when it does.
    * `downloadWithHttp3_ok`, `http2DownloadToFile_ok` — a leg that ends
      well has appended the body to the file it started from.
-/

import ProviiSdk.Ffi.Types
import ProviiSdk.Lib.Text

namespace ProviiSdk.ProvingKey

open ProviiSdk.Ffi ProviiSdk.Text

/-! ## §1. Constants -/

/-- The contents of a file. -/
abbrev Content := List UInt8

/-- The verifying key id of the current circuit. -/
def currentVkId : UInt32 := 914153247

/-- The size of a valid proving key. -/
def pkSize : Nat := 51945624

/-- The hexadecimal Blake2s-256 digest of a valid proving key. -/
def pkBlake2s : String := "8839a9f0e88175af6cdeeea09ab9e031a9f627c6e42de8001fd31e0fd0586895"

/-- What an HTTP/2 download may grow to. -/
def maxDownloadBytes : Nat := 50 * 1024 * 1024

/-- The deadline of a whole HTTP/2 download. -/
def defaultDownloadTimeoutSecs : UInt64 := 300

/-- A file is synced when its length is a multiple of this. -/
def syncEvery : Nat := 5 * 1024 * 1024

/-- The type `u64`'s `saturating_add`. -/
def saturatingAdd (a b : Nat) : Nat := min (a + b) 18446744073709551615

/-- The type `u64`'s `saturating_mul`. -/
def saturatingMul (a b : Nat) : Nat := min (a * b) 18446744073709551615

/-! ## §2. Files -/

/-- The temporary and the final file, where they exist. -/
structure Disk where
  temp : Option Content
  final : Option Content

/-- Failures of an integrity check.  `exists` has no error to report: when
    it fails it answers that there is no file. -/
structure VerifyFaults where
  existsFails : Bool
  metadata : Option String
  openFile : Option String
  read : Option String

/-- Failures while a body is written.  A failing write has written the
    given number of bytes; `stale` says that the last sync was more than
    ten seconds ago. -/
structure WriteFaults where
  openFile : Option String
  write : Nat → Option (String × Nat)
  stale : Nat → Bool
  sync : Nat → Option String
  syncAll : Option String

/-- Failures of the file operations of one attempt. -/
structure AttemptFaults where
  -- before the download
  resumeExistsFails : Bool
  resumeMetadata : Option String
  verifyBefore : VerifyFaults
  renameBefore : Option String
  removeBefore : Option String
  -- the two legs
  http3 : WriteFaults
  http2Metadata : Option String
  http2 : WriteFaults
  -- after the download
  verifyAfter : VerifyFaults
  removeAfter : Option String
  renameAfter : Option String

/-- The digest of the `blake2` crate. -/
abbrev Blake2s256 := Content → List UInt8

/-- Does the file have the size and the digest of a proving key? -/
def verifyPkIntegrity (hash : Blake2s256) (io : VerifyFaults) (file : Option Content) :
    Except FfiError Bool :=
  match file with
  | none => .ok false
  | some content =>
    if io.existsFails then .ok false
    else
      match io.metadata with
      | some e => .error (.storage ("Failed to get metadata: " ++ e))
      | none =>
        if content.length ≠ pkSize then .ok false
        else
          match io.openFile with
          | some e => .error (.storage ("Failed to open PK: " ++ e))
          | none =>
            -- the source feeds the hasher a megabyte at a time
            match io.read with
            | some e => .error (.storage ("Failed to read PK: " ++ e))
            | none => .ok (hexEncode (hash content) == pkBlake2s)

/-! ## §3. Exchanges -/

/-- A buffer of received bytes: `bytes::Buf`, as its contiguous parts. -/
structure Buf where
  parts : List Content

/-- The method `chunk`: the first contiguous part. -/
def Buf.chunk (b : Buf) : Content := b.parts.headD []

/-- All the bytes a buffer holds. -/
def Buf.bytes (b : Buf) : Content := b.parts.flatten

/-- The stages at which an HTTP/3 exchange can fail. -/
inductive Http3Failure where
  | resolve (e : String)
  | noAddress
  | endpoint (e : String)
  | connect (e : String)
  | handshake (e : String)
  | setup (e : String)
  | buildRequest (e : String)
  | request (e : String)
  | finish (e : String)
  | response (e : String)

def Http3Failure.error : Http3Failure → FfiError
  | .resolve e => .network ("DNS resolution failed: " ++ e)
  | .noAddress => .network "No address found"
  | .endpoint e => .network ("Quinn endpoint: " ++ e)
  | .connect e => .network ("QUIC connection failed: " ++ e)
  | .handshake e => .network ("QUIC handshake failed: " ++ e)
  | .setup e => .network ("HTTP/3 setup failed: " ++ e)
  | .buildRequest e => .network e
  | .request e => .network ("HTTP/3 request failed: " ++ e)
  | .finish e => .network ("Failed to finish stream: " ++ e)
  | .response e => .network ("Failed to receive response: " ++ e)

/-- An HTTP/3 response: its status, the buffers received, and the error
    that ends the body if it is not complete. -/
structure Http3Answer where
  status : Nat
  statusText : String
  body : List Buf
  readError : Option String

/-- The stages at which an HTTP/2 exchange can fail. -/
inductive Http2Failure where
  | buildRequest (e : String)
  | request (e : String)
  | stalled

def Http2Failure.error : Http2Failure → FfiError
  | .buildRequest e => .network ("HTTP/2 build request failed: " ++ e)
  | .request e => .network ("HTTP/2 request failed: " ++ e)
  | .stalled => .requestTimeout defaultDownloadTimeoutSecs

/-- How an HTTP/2 body ends that is not complete. -/
inductive Http2BodyFailure where
  | frame (e : String)
  | stalled

def Http2BodyFailure.error : Http2BodyFailure → FfiError
  | .frame e => .network ("HTTP/2 read frame failed: " ++ e)
  | .stalled => .requestTimeout defaultDownloadTimeoutSecs

/-- An HTTP/2 response; the body is its data frames. -/
structure Http2Answer where
  version : String
  status : Nat
  statusText : String
  contentLength : Option String
  body : List Content
  readError : Option Http2BodyFailure

/-- What the two transports answer to a request with the given `Range`
    header. -/
structure Network where
  http3 : Option String → Except Http3Failure Http3Answer
  http2 : Option String → Except Http2Failure Http2Answer

/-- The `Range` header of a request that continues at `start`. -/
def rangeHeader (start : Nat) : Option String :=
  if start > 0 then some s!"bytes={start}-" else none

/-- Rust's `StatusCode::is_success`. -/
def isSuccess (status : Nat) : Bool := decide (200 ≤ status ∧ status < 300)

/-! ## §4. Receiving a body -/

/-- What differs between the two receiving loops: their error texts, and
    the size at which the HTTP/2 loop gives up. -/
structure ChunkWriter where
  writeError : String → FfiError
  syncError : String → FfiError
  finalSyncError : String → FfiError
  overLimit : Nat → Option FfiError

/-- The receiving loop: every chunk is written, counted, and synced when
    it is time to. -/
def writeChunks (W : ChunkWriter) (io : WriteFaults) :
    Nat → Nat → Content → List Content → Except FfiError Unit × Content
  | _, _, file, [] => (.ok (), file)
  | i, downloaded, file, chunk :: chunks =>
    match io.write i with
    | some (e, written) => (.error (W.writeError e), file ++ chunk.take written)
    | none =>
      let file := file ++ chunk
      let downloaded := saturatingAdd downloaded chunk.length
      match W.overLimit downloaded with
      -- the bytes over the limit stay in the file
      | some e => (.error e, file)
      | none =>
        if downloaded % syncEvery = 0 ∨ io.stale i = true then
          match io.sync i with
          | some e => (.error (W.syncError e), file)
          | none => writeChunks W io (i + 1) downloaded file chunks
        else writeChunks W io (i + 1) downloaded file chunks

/-- The loop, the end of the body and the final sync. -/
def receiveBody (W : ChunkWriter) (io : WriteFaults) (downloaded : Nat) (file : Content)
    (chunks : List Content) (readError : Option FfiError) : Except FfiError Unit × Content :=
  match writeChunks W io 0 downloaded file chunks with
  | (.error e, file) => (.error e, file)
  | (.ok (), file) =>
    match readError with
    | some e => (.error e, file)
    | none =>
      match io.syncAll with
      | some e => (.error (W.finalSyncError e), file)
      | none => (.ok (), file)

def http3Writer : ChunkWriter where
  writeError e := .storage ("Write error: " ++ e)
  syncError e := .storage ("Sync error: " ++ e)
  finalSyncError e := .storage ("Final sync error: " ++ e)
  overLimit _ := none

/-- The HTTP/2 loop names the file it writes to. -/
def http2Writer (outPath : String) : ChunkWriter where
  writeError e := .storage ("Failed to write to " ++ outPath ++ ": " ++ e)
  syncError e := .storage ("Failed to sync file: " ++ e)
  finalSyncError e := .storage ("Failed to final sync file: " ++ e)
  overLimit downloaded :=
    if downloaded > maxDownloadBytes then
      some (.network
        s!"Download exceeded size limit ({downloaded} bytes received, {maxDownloadBytes} bytes max)")
    else none

/-- The HTTP/3 leg.  The file is opened before the body and without
    regard to the status: appending exactly when a `Range` was sent. -/
def downloadWithHttp3 (io : WriteFaults) (net : Network) (resumeFrom : Nat) (disk : Disk) :
    Except FfiError Unit × Disk :=
  match net.http3 (rangeHeader resumeFrom) with
  | .error f => (.error f.error, disk)
  | .ok answer =>
    if isSuccess answer.status = false ∧ answer.status ≠ 206 then
      (.error (.network ("Server returned status: " ++ answer.statusText)), disk)
    else
      match io.openFile with
      | some e => (.error (.storage e), disk)
      | none =>
        let start := if resumeFrom > 0 then disk.temp.getD [] else []
        -- of every buffer only its first contiguous part is written
        let r := receiveBody http3Writer io resumeFrom start (answer.body.map Buf.chunk)
          (answer.readError.map fun e => .network ("Failed to read chunk: " ++ e))
        (r.1, { disk with temp := some r.2 })

/-- The check of the announced length, on top of what is there. -/
def checkContentLength (resumeFrom : Option Nat) (contentLength : Option Nat) :
    Except FfiError Unit :=
  match contentLength with
  | none => .ok ()
  | some len =>
    let fullLen := saturatingAdd (resumeFrom.getD 0) len
    if fullLen > maxDownloadBytes then
      .error (.network
        s!"Content-Length ({fullLen} bytes) exceeds download limit ({maxDownloadBytes} bytes)")
    else .ok ()

/-- The `Content-Length` of a response, when it is a number. -/
def Http2Answer.length (answer : Http2Answer) : Option Nat :=
  answer.contentLength.bind fun text => parseUnsigned 18446744073709551616 text.toList

/-- The HTTP/2 download, with its deadline.  The file is opened for
    appending as soon as an offset is given, be it 0. -/
def http2DownloadToFile (io : WriteFaults) (net : Network) (outPath : String)
    (resumeFrom expectedSize : Option Nat) (disk : Disk) : Except FfiError Unit × Disk :=
  if expectedSize.getD 0 > maxDownloadBytes then
    let expected := expectedSize.getD 0
    (.error (.network
      s!"Expected download size ({expected} bytes) exceeds limit ({maxDownloadBytes} bytes)"), disk)
  else
    match net.http2 (rangeHeader (resumeFrom.getD 0)) with
    | .error f => (.error f.error, disk)
    | .ok answer =>
      if answer.version ≠ "HTTP/2.0" then
        (.error (.network ("Server did not negotiate HTTP/2, got " ++ answer.version)), disk)
      else if isSuccess answer.status = false ∧ answer.status ≠ 206 then
        (.error (.network ("Server returned unexpected status: " ++ answer.statusText)), disk)
      else
        match checkContentLength resumeFrom answer.length with
        | .error e => (.error e, disk)
        | .ok () =>
          match io.openFile with
          | some e => (.error (.storage ("Failed to open file " ++ outPath ++ ": " ++ e)), disk)
          | none =>
            let start := if resumeFrom.isSome then disk.temp.getD [] else []
            let r := receiveBody (http2Writer outPath) io (resumeFrom.getD 0) start answer.body
              (answer.readError.map Http2BodyFailure.error)
            (r.1, { disk with temp := some r.2 })

/-! ## §5. One attempt -/

/-- The manager of one proving key file. -/
structure ProvingKeyManager where
  storageDir : String
  pkFilename : String
  vkId : UInt32

/-- Rust's `Path::join` with a plain file name. -/
def joinPath (dir name : String) : String :=
  if dir = "" ∨ dir.toList.getLast? = some '/' then dir ++ name else dir ++ "/" ++ name

def ProvingKeyManager.new (appFilesDir : String) : ProvingKeyManager :=
  { storageDir := appFilesDir, pkFilename := s!"age_pk.{currentVkId.toNat}.bin",
    vkId := currentVkId }

def ProvingKeyManager.tempPath (m : ProvingKeyManager) : String :=
  joinPath m.storageDir (m.pkFilename ++ ".tmp")

/-- What an attempt finds in the temporary file. -/
inductive Resume where
  -- the attempt ends here
  | finished (result : Except FfiError Unit) (disk : Disk)
  -- the download goes on at this offset
  | continueAt (offset : Nat) (disk : Disk)

/-- Is there a partial download to continue?  A full-sized file is put in
    place if it is the key, and removed if not. -/
def detectResume (hash : Blake2s256) (io : AttemptFaults) (disk : Disk) : Resume :=
  match disk.temp with
  | none => .continueAt 0 disk
  | some content =>
    if io.resumeExistsFails then .continueAt 0 disk
    else
      match io.resumeMetadata with
      | some e => .finished (.error (.storage e)) disk
      | none =>
        if content.length ≥ pkSize then
          -- a check that fails to run counts as a failed check
          if verifyPkIntegrity hash io.verifyBefore disk.temp = .ok true then
            match io.renameBefore with
            | some e => .finished (.error (.storage e)) disk
            | none => .finished (.ok ()) { temp := none, final := disk.temp }
          else
            match io.removeBefore with
            | some _ => .continueAt 0 disk
            | none => .continueAt 0 { disk with temp := none }
        else .continueAt content.length disk

/-- The HTTP/2 leg after a failed HTTP/3 leg; it continues what is in
    the temporary file by now. -/
def fallBackToHttp2 (m : ProvingKeyManager) (io : AttemptFaults) (net : Network) (disk : Disk) :
    Except FfiError Unit × Disk :=
  let resumeFrom :=
    -- a failing `exists` and a failing `metadata` come to the same here
    match disk.temp, io.http2Metadata with
    | some content, none => content.length
    | _, _ => 0
  http2DownloadToFile io.http2 net m.tempPath (some resumeFrom) (some pkSize) disk

/-- What an attempt does with a complete download. -/
def finishDownload (hash : Blake2s256) (io : AttemptFaults) (disk : Disk) :
    Except FfiError Unit × Disk :=
  match verifyPkIntegrity hash io.verifyAfter disk.temp with
  | .error e => (.error e, disk)
  | .ok false =>
    -- the next attempt starts from nothing, if the file can be removed
    (.error (.invalidFormat "Downloaded file failed integrity check. File may be corrupted."),
      match io.removeAfter with
      | some _ => disk
      | none => { disk with temp := none })
  | .ok true =>
    match io.renameAfter with
    | some e => (.error (.storage ("Failed to finalize file: " ++ e)), disk)
    | none => (.ok (), { temp := none, final := disk.temp })

/-- One download-and-verify cycle. -/
def downloadSingleAttempt (hash : Blake2s256) (m : ProvingKeyManager) (io : AttemptFaults)
    (net : Network) (disk : Disk) : Except FfiError Unit × Disk :=
  match detectResume hash io disk with
  | .finished result disk => (result, disk)
  | .continueAt resumeFrom disk =>
    match downloadWithHttp3 io.http3 net resumeFrom disk with
    | (.ok (), disk) => finishDownload hash io disk
    | (.error _, disk) =>
      match fallBackToHttp2 m io net disk with
      | (.error e, disk) => (.error e, disk)
      | (.ok (), disk) => finishDownload hash io disk

/-! ## §6. What a leg leaves in the temporary file -/

/-- No write or sync fails. -/
structure WriteFaults.Healthy (io : WriteFaults) : Prop where
  openFile : io.openFile = none
  write : ∀ i, io.write i = none
  sync : ∀ i, io.sync i = none
  syncAll : io.syncAll = none

/-- No file operation fails, and no sync is due. -/
def WriteFaults.never : WriteFaults where
  openFile := none
  write _ := none
  stale _ := false
  sync _ := none
  syncAll := none

theorem WriteFaults.never_healthy : WriteFaults.never.Healthy :=
  ⟨rfl, fun _ => rfl, fun _ => rfl, rfl⟩

/-- A loop that ends well has appended every chunk. -/
theorem writeChunks_ok (W : ChunkWriter) (io : WriteFaults) (chunks : List Content) (i d : Nat)
    (file : Content) (h : (writeChunks W io i d file chunks).1 = .ok ()) :
    (writeChunks W io i d file chunks).2 = file ++ chunks.flatten := by
  induction chunks generalizing i d file with
  | nil => simp [writeChunks]
  | cons chunk chunks ih =>
    rw [List.flatten_cons, ← List.append_assoc]
    unfold writeChunks at h ⊢
    cases hw : io.write i with
    | some f => rw [hw] at h; cases h
    | none =>
      rw [hw] at h
      simp only at h ⊢
      cases hl : W.overLimit (saturatingAdd d chunk.length) with
      | some e => rw [hl] at h; cases h
      | none =>
        rw [hl] at h
        simp only at h ⊢
        split at h
        next hsync =>
          rw [if_pos hsync]
          cases hs : io.sync i with
          | some e => rw [hs] at h; cases h
          | none =>
            rw [hs] at h
            exact ih _ _ _ h
        next hsync =>
          rw [if_neg hsync]
          exact ih _ _ _ h

theorem saturatingAdd_le (a b : Nat) : saturatingAdd a b ≤ a + b := Nat.min_le_left _ _

/-- Without failures the loop ends well, as long as no length up to the
    whole is over the limit. -/
theorem writeChunks_healthy (W : ChunkWriter) (io : WriteFaults) (hio : io.Healthy)
    (chunks : List Content) (i d : Nat) (file : Content)
    (hlim : ∀ n ≤ d + chunks.flatten.length, W.overLimit n = none) :
    (writeChunks W io i d file chunks).1 = .ok () := by
  induction chunks generalizing i d file with
  | nil => rfl
  | cons chunk chunks ih =>
    rw [List.flatten_cons, List.length_append] at hlim
    have hle := saturatingAdd_le d chunk.length
    have hnext : ∀ n ≤ saturatingAdd d chunk.length + chunks.flatten.length,
        W.overLimit n = none := fun n hn => hlim n (by omega)
    unfold writeChunks
    rw [hio.write]
    simp only [hlim _ (show saturatingAdd d chunk.length ≤ _ by omega), hio.sync]
    split
    · exact ih _ _ _ hnext
    · exact ih _ _ _ hnext

/-- A body that was received well is in the file, after what was there. -/
theorem receiveBody_ok (W : ChunkWriter) (io : WriteFaults) (d : Nat) (file : Content)
    (chunks : List Content) (readError : Option FfiError)
    (h : (receiveBody W io d file chunks readError).1 = .ok ()) :
    (receiveBody W io d file chunks readError).2 = file ++ chunks.flatten := by
  have hloop := writeChunks_ok W io chunks 0 d file
  unfold receiveBody at h ⊢
  generalize writeChunks W io 0 d file chunks = r at h hloop ⊢
  obtain ⟨res, content⟩ := r
  cases res with
  | error e => cases h
  | ok u =>
    cases readError with
    | some e => cases h
    | none =>
      simp only at h ⊢
      cases hs : io.syncAll with
      | some e => rw [hs] at h; cases h
      | none => exact hloop rfl

theorem receiveBody_healthy (W : ChunkWriter) (io : WriteFaults) (hio : io.Healthy) (d : Nat)
    (file : Content) (chunks : List Content)
    (hlim : ∀ n ≤ d + chunks.flatten.length, W.overLimit n = none) :
    (receiveBody W io d file chunks none).1 = .ok () := by
  have hloop := writeChunks_healthy W io hio chunks 0 d file hlim
  unfold receiveBody
  generalize writeChunks W io 0 d file chunks = r at hloop ⊢
  obtain ⟨res, content⟩ := r
  simp only at hloop
  subst hloop
  simp only [hio.syncAll]

/-- What the HTTP/3 leg writes of an answer. -/
def Http3Answer.written (answer : Http3Answer) : Content := (answer.body.map Buf.chunk).flatten

/-- **An HTTP/3 leg that ends well** got an answer and has appended what
    it writes of it, to the partial file when one is continued. -/
theorem downloadWithHttp3_ok (io : WriteFaults) (net : Network) (resumeFrom : Nat) (disk : Disk)
    (h : (downloadWithHttp3 io net resumeFrom disk).1 = .ok ()) :
    ∃ answer, net.http3 (rangeHeader resumeFrom) = .ok answer ∧
      (downloadWithHttp3 io net resumeFrom disk).2 =
        { disk with
          temp := some ((if resumeFrom > 0 then disk.temp.getD [] else []) ++ answer.written) } := by
  unfold downloadWithHttp3 at h ⊢
  cases hnet : net.http3 (rangeHeader resumeFrom) with
  | error f => rw [hnet] at h; cases h
  | ok answer =>
    rw [hnet] at h
    refine ⟨answer, rfl, ?_⟩
    simp only at h ⊢
    split at h
    · cases h
    next hstatus =>
      rw [if_neg hstatus]
      cases ho : io.openFile with
      | some e => rw [ho] at h; cases h
      | none =>
        rw [ho] at h
        simp only at h ⊢
        rw [receiveBody_ok _ _ _ _ _ _ h]
        rfl

/-- **An HTTP/2 leg that ends well** got an answer and has appended its
    body to the partial file. -/
theorem http2DownloadToFile_ok (io : WriteFaults) (net : Network) (outPath : String)
    (resumeFrom : Nat) (expectedSize : Option Nat) (disk : Disk)
    (h : (http2DownloadToFile io net outPath (some resumeFrom) expectedSize disk).1 = .ok ()) :
    ∃ answer, net.http2 (rangeHeader resumeFrom) = .ok answer ∧
      (http2DownloadToFile io net outPath (some resumeFrom) expectedSize disk).2 =
        { disk with temp := some (disk.temp.getD [] ++ answer.body.flatten) } := by
  unfold http2DownloadToFile at h ⊢
  split at h
  · cases h
  next hexp =>
    rw [if_neg hexp]
    simp only [Option.getD_some] at h ⊢
    cases hnet : net.http2 (rangeHeader resumeFrom) with
    | error f => rw [hnet] at h; cases h
    | ok answer =>
      rw [hnet] at h
      refine ⟨answer, rfl, ?_⟩
      simp only at h ⊢
      split at h
      · cases h
      next hv =>
        rw [if_neg hv]
        split at h
        · cases h
        next hstatus =>
          rw [if_neg hstatus]
          cases hc : checkContentLength (some resumeFrom) answer.length with
          | error e => rw [hc] at h; cases h
          | ok u =>
            rw [hc] at h
            simp only at h ⊢
            cases ho : io.openFile with
            | some e => rw [ho] at h; cases h
            | none =>
              rw [ho] at h
              simp only [Option.isSome_some, if_true] at h ⊢
              rw [receiveBody_ok _ _ _ _ _ _ h]

end ProviiSdk.ProvingKey
