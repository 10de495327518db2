/-
  ProviiSdk.ProvingKey.Resume — continuing a partial download.

  An attempt that finds the beginning of the key in the temporary file
  asks for the rest with a `Range` header.  A server may answer with the
  rest (206), or ignore the header and send the whole key (200).  Both
  legs open the file for appending before they have looked at the
  status, so a whole key is written behind the part that is there, and
  the integrity check removes the file.

  Main results:
    * `download_completes_iff` — an attempt whose answer is delivered
      completely puts the key in place exactly when the answer is
      partial or there was nothing to continue.
    * `whole_answer_is_rejected` — a download that a 200 ends.
-/

import ProviiSdk.ProvingKey.Manager

namespace ProviiSdk.ProvingKey

open ProviiSdk.Ffi ProviiSdk.Text

/-! ## §1. Answers that deliver the key -/

/-- The content passes the integrity check. -/
structure Genuine (hash : Blake2s256) (key : Content) : Prop where
  size : key.length = pkSize
  digest : hexEncode (hash key) = pkBlake2s

/-- What a server may send to a request for the key from `start` on: the
    rest as partial content, or the whole key. -/
def Conforms (key : Content) (start status : Nat) (body : Content) : Prop :=
  (status = 206 ∧ body = key.drop start) ∨ (status = 200 ∧ body = key)

/-- The HTTP/3 answer is conformant and arrives completely; the QUIC
    library hands out contiguous buffers. -/
structure Http3Answer.Delivers (answer : Http3Answer) (key : Content) (start : Nat) : Prop where
  complete : answer.readError = none
  contiguous : ∀ b ∈ answer.body, b.chunk = b.bytes
  conforms : Conforms key start answer.status (answer.body.map Buf.bytes).flatten

/-- The HTTP/2 answer is conformant, announces its own length if it
    announces one, and arrives completely. -/
structure Http2Answer.Delivers (answer : Http2Answer) (key : Content) (start : Nat) : Prop where
  complete : answer.readError = none
  version : answer.version = "HTTP/2.0"
  length : ∀ n, answer.length = some n → n = answer.body.flatten.length
  conforms : Conforms key start answer.status answer.body.flatten

/-- The file operations around the two legs succeed. -/
structure AttemptFaults.Quiet (io : AttemptFaults) : Prop where
  resumeExists : io.resumeExistsFails = false
  resumeMetadata : io.resumeMetadata = none
  http2Metadata : io.http2Metadata = none
  verifyAfter : io.verifyAfter = ⟨false, none, none, none⟩
  renameAfter : io.renameAfter = none

/-- The leg that delivers, with what the temporary file holds when it
    starts and the status of its answer: the HTTP/3 leg, or the HTTP/2
    leg after an HTTP/3 leg that failed and left a part of the key. -/
inductive DeliveringLeg (key : Content) (io : AttemptFaults) (net : Network) (disk : Disk) :
    Content → Nat → Prop where
  | http3 (p : Content) (answer : Http3Answer) (hp : disk.temp.getD [] = p)
    (hnet : net.http3 (rangeHeader p.length) = .ok answer) (hio : io.http3.Healthy)
    (h : answer.Delivers key p.length) : DeliveringLeg key io net disk p answer.status
  | http2 (e : FfiError) (left : Disk) (q : Content) (answer : Http2Answer)
    (hfail : downloadWithHttp3 io.http3 net (disk.temp.getD []).length disk = (.error e, left))
    (hleft : left.temp.getD [] = q) (hq : q <+: key)
    (hnet : net.http2 (rangeHeader q.length) = .ok answer) (hio : io.http2.Healthy)
    (h : answer.Delivers key q.length) : DeliveringLeg key io net disk q answer.status

/-- A conformant status is one the legs accept. -/
theorem Conforms.accepted {key : Content} {start status : Nat} {body : Content}
    (h : Conforms key start status body) : ¬ (isSuccess status = false ∧ status ≠ 206) := by
  rcases h with ⟨rfl, _⟩ | ⟨rfl, _⟩
  · rintro ⟨_, h⟩
    exact h rfl
  · rintro ⟨h, _⟩
    exact absurd h (by decide)

/-- **What is there and what was sent make up the key** exactly when the
    answer is partial or nothing was there. -/
theorem Conforms.append_eq_iff {key q : Content} {status : Nat} {body : Content}
    (h : Conforms key q.length status body) (hq : q <+: key) :
    q ++ body = key ↔ q = [] ∨ status = 206 := by
  rcases h with ⟨rfl, rfl⟩ | ⟨rfl, rfl⟩
  · obtain ⟨rest, rfl⟩ := hq
    rw [List.drop_left]
    exact iff_of_true rfl (Or.inr rfl)
  · constructor
    · intro h
      have hlen := congrArg List.length h
      rw [List.length_append] at hlen
      exact Or.inl (List.length_eq_zero_iff.1 (by omega))
    · rintro (rfl | h)
      · rfl
      · exact absurd h (by decide)

/-! ## §2. The stages of an attempt -/

/-- A part of the key is continued where it ends. -/
theorem detectResume_unfinished (hash : Blake2s256) (io : AttemptFaults) (disk : Disk)
    (hexists : io.resumeExistsFails = false) (hmeta : io.resumeMetadata = none)
    (hlen : (disk.temp.getD []).length < pkSize) :
    detectResume hash io disk = .continueAt (disk.temp.getD []).length disk := by
  unfold detectResume
  cases ht : disk.temp with
  | none => rfl
  | some content =>
    rw [ht, Option.getD_some] at hlen
    simp only [hexists, hmeta, Option.getD_some]
    rw [if_neg Bool.false_ne_true, if_neg (by omega)]

/-- The key is put in place. -/
theorem finishDownload_key (hash : Blake2s256) (io : AttemptFaults) (hio : io.Quiet) (disk : Disk)
    (key : Content) (hkey : Genuine hash key) (ht : disk.temp = some key) :
    finishDownload hash io disk = (.ok (), { temp := none, final := some key }) := by
  have hv : verifyPkIntegrity hash io.verifyAfter disk.temp = .ok true := by
    unfold verifyPkIntegrity
    rw [ht, hio.verifyAfter]
    simp only [Bool.false_eq_true, if_false, hkey.size, ne_eq, not_true_eq_false, if_false, hkey.digest, beq_self_eq_true]
  unfold finishDownload
  rw [hv, ht]
  simp only [hio.renameAfter]

/-- A file of another size is refused. -/
theorem finishDownload_wrongSize (hash : Blake2s256) (io : AttemptFaults) (hio : io.Quiet)
    (disk : Disk) (content : Content) (hsize : content.length ≠ pkSize)
    (ht : disk.temp = some content) :
    (finishDownload hash io disk).1 = .error (.invalidFormat
      "Downloaded file failed integrity check. File may be corrupted.") := by
  have hv : verifyPkIntegrity hash io.verifyAfter disk.temp = .ok false := by
    unfold verifyPkIntegrity
    rw [ht, hio.verifyAfter]
    simp only [Bool.false_eq_true, if_false, if_pos hsize]
  unfold finishDownload
  rw [hv]

/-- An HTTP/3 leg whose answer is delivered ends well and has appended
    the answer to what was there. -/
theorem downloadWithHttp3_delivers (io : WriteFaults) (hio : io.Healthy) (net : Network)
    (disk : Disk) (key : Content) (answer : Http3Answer)
    (hnet : net.http3 (rangeHeader (disk.temp.getD []).length) = .ok answer)
    (h : answer.Delivers key (disk.temp.getD []).length) :
    downloadWithHttp3 io net (disk.temp.getD []).length disk =
      (.ok (), { disk with
        temp := some (disk.temp.getD [] ++ (answer.body.map Buf.bytes).flatten) }) := by
  have hok : (downloadWithHttp3 io net (disk.temp.getD []).length disk).1 = .ok () := by
    unfold downloadWithHttp3
    rw [hnet]
    simp only
    rw [if_neg h.conforms.accepted, hio.openFile, h.complete]
    exact receiveBody_healthy http3Writer io hio _ _ _ fun n _ => rfl
  obtain ⟨answer', hnet', hdisk⟩ := downloadWithHttp3_ok io net _ disk hok
  rw [hnet] at hnet'
  injection hnet' with hnet'
  subst hnet'
  have hwritten : answer.written = (answer.body.map Buf.bytes).flatten := by
    unfold Http3Answer.written
    rw [List.map_congr_left h.contiguous]
  have hstart : (if (disk.temp.getD []).length > 0 then disk.temp.getD [] else []) =
      disk.temp.getD [] := by
    split
    · rfl
    next hz => exact (List.length_eq_zero_iff.1 (by omega)).symm
  rw [hwritten, hstart] at hdisk
  exact Prod.ext hok hdisk

/-- An HTTP/2 leg whose answer is delivered ends well if the file stays
    below the limit. -/
theorem http2DownloadToFile_delivers (io : WriteFaults) (hio : io.Healthy) (net : Network)
    (outPath : String) (disk : Disk) (key : Content) (start : Nat) (answer : Http2Answer)
    (hnet : net.http2 (rangeHeader start) = .ok answer) (h : answer.Delivers key start)
    (hfit : start + answer.body.flatten.length ≤ maxDownloadBytes) :
    (http2DownloadToFile io net outPath (some start) (some pkSize) disk).1 = .ok () := by
  have hlen : checkContentLength (some start) answer.length = .ok () := by
    unfold checkContentLength
    cases hl : answer.length with
    | none => rfl
    | some n =>
      have hn := h.length n hl
      have hle := saturatingAdd_le start n
      simp only [Option.getD_some]
      rw [if_neg (by omega)]
  unfold http2DownloadToFile
  rw [if_neg (by decide)]
  simp only [Option.getD_some, hnet, hlen]
  rw [if_neg (not_not.2 h.version), if_neg h.conforms.accepted, hio.openFile, h.complete]
  refine receiveBody_healthy (http2Writer outPath) io hio _ _ _ fun n hn => ?_
  show (if n > maxDownloadBytes then _ else none) = none
  rw [if_neg (by omega)]

/-! ## §3. The whole attempt -/

/-- A file that holds what was there and what was sent is put in place
    exactly when the two make up the key. -/
private theorem finishDownload_append_iff (hash : Blake2s256) (io : AttemptFaults) (hio : io.Quiet)
    (disk : Disk) (key q body : Content) (status : Nat) (hkey : Genuine hash key) (hq : q <+: key)
    (h : Conforms key q.length status body) (ht : disk.temp = some (q ++ body)) :
    ((finishDownload hash io disk).1 = .ok () ∧ (finishDownload hash io disk).2.final = some key) ↔
      q = [] ∨ status = 206 := by
  rw [← h.append_eq_iff hq]
  constructor
  · rintro ⟨hok, _⟩
    by_contra hne
    -- the only other answer is a whole key behind a part of it
    have hsize : (q ++ body).length ≠ pkSize := by
      rcases h with ⟨rfl, rfl⟩ | ⟨rfl, rfl⟩
      · obtain ⟨rest, rfl⟩ := hq
        rw [List.drop_left] at hne
        exact absurd rfl hne
      · intro hlen
        rw [List.length_append, hkey.size] at hlen
        rw [List.length_eq_zero_iff.1 (by omega : q.length = 0)] at hne
        exact hne rfl
    rw [finishDownload_wrongSize hash io hio disk _ hsize ht] at hok
    cases hok
  · intro happ
    rw [happ] at ht
    rw [finishDownload_key hash io hio disk key hkey ht]
    exact ⟨rfl, rfl⟩

/-- The attempt whose HTTP/3 leg delivers checks what was there and what
    was sent. -/
theorem downloadSingleAttempt_http3 (hash : Blake2s256) (m : ProvingKeyManager)
    (io : AttemptFaults) (hio : io.Quiet) (hio3 : io.http3.Healthy) (net : Network) (disk : Disk)
    (hlt : (disk.temp.getD []).length < pkSize) (key : Content) (answer : Http3Answer)
    (hnet : net.http3 (rangeHeader (disk.temp.getD []).length) = .ok answer)
    (h : answer.Delivers key (disk.temp.getD []).length) :
    downloadSingleAttempt hash m io net disk =
      finishDownload hash io { disk with
        temp := some (disk.temp.getD [] ++ (answer.body.map Buf.bytes).flatten) } := by
  unfold downloadSingleAttempt
  rw [detectResume_unfinished hash io disk hio.resumeExists hio.resumeMetadata hlt]
  simp only
  rw [downloadWithHttp3_delivers io.http3 hio3 net disk key answer hnet h]

/-- **When a download completes**: if the temporary file holds a proper
    part of the key and one leg delivers a conformant answer, the
    attempt puts the key in place exactly when the answer is partial or
    the leg had nothing to continue. -/
theorem download_completes_iff (hash : Blake2s256) (m : ProvingKeyManager) (io : AttemptFaults)
    (hio : io.Quiet) (net : Network) (disk : Disk) (key : Content) (hkey : Genuine hash key)
    (hp : disk.temp.getD [] <+: key) (hproper : disk.temp.getD [] ≠ key) (q : Content)
    (status : Nat) (hleg : DeliveringLeg key io net disk q status) :
    ((downloadSingleAttempt hash m io net disk).1 = .ok () ∧
        (downloadSingleAttempt hash m io net disk).2.final = some key) ↔
      q = [] ∨ status = 206 := by
  have hlt : (disk.temp.getD []).length < pkSize := by
    rw [← hkey.size]
    refine lt_of_le_of_ne hp.length_le fun hlen => hproper (hp.eq_of_length hlen)
  cases hleg with
  | http3 _ answer hp' hnet hio3 h =>
    subst hp'
    rw [downloadSingleAttempt_http3 hash m io hio hio3 net disk hlt key answer hnet h]
    exact finishDownload_append_iff hash io hio _ key _ _ _ hkey hp h.conforms rfl
  | http2 e left _ answer hfail hleft hq hnet hio2 h =>
    subst hleft
    unfold downloadSingleAttempt
    rw [detectResume_unfinished hash io disk hio.resumeExists hio.resumeMetadata hlt]
    simp only
    rw [hfail]
    simp only
    have hfall : fallBackToHttp2 m io net left =
        http2DownloadToFile io.http2 net m.tempPath (some (left.temp.getD []).length)
          (some pkSize) left := by
      unfold fallBackToHttp2
      rw [hio.http2Metadata]
      cases left.temp <;> rfl
    rw [hfall]
    have happ := http2DownloadToFile_ok io.http2 net m.tempPath (left.temp.getD []).length
      (some pkSize) left
    have hfits := http2DownloadToFile_delivers io.http2 hio2 net m.tempPath left key
      (left.temp.getD []).length answer hnet h
    generalize http2DownloadToFile io.http2 net m.tempPath (some (left.temp.getD []).length)
      (some pkSize) left = r at happ hfits ⊢
    obtain ⟨res, after⟩ := r
    simp only at happ hfits
    cases res with
    | error e' =>
      -- only a whole key behind a part of it can be over the limit
      refine iff_of_false (fun hok => by cases hok.1) fun hgood => ?_
      have hkeep := (h.conforms.append_eq_iff hq).2 hgood
      have hlen := congrArg List.length hkeep
      rw [List.length_append, hkey.size] at hlen
      have hsize : pkSize ≤ maxDownloadBytes := by decide
      cases hfits (by omega)
    | ok u =>
      obtain ⟨answer', hnet', hdisk⟩ := happ rfl
      rw [hnet] at hnet'
      injection hnet' with hnet'
      subst hnet'
      subst hdisk
      exact finishDownload_append_iff hash io hio _ key _ _ _ hkey hq h.conforms rfl

/-! ## §4. A whole key behind a part of it -/

/-- The bytes of the key's digest. -/
def pkDigest : List UInt8 :=
  [0x88, 0x39, 0xa9, 0xf0, 0xe8, 0x81, 0x75, 0xaf, 0x6c, 0xde, 0xee, 0xa0,
    0x9a, 0xb9, 0xe0, 0x31, 0xa9, 0xf6, 0x27, 0xc6, 0xe4, 0x2d, 0xe8, 0x00,
    0x1f, 0xd3, 0x1e, 0x0f, 0xd0, 0x58, 0x68, 0x95]

/-- A key of zeros. -/
def sampleKey : Content := List.replicate pkSize 0

/-- A digest that only that key has. -/
def sampleHash : Blake2s256 := fun content => if content = sampleKey then pkDigest else []

theorem sampleKey_genuine : Genuine sampleHash sampleKey := by
  refine ⟨List.length_replicate, ?_⟩
  have hdigest : sampleHash sampleKey = pkDigest := if_pos rfl
  rw [hdigest]
  decide

/-- The answer of an HTTP/3 server that sends one buffer. -/
def oneBuffer (status : Nat) (statusText : String) (body : Content) : Http3Answer :=
  { status, statusText, body := [⟨[body]⟩], readError := none }

theorem oneBuffer_bytes (status : Nat) (statusText : String) (body : Content) :
    ((oneBuffer status statusText body).body.map Buf.bytes).flatten = body := by
  simp [oneBuffer, Buf.bytes]

theorem oneBuffer_delivers (status : Nat) (statusText : String) (body key : Content) (start : Nat)
    (h : Conforms key start status body) :
    (oneBuffer status statusText body).Delivers key start := by
  refine ⟨rfl, ?_, ?_⟩
  · intro b hb
    rw [List.mem_singleton.1 hb]
    exact (List.append_nil body).symm
  · rw [oneBuffer_bytes]
    exact h

/-- A network on which HTTP/3 gives that answer, whatever is asked. -/
def sends (status : Nat) (statusText : String) (body : Content) : Network where
  http3 _ := .ok (oneBuffer status statusText body)
  http2 _ := .error (.request "connection refused")

/-- Files on which nothing fails. -/
def quietFaults : AttemptFaults where
  resumeExistsFails := false
  resumeMetadata := none
  verifyBefore := ⟨false, none, none, none⟩
  renameBefore := none
  removeBefore := none
  http3 := .never
  http2Metadata := none
  http2 := .never
  verifyAfter := ⟨false, none, none, none⟩
  removeAfter := none
  renameAfter := none

theorem quietFaults_quiet : quietFaults.Quiet := ⟨rfl, rfl, rfl, rfl, rfl⟩

/-- The first byte of the key has been downloaded. -/
def partialDisk : Disk := { temp := some [0], final := none }

theorem partialDisk_prefix : partialDisk.temp.getD [] <+: sampleKey := by
  refine ⟨List.replicate (pkSize - 1) 0, ?_⟩
  unfold sampleKey
  rw [← Nat.sub_add_cancel (show 1 ≤ pkSize by decide), List.replicate_succ]
  rfl

theorem partialDisk_short : (partialDisk.temp.getD []).length < pkSize := by decide

theorem partialDisk_proper : partialDisk.temp.getD [] ≠ sampleKey := by
  intro h
  have hlen := partialDisk_short
  rw [h, sampleKey_genuine.size] at hlen
  exact absurd hlen (Nat.lt_irrefl _)

theorem sends_delivers (status : Nat) (statusText : String) (body : Content)
    (h : Conforms sampleKey 1 status body) :
    DeliveringLeg sampleKey quietFaults (sends status statusText body) partialDisk [0] status :=
  .http3 [0] (oneBuffer status statusText body) rfl rfl WriteFaults.never_healthy
    (oneBuffer_delivers status statusText body sampleKey 1 h)

/-- **A whole answer is thrown away**: the server ignores the `Range`
    header and sends all of the key, and the attempt fails its integrity
    check. -/
theorem whole_answer_is_rejected :
    Genuine sampleHash sampleKey ∧ partialDisk.temp.getD [] <+: sampleKey ∧
      partialDisk.temp.getD [] ≠ sampleKey ∧ quietFaults.Quiet ∧
      DeliveringLeg sampleKey quietFaults (sends 200 "200 OK" sampleKey) partialDisk [0] 200 ∧
      (downloadSingleAttempt sampleHash (.new "/data") quietFaults (sends 200 "200 OK" sampleKey)
          partialDisk).1 =
        .error (.invalidFormat
          "Downloaded file failed integrity check. File may be corrupted.") := by
  have hconf : Conforms sampleKey 1 200 sampleKey := Or.inr ⟨rfl, rfl⟩
  refine ⟨sampleKey_genuine, partialDisk_prefix, partialDisk_proper, quietFaults_quiet,
    sends_delivers 200 "200 OK" sampleKey hconf, ?_⟩
  rw [downloadSingleAttempt_http3 sampleHash (.new "/data") quietFaults quietFaults_quiet
    WriteFaults.never_healthy (sends 200 "200 OK" sampleKey) partialDisk partialDisk_short sampleKey
    (oneBuffer 200 "200 OK" sampleKey) rfl (oneBuffer_delivers 200 "200 OK" sampleKey _ 1 hconf),
    oneBuffer_bytes]
  refine finishDownload_wrongSize sampleHash quietFaults quietFaults_quiet _ _ ?_ rfl
  rw [List.length_append, sampleKey_genuine.size]
  decide

/-- The completion at that disk, with a server that sends the rest. -/
theorem download_completes_rest :
    ((downloadSingleAttempt sampleHash (.new "/data") quietFaults
            (sends 206 "206 Partial Content" (sampleKey.drop 1)) partialDisk).1 = .ok () ∧
        (downloadSingleAttempt sampleHash (.new "/data") quietFaults
            (sends 206 "206 Partial Content" (sampleKey.drop 1)) partialDisk).2.final =
          some sampleKey) ↔
      ([0] : Content) = [] ∨ 206 = 206 :=
  download_completes_iff sampleHash (.new "/data") quietFaults quietFaults_quiet
    (sends 206 "206 Partial Content" (sampleKey.drop 1)) partialDisk sampleKey sampleKey_genuine
    partialDisk_prefix partialDisk_proper [0] 206
    (sends_delivers 206 "206 Partial Content" (sampleKey.drop 1) (Or.inl ⟨rfl, rfl⟩))

end ProviiSdk.ProvingKey
