/-
  ProviiSdk.ProvingKey.ResponseBody — what is kept of an HTTP/3 body.

  The body of an HTTP/3 response arrives in buffers.  A buffer may hold
  its bytes in several parts; `chunk` gives the first of them only.  Two
  loops collect a body in memory, up to a limit, and the download loop
  writes it to a file.

  Main results:
    * `readBody_eq` — what the loop of POST and GET collects.
    * `receiveText_ok_iff` — what a request returns.
    * `reassembled_iff` — no byte is lost exactly when every buffer has
      its bytes in one part.
    * `tail_lost` — buffers of two parts.
-/

import ProviiSdk.Lib.Check
import ProviiSdk.Lib.Wire
import ProviiSdk.ProvingKey.Manager

namespace ProviiSdk.ProvingKey

open ProviiSdk.Check ProviiSdk.Ffi ProviiSdk.Wire

/-! ## §1. Requests answered in memory -/

/-- The limit on a body that is kept in memory. -/
def maxResponseBytes : Nat := 2 * 1024 * 1024

def responseTooLarge : FfiError :=
  .network s!"Response body exceeded {maxResponseBytes} byte limit"

/-- The receiving loop of POST and GET, from the bytes collected so
    far. -/
def readBody (body : Content) : List Buf → Option String → Except FfiError Content
  | [], none => .ok body
  | [], some e => .error (.network ("Failed to read body: " ++ e))
  | chunk :: chunks, readError =>
    let slice := chunk.chunk
    if saturatingAdd body.length slice.length > maxResponseBytes then .error responseTooLarge
    else
      -- `chunk.advance(chunk.remaining())` drops what is left of it
      readBody (body ++ slice) chunks readError

theorem readBody_cons (body : Content) (chunk : Buf) (chunks : List Buf)
    (readError : Option String) :
    readBody body (chunk :: chunks) readError =
      if saturatingAdd body.length chunk.chunk.length > maxResponseBytes then
        .error responseTooLarge
      else readBody (body ++ chunk.chunk) chunks readError := rfl

/-- The stages at which a request can fail before its response. -/
inductive RequestFailure where
  | url (e : FfiError)
  | resolve (e : String)
  | noAddress
  | endpoint (e : String)
  | connect (e : String)
  | handshake (e : String)
  | setup (e : String)
  | buildRequest (e : String)
  | request (e : String)
  | sendBody (e : String)
  | finish (e : String)
  | response (e : String)

def RequestFailure.error : RequestFailure → FfiError
  | .url e => e
  | .resolve e => .network ("DNS resolution failed: " ++ e)
  | .noAddress => .network "No address found"
  | .endpoint e => .network ("Failed to create endpoint: " ++ e)
  | .connect e => .network ("QUIC connection failed: " ++ e)
  | .handshake e => .network ("QUIC handshake failed: " ++ e)
  | .setup e => .network ("HTTP/3 setup failed: " ++ e)
  | .buildRequest e => .network e
  | .request e => .network ("HTTP/3 request failed: " ++ e)
  | .sendBody e => .network ("Failed to send body: " ++ e)
  | .finish e => .network ("Failed to finish stream: " ++ e)
  | .response e => .network ("Failed to receive response: " ++ e)

/-- The text of a response: the body is read before the status is
    looked at. -/
def receiveText (utf8Error : Content → String) (exchange : Except RequestFailure Http3Answer) :
    Except FfiError String := do
  let answer ← exchange.mapError RequestFailure.error
  let body ← readBody [] answer.body answer.readError
  let bodyStr ← okOr (ofUtf8 body) (.invalidFormat (utf8Error body))
  require (isSuccess answer.status = true)
    (.network ("Server returned status: " ++ answer.statusText))
  return bodyStr

/-- POST, on the exchange of its request. -/
def postJsonWithApiKeyInner (utf8Error : Content → String)
    (exchange : Except RequestFailure Http3Answer) : Except FfiError String :=
  receiveText utf8Error exchange

/-- GET, which sends no body. -/
def getWithHeadersInner (utf8Error : Content → String)
    (exchange : Except RequestFailure Http3Answer) : Except FfiError String :=
  receiveText utf8Error exchange

/-- What a request returns. -/
theorem receiveText_ok_iff (utf8Error : Content → String)
    (exchange : Except RequestFailure Http3Answer) (text : String) :
    receiveText utf8Error exchange = .ok text ↔
      ∃ answer body, exchange = .ok answer ∧ readBody [] answer.body answer.readError = .ok body ∧
        ofUtf8 body = some text ∧ isSuccess answer.status = true := by
  unfold receiveText
  simp only [bind_eq_ok_iff, mapError_eq_ok_iff, okOr_eq_ok_iff, require_eq_ok_iff]
  constructor
  · rintro ⟨answer, hexchange, body, hbody, text', htext, _, hstatus, hret⟩
    injection hret with hret
    exact ⟨answer, body, hexchange, hbody, hret ▸ htext, hstatus⟩
  · rintro ⟨answer, body, hexchange, hbody, htext, hstatus⟩
    exact ⟨answer, hexchange, body, hbody, text, htext, (), hstatus, rfl⟩

/-! ## §2. What the loops keep -/

/-- The bytes of all buffers. -/
def totalBytes (bufs : List Buf) : Content := (bufs.map Buf.bytes).flatten

/-- The first parts of all buffers. -/
def chunkBytes (bufs : List Buf) : Content := (bufs.map Buf.chunk).flatten

/-- The limit is compared without overflow. -/
theorem overLimit_iff (a b : Nat) :
    saturatingAdd a b > maxResponseBytes ↔ a + b > maxResponseBytes := by
  unfold saturatingAdd maxResponseBytes
  omega

/-- **What the loop collects**: the first parts, as long as they are
    within the limit. -/
theorem readBody_eq (bufs : List Buf) (readError : Option String) (body : Content)
    (hbody : body.length ≤ maxResponseBytes) :
    readBody body bufs readError =
      if (body ++ chunkBytes bufs).length > maxResponseBytes then .error responseTooLarge
      else readBody (body ++ chunkBytes bufs) [] readError := by
  induction bufs generalizing body with
  | nil =>
    have hnil : body ++ chunkBytes [] = body := List.append_nil body
    rw [hnil, if_neg (by omega)]
  | cons chunk chunks ih =>
    have hcons : body ++ chunkBytes (chunk :: chunks) = (body ++ chunk.chunk) ++ chunkBytes chunks :=
      (List.append_assoc _ _ _).symm
    rw [hcons, readBody_cons]
    by_cases hover : body.length + chunk.chunk.length > maxResponseBytes
    · have hlonger : ((body ++ chunk.chunk) ++ chunkBytes chunks).length > maxResponseBytes := by
        rw [List.length_append, List.length_append]
        omega
      rw [if_pos ((overLimit_iff _ _).2 hover), if_pos hlonger]
    · rw [if_neg fun h => hover ((overLimit_iff _ _).1 h)]
      refine ih (body ++ chunk.chunk) ?_
      rw [List.length_append]
      omega

/-- A chunk is the start of its buffer. -/
theorem Buf.exists_rest (b : Buf) : ∃ rest, b.bytes = b.chunk ++ rest := by
  obtain ⟨parts⟩ := b
  cases parts with
  | nil => exact ⟨[], rfl⟩
  | cons part parts => exact ⟨parts.flatten, rfl⟩

theorem chunkBytes_length_le (bufs : List Buf) :
    (chunkBytes bufs).length ≤ (totalBytes bufs).length := by
  induction bufs with
  | nil => exact le_rfl
  | cons b bufs ih =>
    obtain ⟨rest, hrest⟩ := b.exists_rest
    show (b.chunk ++ chunkBytes bufs).length ≤ (b.bytes ++ totalBytes bufs).length
    rw [hrest]
    simp only [List.length_append]
    omega

/-- **The chunks are all the bytes** exactly when every buffer is in one
    part. -/
theorem chunkBytes_eq_iff (bufs : List Buf) :
    chunkBytes bufs = totalBytes bufs ↔ ∀ b ∈ bufs, b.chunk = b.bytes := by
  induction bufs with
  | nil => exact iff_of_true rfl fun b hb => absurd hb List.not_mem_nil
  | cons b bufs ih =>
    rw [List.forall_mem_cons, ← ih]
    show b.chunk ++ chunkBytes bufs = b.bytes ++ totalBytes bufs ↔ _
    constructor
    · intro h
      obtain ⟨rest, hrest⟩ := b.exists_rest
      rw [hrest, List.append_assoc] at h
      have hlen := congrArg List.length (List.append_cancel_left h)
      have hle := chunkBytes_length_le bufs
      rw [List.length_append] at hlen
      -- what is missing of this buffer nothing later makes up for
      have hnil : rest = [] := List.eq_nil_of_length_eq_zero (by omega)
      subst hnil
      rw [List.append_nil] at hrest
      exact ⟨hrest.symm, List.append_cancel_left h⟩
    · rintro ⟨hchunk, hchunks⟩
      rw [hchunk, hchunks]

/-! ## §3. No loss -/

/-- What a download continues. -/
def startBytes (resumeFrom : Nat) (disk : Disk) : Content :=
  if resumeFrom > 0 then disk.temp.getD [] else []

/-- **Nothing is lost** of these buffers: the loop of POST and GET fails
    exactly if all the bytes are over the limit, and else collects them;
    a download that ends well has written them all. -/
structure Reassembled (bufs : List Buf) : Prop where
  fails : (∃ e, readBody [] bufs none = .error e) ↔ (totalBytes bufs).length > maxResponseBytes
  body : ∀ body, readBody [] bufs none = .ok body → body = totalBytes bufs
  file : ∀ io net resumeFrom disk (answer : Http3Answer), answer.body = bufs →
    net.http3 (rangeHeader resumeFrom) = .ok answer →
    (downloadWithHttp3 io net resumeFrom disk).1 = .ok () →
    (downloadWithHttp3 io net resumeFrom disk).2.temp =
      some (startBytes resumeFrom disk ++ totalBytes bufs)

/-- A body is collected only if it arrives completely. -/
theorem readBody_complete {bufs : List Buf} {readError : Option String} {body : Content}
    (h : readBody [] bufs readError = .ok body) : readError = none := by
  rw [readBody_eq _ _ _ (Nat.zero_le _)] at h
  cases readError with
  | none => rfl
  | some e =>
    split at h
    next => cases h
    next => cases h

/-- Without loss POST and GET return the text of all the bytes. -/
theorem Reassembled.text {answer : Http3Answer} (h : Reassembled answer.body)
    {utf8Error : Content → String} {text : String}
    (hok : postJsonWithApiKeyInner utf8Error (.ok answer) = .ok text ∨
      getWithHeadersInner utf8Error (.ok answer) = .ok text) :
    ofUtf8 (totalBytes answer.body) = some text := by
  have hreceived : receiveText utf8Error (.ok answer) = .ok text := hok.elim id id
  obtain ⟨answer', body, hanswer, hread, htext, -⟩ := (receiveText_ok_iff _ _ _).1 hreceived
  injection hanswer with hanswer
  rw [← hanswer] at hread
  have hcomplete := readBody_complete hread
  rw [hcomplete] at hread
  rw [← h.body body hread]
  exact htext

/-- The file gets the first parts. -/
theorem downloadWithHttp3_temp {io : WriteFaults} {net : Network} {resumeFrom : Nat} {disk : Disk}
    (answer : Http3Answer) (hnet : net.http3 (rangeHeader resumeFrom) = .ok answer)
    (h : (downloadWithHttp3 io net resumeFrom disk).1 = .ok ()) :
    (downloadWithHttp3 io net resumeFrom disk).2.temp =
      some (startBytes resumeFrom disk ++ chunkBytes answer.body) := by
  obtain ⟨answer', hnet', hdisk⟩ := downloadWithHttp3_ok io net resumeFrom disk h
  rw [hnet] at hnet'
  injection hnet' with hnet'
  rw [hdisk, hnet']
  rfl

/-- A complete response with these buffers. -/
def completeAnswer (bufs : List Buf) : Http3Answer :=
  { status := 200, statusText := "200 OK", body := bufs, readError := none }

/-- A network on which every HTTP/3 request gets that response. -/
def answering (bufs : List Buf) : Network :=
  { http3 := fun _ => .ok (completeAnswer bufs), http2 := fun _ => .error .stalled }

/-- A download of a complete response ends well. -/
theorem download_answering (bufs : List Buf) (disk : Disk) :
    (downloadWithHttp3 .never (answering bufs) 0 disk).1 = .ok () := by
  have hbody := receiveBody_healthy http3Writer .never WriteFaults.never_healthy 0 []
    (bufs.map Buf.chunk)
    fun n _ => rfl
  unfold downloadWithHttp3
  exact hbody

/-- **Reassembled without loss, exactly.**  For every sequence of
    buffers: the bodies in memory and in the file are all the bytes, and
    the loops in memory fail exactly over the limit, if and only if every
    buffer has all its bytes in its first part. -/
theorem reassembled_iff (bufs : List Buf) :
    Reassembled bufs ↔ ∀ b ∈ bufs, b.chunk = b.bytes := by
  rw [← chunkBytes_eq_iff]
  have hread := readBody_eq bufs none [] (Nat.zero_le _)
  rw [List.nil_append] at hread
  constructor
  · intro h
    have hok := download_answering bufs { temp := none, final := none }
    have hall := h.file _ _ _ _ (completeAnswer bufs) rfl rfl hok
    rw [downloadWithHttp3_temp (completeAnswer bufs) rfl hok] at hall
    exact List.append_cancel_left (Option.some.inj hall)
  · intro h
    rw [h] at hread
    constructor
    · rw [hread]
      split
      next hover => exact iff_of_true ⟨_, rfl⟩ hover
      next hwithin => exact iff_of_false (fun ⟨_, he⟩ => by cases he) hwithin
    · intro body hbody
      rw [hread] at hbody
      split at hbody
      next => cases hbody
      next =>
        injection hbody with hbody
        exact hbody.symm
    · intro io net resumeFrom disk answer hanswer hnet hok
      rw [downloadWithHttp3_temp answer hnet hok, hanswer, h]

/-- A buffer of two parts. -/
def twoParts (first second : Content) : Buf := { parts := [first, second] }

theorem chunkBytes_twoParts (first second : Content) :
    chunkBytes [twoParts first second] = first := List.append_nil first

theorem totalBytes_twoParts (first second : Content) :
    totalBytes [twoParts first second] = first ++ second := by
  unfold totalBytes twoParts Buf.bytes
  simp only [List.map_cons, List.map_nil, List.flatten_cons, List.flatten_nil, List.append_nil]

/-- **A tail is lost**: of a buffer of two parts the second one is kept
    neither in memory nor in the file, and does not count for the
    limit. -/
theorem tail_lost :
    readBody [] [twoParts [1] [2]] none = .ok [1] ∧ totalBytes [twoParts [1] [2]] = [1, 2] ∧
      (downloadWithHttp3 .never (answering [twoParts [1] [2]]) 0
        { temp := none, final := none }).2.temp = some [1] ∧
      readBody [] [twoParts [1] (List.replicate maxResponseBytes 0)] none = .ok [1] ∧
      (totalBytes [twoParts [1] (List.replicate maxResponseBytes 0)]).length > maxResponseBytes ∧
      ¬ Reassembled [twoParts [1] [2]] := by
  have hkept : ∀ second, readBody [] [twoParts [1] second] none = .ok [1] := by
    intro second
    rw [readBody_eq _ _ _ (Nat.zero_le _), chunkBytes_twoParts]
    rfl
  refine ⟨hkept [2], rfl, ?_, hkept _, ?_, fun h => ?_⟩
  · rw [downloadWithHttp3_temp (completeAnswer [twoParts [1] [2]]) rfl (download_answering _ _)]
    rfl
  · rw [totalBytes_twoParts, List.length_append, List.length_replicate]
    exact Nat.lt_add_of_pos_left (by decide)
  · have hbody := h.body [1] (hkept [2])
    rw [totalBytes_twoParts] at hbody
    exact absurd hbody (by decide)

end ProviiSdk.ProvingKey
