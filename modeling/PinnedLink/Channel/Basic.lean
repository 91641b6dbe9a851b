import PinnedLink.Channel.Frames
import PinnedLink.Session.Basic

/-!
# Framed channels

A channel moves whole messages over an established session and the stream under it.  Receiving
gathers plaintext until a whole frame is there; sending hands a whole frame to the session and then
drains the session into the stream.  A stream that would block is reported by `trySend` and waited
out by `send`.

Every loop here ends: `flush` lowers the pending bytes or the stream's budget with each pass, and
`recv` lowers the budget, or sees the end of the stream, or moves plaintext
(`recvMeasure_lt_of_pull`).
-/

namespace PinnedLink

open PinnedLink.Frame (Message)

/-- A framed channel over a stream. -/
structure Channel (σ : Type) where
  session : Session
  stream : σ
  /-- Plaintext that does not make up a whole frame yet. -/
  received : Bytes
  /-- Largest body sent or accepted. -/
  maxBodyLen : Nat

namespace Channel

variable {σ : Type} [ByteStream σ]

/-- What a successful receive found. -/
inductive RecvOutcome where
  /-- A whole message, with the length of its body. -/
  | received (len : Nat)
  /-- The other end has ended the stream. -/
  | closed
  /-- Nothing complete yet. -/
  | empty
deriving DecidableEq, Repr

/-- What a successful send that does not wait did. -/
inductive SendStatus where
  /-- The whole frame is with the stream. -/
  | complete (len : Nat)
  /-- The frame is with the session and the stream is full. -/
  | wouldBlock (queued : Nat)
deriving DecidableEq, Repr

/-- What a successful flush left. -/
inductive FlushStatus where
  | drained
  | wouldBlock
deriving DecidableEq, Repr

/-- The channel over a session and a stream. -/
def new (session : Session) (stream : σ) (maxBodyLen : Nat) : Channel σ :=
  { session, stream, received := [], maxBodyLen }

/-- Some sealed bytes are waiting for the stream. -/
def hasPendingOutput (c : Channel σ) : Bool := !c.session.outbox.isEmpty

/-! ## Sending -/

/-- Hands a whole frame to the session, unless its lengths disagree or it is too large.  The result
is the length of the frame. -/
def queue (c : Channel σ) (m : Message) : Except TransportError Nat × Channel σ :=
  match m.validate with
  | .error e => (.error (.malformedHeader e), c)
  | .ok () =>
    if c.maxBodyLen < m.bodyLen then
      (.error (.oversizedMessage m.bodyLen c.maxBodyLen), c)
    else
      match c.session.send? m.encode with
      | .error e => (.error (.sendFailed (.session e)), c)
      | .ok session => (.ok m.encode.length, { c with session })

/-- What bounds the passes of `flush`. -/
def flushMeasure (c : Channel σ) : Nat :=
  ByteStream.budget c.stream + c.session.outbox.length

/-- Writes sealed bytes to the stream until none is left or the stream would block.  An interrupted
write is tried again; a write that takes nothing, or that fails otherwise, is an error. -/
def flush (c : Channel σ) : Except TransportError FlushStatus × Channel σ :=
  if c.session.outbox = [] then (.ok .drained, c)
  else
    match _h : ByteStream.write c.stream c.session.outbox with
    | (.ok 0, stream) => (.error (.sendFailed (.bare .writeZero)), { c with stream })
    | (.ok (n + 1), stream) =>
      flush { c with session := c.session.dropSent (n + 1), stream }
    | (.error e, stream) =>
      if e.kind = .wouldBlock then (.ok .wouldBlock, { c with stream })
      else if e.kind = .interrupted then flush { c with stream }
      else (.error (.sendFailed e), { c with stream })
termination_by c.flushMeasure
decreasing_by
  · have hle := ByteStream.le_of_write_ok _h
    have hb := ByteStream.budget_le_of_write _h
    simp only [flushMeasure, Session.dropSent, List.length_drop]
    omega
  · have hb := ByteStream.budget_lt_of_write_interrupted _h ‹_›
    simp only [flushMeasure]
    omega

/-- Drains the session with the stream in waiting mode, and then returns it to non-waiting mode.  A
failure of the drain comes before a failure of the return. -/
def drainBlocking (c : Channel σ) : Except TransportError Unit × Channel σ :=
  match ByteStream.setBlocking c.stream true with
  | (.error e, stream) => (.error (.sendFailed e), { c with stream })
  | (.ok (), stream) =>
    let (drained, c) := flush { c with stream }
    let (restored, stream) := ByteStream.setBlocking c.stream false
    let c := { c with stream }
    match drained with
    | .error e => (.error e, c)
    | .ok .drained =>
      match restored with
      | .error e => (.error (.sendFailed e), c)
      | .ok () => (.ok (), c)
    | .ok .wouldBlock =>
      (.error (.sendFailed (.note .wouldBlock "stream still blocked in blocking mode")), c)

/-- Sends a message and waits until the stream has taken all of it.  The result is the length of
the frame. -/
def send (c : Channel σ) (m : Message) : Except TransportError Nat × Channel σ :=
  match c.queue m with
  | (.error e, c) => (.error e, c)
  | (.ok len, c) =>
    match c.flush with
    | (.error e, c) => (.error e, c)
    | (.ok .drained, c) => (.ok len, c)
    | (.ok .wouldBlock, c) =>
      match c.drainBlocking with
      | (.error e, c) => (.error e, c)
      | (.ok (), c) => (.ok len, c)

/-- Sends a message as far as the stream takes it without waiting. -/
def trySend (c : Channel σ) (m : Message) : Except TransportError SendStatus × Channel σ :=
  match c.queue m with
  | (.error e, c) => (.error e, c)
  | (.ok len, c) =>
    match c.flush with
    | (.error e, c) => (.error e, c)
    | (.ok .drained, c) => (.ok (.complete len), c)
    | (.ok .wouldBlock, c) => (.ok (.wouldBlock len), c)

/-- Ends this direction in good order, as far as the stream takes it. -/
def shutdown (c : Channel σ) : Channel σ :=
  (flush { c with session := c.session.closeNotify }).2

/-! ## Receiving -/

/-- What one attempt to get more plaintext did. -/
inductive Pull where
  /-- Something changed; look for a frame again. -/
  | progress
  /-- Nothing to read now. -/
  | idle
  /-- The stream is over. -/
  | eof
deriving DecidableEq, Repr

/-- Reads the stream once, opens what came, and sends what the session has to answer.  The answer to
a bad record is sent as far as the stream takes it. -/
def fetch (c : Channel σ) : Except TransportError Pull × Channel σ :=
  match c.session.readFrom c.stream with
  | (.error e, session, stream) =>
    let c := { c with session, stream }
    if e.kind = .wouldBlock then (.ok .idle, c)
    else if e.kind = .interrupted then (.ok .progress, c)
    else (.error (.recvFailed e), c)
  | (.ok _, session, stream) =>
    match session.receive with
    | (some e, session) =>
      (.error (.recvFailed (.session e)), (flush { c with session, stream }).2)
    | (none, session) => (.ok .progress, (flush { c with session, stream }).2)

/-- Gets more plaintext: first what the session has opened, then what the stream gives. -/
def pull (c : Channel σ) : Except TransportError Pull × Channel σ :=
  let (plain, session) := c.session.takePlaintext
  if plain ≠ [] then (.ok .progress, { c with session, received := c.received ++ plain })
  else if c.session.ended then (.ok .eof, c)
  else c.fetch

/-- What bounds the passes of `recv`: the budget of the stream, then whether its end is still to be
seen, then the plaintext still to be moved. -/
def recvMeasure (c : Channel σ) : Nat × Nat × Nat :=
  (ByteStream.budget c.stream, if c.session.sawEof then 0 else 1, c.session.plaintext.length)

theorem flush_inbound (c : Channel σ) :
    ByteStream.budget c.flush.2.stream ≤ ByteStream.budget c.stream ∧
      c.flush.2.session.sawEof = c.session.sawEof ∧
      c.flush.2.session.plaintext = c.session.plaintext := by
  fun_induction flush c with
  | case1 c _ => exact ⟨Nat.le_refl _, rfl, rfl⟩
  | case2 c _ stream h => exact ⟨ByteStream.budget_le_of_write h, rfl, rfl⟩
  | case3 c _ n stream h ih =>
    exact ⟨Nat.le_trans ih.1 (ByteStream.budget_le_of_write h), ih.2.1, ih.2.2⟩
  | case4 c _ e stream h _ => exact ⟨ByteStream.budget_le_of_write h, rfl, rfl⟩
  | case5 c _ e stream h _ _ ih =>
    exact ⟨Nat.le_trans ih.1 (ByteStream.budget_le_of_write h), ih.2.1, ih.2.2⟩
  | case6 c _ e stream h _ _ => exact ⟨ByteStream.budget_le_of_write h, rfl, rfl⟩

/-- A pass that makes progress lowers the measure. -/
theorem recvMeasure_lt_of_fetch {c d : Channel σ} (h : c.fetch = (.ok .progress, d))
    (hopen : c.session.ended = false) :
    Prod.Lex (· < ·) (Prod.Lex (· < ·) (· < ·)) d.recvMeasure c.recvMeasure := by
  obtain ⟨hclosed, heof⟩ : c.session.peerClosed = false ∧ c.session.sawEof = false := by
    simpa [Session.ended] using hopen
  unfold fetch at h
  rcases hr : c.session.readFrom c.stream with ⟨result, s, stream⟩
  rw [hr] at h
  rcases result with e | n
  · dsimp only at h
    split at h
    · cases h
    · split at h
      · rename_i hint
        cases h
        exact Prod.Lex.left _ _ (Session.readFrom_interrupted hr hint)
      · cases h
  · dsimp only at h
    rcases hp : s.receive with ⟨failure, t⟩
    rw [hp] at h
    rcases failure with _ | e
    · dsimp only at h
      have ht : t.sawEof = s.sawEof := by
        have hs := Session.receive_sawEof s
        rw [hp] at hs
        exact hs
      obtain ⟨hb, he, -⟩ := flush_inbound { c with session := t, stream }
      obtain ⟨hle, hread⟩ := Session.readFrom_ok hr hclosed
      cases h
      unfold recvMeasure
      rcases hread with hseen | hlt
      · rcases Nat.lt_or_eq_of_le (Nat.le_trans hb hle) with hl | hl
        · exact Prod.Lex.left _ _ hl
        · rw [hl, he, heof]
          dsimp only
          rw [ht, hseen]
          exact Prod.Lex.right _ (Prod.Lex.left _ _ (by decide))
      · exact Prod.Lex.left _ _ (Nat.lt_of_le_of_lt hb hlt)
    · cases h

/-- A pass that makes progress lowers the measure. -/
theorem recvMeasure_lt_of_pull {c d : Channel σ} (h : c.pull = (.ok .progress, d)) :
    Prod.Lex (· < ·) (Prod.Lex (· < ·) (· < ·)) d.recvMeasure c.recvMeasure := by
  unfold pull Session.takePlaintext at h
  dsimp only at h
  split at h
  · rename_i hne
    cases h
    exact Prod.Lex.right _ (Prod.Lex.right _ (List.length_pos_iff.2 hne))
  · split at h
    · cases h
    · rename_i hopen
      exact recvMeasure_lt_of_fetch h (by simpa using hopen)

/-- Receives one message into the caller's message.  Bytes of an unfinished frame are discarded when
the stream is over. -/
def recv (c : Channel σ) (m : Message) : Except TransportError RecvOutcome × Channel σ × Message :=
  match takeFrame c.maxBodyLen c.received m with
  | (.error e, received, m) => (.error e, { c with received }, m)
  | (.ok (some len), received, m) => (.ok (.received len), { c with received }, m)
  | (.ok none, received, m) =>
    match _h : pull { c with received } with
    | (.error e, c) => (.error e, c, m)
    | (.ok .progress, c) => recv c m
    | (.ok .idle, c) => (.ok .empty, c, m)
    | (.ok .eof, c) => (.ok .closed, { c with received := [] }, m)
termination_by c.recvMeasure
decreasing_by
  have hlt := recvMeasure_lt_of_pull _h
  exact hlt

end Channel

end PinnedLink
