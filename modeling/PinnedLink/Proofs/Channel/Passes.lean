import PinnedLink.Proofs.Channel.Queueing
import PinnedLink.Proofs.Channel.Receiving

/-!
# The loops of a channel end

Every loop of a channel is written out here as the single pass that it repeats: `queuePass`,
`flushPass`, `drainPass` and `recvPass`.  A pass leaves the loop or goes round again (`Turn`), and
`Turn.bounded` repeats it no more often than a rank of the state allows, giving up after that.

Whenever a pass goes round again, the rank drops.  So over an in-memory connection, whatever is queued
in it and whatever goes wrong with it, no loop is ever given up, and what the bounded loops return is
what the operations of the channel return (`loops_end`).
-/

namespace PinnedLink

open PinnedLink.Frame (Message)

/-! ## Loops -/

/-- What one pass of a loop comes to. -/
inductive Turn (α β : Type) where
  /-- The loop goes round again. -/
  | again (a : α)
  /-- The loop is left. -/
  | done (b : β)

namespace Turn

variable {α β : Type}

/-- What a loop returns behind a pass, if `f` is what it returns from a state. -/
def resume (f : α → β) : Turn α β → β
  | again a => f a
  | done b => b

/-- Repeats a pass a number of times at most, and gives up then. -/
def within (pass : α → Turn α β) : Nat → α → Option β
  | 0, _ => none
  | n + 1, a =>
    match pass a with
    | again b => within pass n b
    | done b => some b

/-- Repeats a pass once more at most than the rank of the state says. -/
def bounded (pass : α → Turn α β) (rank : α → Nat) (a : α) : Option β := within pass (rank a + 1) a

/-- A loop whose passes lower a rank is left in time, with what it returns. -/
theorem within_eq_some {pass : α → Turn α β} {rank : α → Nat} {f : α → β}
    (hpass : ∀ a, f a = (pass a).resume f)
    (hrank : ∀ a b, pass a = again b → rank b < rank a) {n : Nat} {a : α} (h : rank a < n) :
    within pass n a = some (f a) := by
  induction n generalizing a with
  | zero => exact absurd h (Nat.not_lt_zero _)
  | succ n ih =>
    rw [within, hpass a]
    cases hturn : pass a with
    | again b =>
      have hlt := hrank a b hturn
      exact ih (by omega)
    | done b => rfl

theorem bounded_eq_some {pass : α → Turn α β} {rank : α → Nat} {f : α → β}
    (hpass : ∀ a, f a = (pass a).resume f)
    (hrank : ∀ a b, pass a = again b → rank b < rank a) (a : α) :
    bounded pass rank a = some (f a) :=
  within_eq_some hpass hrank (Nat.lt_succ_self _)

end Turn

/-! ## Pending faults of a connection -/

namespace Pipe.End

/-- Faults that one side of a connection may still meet. -/
def faults (s : End) : Nat :=
  s.outgoing.writeFaults.length + s.outgoing.modeFaults.length + s.incoming.readFaults.length

/-- What one side of a connection may still meet are faults and ciphertext. -/
theorem budget_eq (s : End) : ByteStream.budget s = s.faults + s.incoming.queue.length := by
  show s.outgoing.writerBudget + s.incoming.readerBudget = _
  rw [Pipe.writerBudget, Pipe.readerBudget, faults, Nat.add_assoc, Nat.add_assoc, Nat.add_assoc]

theorem incoming_write {s t : End} {bytes : Bytes} {r : Except IoError Nat}
    (h : ByteStream.write s bytes = (r, t)) : t.incoming = s.incoming := by
  cases h
  rfl

end Pipe.End

namespace Channel

/-! ## Handing a frame to the session -/

/-- One pass of handing a frame to a session, behind the bytes that were handed over.  The session has
no limit and takes all that it is given. -/
def queuePass (frame : Bytes) (state : Nat × Session) :
    Turn (Nat × Session) (Except TransportError Nat × Session) :=
  let (written, session) := state
  if written < frame.length then
    match session.send? (frame.drop written) with
    | .error e => .done (.error (.sendFailed (.session e)), session)
    | .ok after =>
      let n := (frame.drop written).length
      if n = 0 then .done (.error (.sendFailed (.bare .writeZero)), after)
      else .again (written + n, after)
  else .done (.ok written, session)

/-- What is left of a frame. -/
def queueRank (frame : Bytes) (state : Nat × Session) : Nat := frame.length - state.1

/-- What handing over the rest of a frame returns. -/
def handOver (frame : Bytes) (state : Nat × Session) : Except TransportError Nat × Session :=
  if state.1 < frame.length then
    match state.2.send? (frame.drop state.1) with
    | .error e => (.error (.sendFailed (.session e)), state.2)
    | .ok after => (.ok frame.length, after)
  else (.ok state.1, state.2)

theorem queuePass_resume (frame : Bytes) (state : Nat × Session) :
    handOver frame state = (queuePass frame state).resume (handOver frame) := by
  obtain ⟨written, session⟩ := state
  unfold queuePass
  by_cases hleft : written < frame.length
  · have hlength : (frame.drop written).length = frame.length - written := List.length_drop
    simp only [handOver, if_pos hleft]
    cases session.send? (frame.drop written) with
    | error e => rfl
    | ok after =>
      have hsome : ¬ frame.length - written = 0 := by omega
      have hall : written + (frame.length - written) = frame.length := by omega
      simp only [hlength, if_neg hsome, Turn.resume, handOver, hall, if_neg (Nat.lt_irrefl _)]
  · simp only [handOver, if_neg hleft, Turn.resume]

theorem queueRank_lt {frame : Bytes} (state state' : Nat × Session)
    (h : queuePass frame state = .again state') : queueRank frame state' < queueRank frame state := by
  obtain ⟨written, session⟩ := state
  unfold queuePass at h
  rcases hsend : session.send? (frame.drop written) with e | after
  · simp only [hsend] at h
    split_ifs at h
  · simp only [hsend] at h
    split_ifs at h with hleft hsome
    cases h
    unfold queueRank
    rw [List.length_drop]
    omega

section Queueing

variable {σ : Type}

/-- `queue` with its loop bounded. -/
def queueBounded (c : Channel σ) (m : Message) : Option (Except TransportError Nat × Channel σ) :=
  match m.validate with
  | .error e => some (.error (.malformedHeader e), c)
  | .ok () =>
    if c.maxBodyLen < m.bodyLen then
      some (.error (.oversizedMessage m.bodyLen c.maxBodyLen), c)
    else
      (Turn.bounded (queuePass m.encode) (queueRank m.encode) (0, c.session)).map
        fun (result, session) => (result, { c with session })

theorem queueBounded_eq (c : Channel σ) (m : Message) : queueBounded c m = some (c.queue m) := by
  unfold queueBounded queue
  cases hvalid : m.validate with
  | error e => rfl
  | ok _ =>
    dsimp only
    split_ifs with hlarge
    · rfl
    rw [Turn.bounded_eq_some (queuePass_resume m.encode) queueRank_lt, Option.map_some, handOver,
      if_pos (by rw [length_encode hvalid]; omega)]
    show some _ = some _
    rw [List.drop_zero]
    cases c.session.send? m.encode with
    | error e => rfl
    | ok session => rfl

end Queueing

/-! ## Flushing -/

section Flushing

variable {σ : Type} [ByteStream σ]

/-- One pass of `flush`. -/
def flushPass (c : Channel σ) : Turn (Channel σ) (Except TransportError FlushStatus × Channel σ) :=
  if c.session.outbox = [] then .done (.ok .drained, c)
  else
    match ByteStream.write c.stream c.session.outbox with
    | (.ok n, stream) =>
      if n = 0 then .done (.error (.sendFailed (.bare .writeZero)), { c with stream })
      else .again { c with session := c.session.dropSent n, stream }
    | (.error e, stream) =>
      if e.kind = .wouldBlock then .done (.ok .wouldBlock, { c with stream })
      else if e.kind = .interrupted then .again { c with stream }
      else .done (.error (.sendFailed e), { c with stream })

theorem flushPass_resume (c : Channel σ) : c.flush = (flushPass c).resume flush := by
  unfold flushPass
  rw [flush]
  split_ifs with hempty
  · rfl
  rcases hwrite : ByteStream.write c.stream c.session.outbox with ⟨e | _ | n, stream⟩
  · dsimp only
    split_ifs <;> rfl
  · rfl
  · rfl

/-- A pass of `flush` that goes round again has lowered the pending bytes, or the budget of the
stream. -/
theorem flushMeasure_lt_of_again (c d : Channel σ) (h : flushPass c = .again d) :
    d.flushMeasure < c.flushMeasure := by
  unfold flushPass at h
  split_ifs at h with hempty
  rcases hwrite : ByteStream.write c.stream c.session.outbox with ⟨e | n, stream⟩
  · rw [hwrite] at h
    dsimp only at h
    split_ifs at h with hblock hint
    cases h
    have hlt := ByteStream.budget_lt_of_write_interrupted hwrite hint
    simp only [flushMeasure]
    omega
  · rw [hwrite] at h
    dsimp only at h
    split_ifs at h with hzero
    cases h
    have hle := ByteStream.le_of_write_ok hwrite
    have hbudget := ByteStream.budget_le_of_write hwrite
    simp only [flushMeasure, Session.dropSent, List.length_drop]
    omega

end Flushing

/-- What a pass of `flush` lowers: the bytes queued for the connection, and its faults. -/
def flushRank (c : Channel Pipe.End) : Nat := c.session.outbox.length + c.stream.faults

theorem flushRank_lt (c d : Channel Pipe.End) (h : flushPass c = .again d) :
    flushRank d < flushRank c := by
  have hlt := flushMeasure_lt_of_again c d h
  have hincoming : d.stream.incoming = c.stream.incoming := by
    unfold flushPass at h
    split_ifs at h
    rcases hwrite : ByteStream.write c.stream c.session.outbox with ⟨e | n, stream⟩
    all_goals
      rw [hwrite] at h
      dsimp only at h
      split_ifs at h
      cases h
      exact Pipe.End.incoming_write hwrite
  rw [flushMeasure, flushMeasure, Pipe.End.budget_eq, Pipe.End.budget_eq, hincoming] at hlt
  unfold flushRank
  omega

/-- `flush` with its loop bounded. -/
def flushBounded (c : Channel Pipe.End) :
    Option (Except TransportError FlushStatus × Channel Pipe.End) :=
  Turn.bounded flushPass flushRank c

theorem flushBounded_eq (c : Channel Pipe.End) : flushBounded c = some c.flush :=
  Turn.bounded_eq_some flushPass_resume flushRank_lt c

/-! ## Draining the session -/

/-- Most bytes that one read of the session gives. -/
def readChunk : Nat := 16 * 1024

/-- A read of the plaintext of a session: some of what is at hand, nothing behind a goodbye, and else a
failure that tells whether more may come. -/
def readPlain (s : Session) : Except IoErrorKind Bytes × Session :=
  if s.plaintext ≠ [] then
    (.ok (s.plaintext.take readChunk), { s with plaintext := s.plaintext.drop readChunk })
  else if s.peerClosed then (.ok [], s)
  else if s.sawEof then (.error .unexpectedEof, s)
  else (.error .wouldBlock, s)

/-- What draining the session has come to. -/
inductive Drained where
  | data
  | nothing
  | closed

section Draining

variable {σ : Type}

/-- One pass of draining the session of a channel, which has got something before or not. -/
def drainPass (state : Bool × Channel σ) :
    Turn (Bool × Channel σ) (Except TransportError Drained × Channel σ) :=
  let (got, c) := state
  match readPlain c.session with
  | (.ok [], session) => .done (.ok (if got then .data else .closed), { c with session })
  | (.ok bytes, session) => .again (true, { c with session, received := c.received ++ bytes })
  | (.error kind, session) =>
    if kind = .wouldBlock then .done (.ok (if got then .data else .nothing), { c with session })
    else if kind = .unexpectedEof then
      .done (.ok (if got then .data else .closed), { c with session })
    else .done (.error (.recvFailed (.bare kind)), { c with session })

/-- The plaintext at hand. -/
def drainRank (state : Bool × Channel σ) : Nat := state.2.session.plaintext.length

/-- What draining the session of a channel returns. -/
def drain (state : Bool × Channel σ) : Except TransportError Drained × Channel σ :=
  let (got, c) := state
  (.ok (if got || c.session.plaintext ≠ [] then .data else if c.session.ended then .closed
      else .nothing),
    { c with
      session := { c.session with plaintext := [] }, received := c.received ++ c.session.plaintext })

/-- With nothing at hand, draining leaves the channel as it is. -/
theorem drain_of_nil {c : Channel σ} (got : Bool) (h : c.session.plaintext = []) :
    drain (got, c) =
      (.ok (if got then .data else if c.session.ended then .closed else .nothing), c) := by
  obtain ⟨⟨_, _, _, _, _, _, _, plaintext, _, _, _, _⟩, stream, received, maxBodyLen⟩ := c
  obtain rfl : plaintext = [] := h
  cases got <;> simp [drain]

/-- With plaintext at hand, a pass moves a chunk of it. -/
theorem drainPass_of_ne_nil {c : Channel σ} (got : Bool) (h : c.session.plaintext ≠ []) :
    drainPass (got, c) = .again (true,
      { c with
        session := { c.session with plaintext := c.session.plaintext.drop readChunk }
        received := c.received ++ c.session.plaintext.take readChunk }) := by
  obtain ⟨b, rest, hplain⟩ := List.exists_cons_of_ne_nil h
  simp only [drainPass, readPlain, if_pos h]
  rw [hplain]
  rfl

theorem drainPass_resume (state : Bool × Channel σ) :
    drain state = (drainPass state).resume drain := by
  obtain ⟨got, c⟩ := state
  by_cases hplain : c.session.plaintext = []
  · rw [drain_of_nil got hplain]
    simp only [drainPass, readPlain, if_neg (not_not_intro hplain)]
    cases hclosed : c.session.peerClosed <;> cases heof : c.session.sawEof <;>
      simp [Session.ended, hclosed, heof, Turn.resume]
  · rw [drainPass_of_ne_nil got hplain]
    simp only [Turn.resume, drain, List.append_assoc, List.take_append_drop, ne_eq, hplain,
      not_false_eq_true, decide_true, Bool.or_true, Bool.true_or, if_true]

theorem drainRank_lt (state state' : Bool × Channel σ) (h : drainPass state = .again state') :
    drainRank state' < drainRank state := by
  obtain ⟨got, c⟩ := state
  by_cases hplain : c.session.plaintext = []
  · simp only [drainPass, readPlain, if_neg (not_not_intro hplain)] at h
    cases hclosed : c.session.peerClosed <;> cases heof : c.session.sawEof <;>
      simp [hclosed, heof] at h
  · rw [drainPass_of_ne_nil got hplain] at h
    cases h
    have hlength : 0 < c.session.plaintext.length := List.length_pos_iff.2 hplain
    simp only [drainRank, List.length_drop, readChunk]
    omega

end Draining

/-! ## Receiving -/

/-- `fetch` with its loop bounded. -/
def fetchBounded (c : Channel Pipe.End) : Option (Except TransportError Pull × Channel Pipe.End) :=
  match c.session.readFrom c.stream with
  | (.error e, session, stream) =>
    let c := { c with session, stream }
    if e.kind = .wouldBlock then some (.ok .idle, c)
    else if e.kind = .interrupted then some (.ok .progress, c)
    else some (.error (.recvFailed e), c)
  | (.ok _, session, stream) =>
    match session.receive with
    | (some e, session) =>
      (flushBounded { c with session, stream }).map fun (_, c) =>
        (.error (.recvFailed (.session e)), c)
    | (none, session) =>
      (flushBounded { c with session, stream }).map fun (_, c) => (.ok .progress, c)

theorem fetchBounded_eq (c : Channel Pipe.End) : fetchBounded c = some c.fetch := by
  unfold fetchBounded fetch
  rcases c.session.readFrom c.stream with ⟨e | n, s, stream⟩
  · dsimp only
    split_ifs <;> rfl
  · dsimp only
    rcases s.receive with ⟨_ | e, t⟩
    · simp only [flushBounded_eq, Option.map_some]
    · simp only [flushBounded_eq, Option.map_some]

/-- `pull` with its loops bounded. -/
def pullBounded (c : Channel Pipe.End) : Option (Except TransportError Pull × Channel Pipe.End) := do
  match ← Turn.bounded drainPass drainRank (false, c) with
  | (.error e, c) => return (.error e, c)
  | (.ok .data, c) => return (.ok .progress, c)
  | (.ok .closed, c) => return (.ok .eof, c)
  | (.ok .nothing, c) => fetchBounded c

theorem pullBounded_eq (c : Channel Pipe.End) : pullBounded c = some c.pull := by
  unfold pullBounded pull Session.takePlaintext
  rw [Turn.bounded_eq_some drainPass_resume drainRank_lt]
  by_cases hplain : c.session.plaintext = []
  · rw [drain_of_nil false hplain]
    cases hended : c.session.ended <;> simp [hplain, fetchBounded_eq]
  · simp [drain, hplain]

/-- One pass of `recv`, whose own loops are bounded. -/
def recvPass (state : Channel Pipe.End × Message) : Turn (Channel Pipe.End × Message)
    (Option (Except TransportError RecvOutcome × Channel Pipe.End × Message)) :=
  let (c, m) := state
  match takeFrame c.maxBodyLen c.received m with
  | (.error e, received, m) => .done (some (.error e, { c with received }, m))
  | (.ok (some len), received, m) => .done (some (.ok (.received len), { c with received }, m))
  | (.ok none, received, m) =>
    match pullBounded { c with received } with
    | none => .done none
    | some (.error e, c) => .done (some (.error e, c, m))
    | some (.ok .progress, c) => .again (c, m)
    | some (.ok .idle, c) => .done (some (.ok .empty, c, m))
    | some (.ok .eof, c) => .done (some (.ok .closed, { c with received := [] }, m))

/-- What a pass of `recv` lowers: faults and ciphertext that the connection may still bring, whether
its end is still to be seen, and whether there is plaintext to be drained. -/
def recvRank (state : Channel Pipe.End × Message) : Nat :=
  2 * (state.1.stream.faults + state.1.stream.incoming.queue.length +
      if state.1.session.sawEof then 0 else 1) +
    if state.1.session.plaintext = [] then 0 else 1

/-- `recv` with its loops bounded. -/
def recvBounded (c : Channel Pipe.End) (m : Message) :
    Option (Except TransportError RecvOutcome × Channel Pipe.End × Message) :=
  (Turn.bounded recvPass recvRank (c, m)).join

theorem recvPass_resume (state : Channel Pipe.End × Message) :
    some (state.1.recv state.2) =
      (recvPass state).resume fun state => some (state.1.recv state.2) := by
  obtain ⟨c, m⟩ := state
  rw [recv, recvPass]
  rcases takeFrame c.maxBodyLen c.received m with ⟨e | _ | len, received, m'⟩
  · rfl
  · dsimp only
    rw [pullBounded_eq]
    rcases hpull : pull { c with received } with ⟨e | _ | _ | _, d⟩
    all_goals split <;> simp_all [Turn.resume]
  · rfl

/-- A pull that makes progress drains the plaintext at hand, or takes something from the connection or
sees its end. -/
theorem recvRank_lt_of_pull {c d : Channel Pipe.End} (m m' : Message)
    (h : c.pull = (.ok .progress, d)) : recvRank (d, m') < recvRank (c, m) := by
  -- There is less to come, or as much and its end was seen; new plaintext weighs less than either.
  have hread (hnone : c.session.plaintext = []) (hlive : c.session.ended = false) :
      recvRank (d, m') < recvRank (c, m) := by
    obtain ⟨-, heof⟩ : c.session.peerClosed = false ∧ c.session.sawEof = false := by
      simpa [Session.ended] using hlive
    have hlex := recvMeasure_lt_of_pull h
    simp only [Prod.lex_def, recvMeasure, hnone, heof, Pipe.End.budget_eq, List.length_nil,
      Nat.not_lt_zero, and_false, or_false, Bool.false_eq_true, if_false] at hlex
    simp only [recvRank, hnone, heof, Bool.false_eq_true, if_false, if_true]
    split_ifs at hlex ⊢ <;> omega
  generalize hr : (.ok .progress : Except TransportError Pull) = r at h
  cases pull_pulls h with
  | handed hne =>
    simp only [recvRank, Session.takePlaintext, if_neg hne, if_true]
    exact Nat.lt_succ_self _
  | exhausted => cases hr
  | refused hnone hlive => exact hread hnone hlive
  | opened hnone hlive => exact hread hnone hlive

/-- A pass of `recv` that goes round again has lowered its rank. -/
theorem recvRank_lt (state state' : Channel Pipe.End × Message)
    (h : recvPass state = .again state') : recvRank state' < recvRank state := by
  obtain ⟨c, m⟩ := state
  rw [recvPass] at h
  rcases htake : takeFrame c.maxBodyLen c.received m with ⟨e | _ | len, received, m'⟩
  · simp only [htake] at h
    cases h
  · simp only [htake, pullBounded_eq] at h
    rcases hpull : pull { c with received } with ⟨e | _ | _ | _, d⟩
    all_goals
      rw [hpull] at h
      cases h
    exact recvRank_lt_of_pull (c := { c with received }) m m' hpull
  · simp only [htake] at h
    cases h

theorem recvBounded_eq (c : Channel Pipe.End) (m : Message) :
    recvBounded c m = some (c.recv m) := by
  rw [recvBounded, Turn.bounded_eq_some recvPass_resume recvRank_lt, Option.join_some]

/-! ## Sending -/

/-- `drainBlocking` with its loop bounded. -/
def drainBlockingBounded (c : Channel Pipe.End) :
    Option (Except TransportError Unit × Channel Pipe.End) :=
  match ByteStream.setBlocking c.stream true with
  | (.error e, stream) => some (.error (.sendFailed e), { c with stream })
  | (.ok (), stream) => do
    let (drained, c) ← flushBounded { c with stream }
    let (restored, stream) := ByteStream.setBlocking c.stream false
    let c := { c with stream }
    match drained with
    | .error e => return (.error e, c)
    | .ok .drained =>
      match restored with
      | .error e => return (.error (.sendFailed e), c)
      | .ok () => return (.ok (), c)
    | .ok .wouldBlock =>
      return (.error (.sendFailed (.note .wouldBlock "stream still blocked in blocking mode")), c)

theorem drainBlockingBounded_eq (c : Channel Pipe.End) :
    drainBlockingBounded c = some c.drainBlocking := by
  unfold drainBlockingBounded drainBlocking
  rcases ByteStream.setBlocking c.stream true with ⟨e | _, stream⟩
  · rfl
  · simp only [flushBounded_eq, Option.bind_eq_bind, Option.bind_some]
    rcases flush { c with stream } with ⟨e | _ | _, d⟩
    · rfl
    · dsimp only
      rcases ByteStream.setBlocking d.stream false with ⟨e | _, after⟩ <;> rfl
    · rfl

/-- `send` with its loops bounded. -/
def sendBounded (c : Channel Pipe.End) (m : Message) :
    Option (Except TransportError Nat × Channel Pipe.End) := do
  match ← queueBounded c m with
  | (.error e, c) => return (.error e, c)
  | (.ok len, c) =>
    match ← flushBounded c with
    | (.error e, c) => return (.error e, c)
    | (.ok .drained, c) => return (.ok len, c)
    | (.ok .wouldBlock, c) =>
      match ← drainBlockingBounded c with
      | (.error e, c) => return (.error e, c)
      | (.ok (), c) => return (.ok len, c)

theorem sendBounded_eq (c : Channel Pipe.End) (m : Message) :
    sendBounded c m = some (c.send m) := by
  unfold sendBounded send
  simp only [queueBounded_eq, flushBounded_eq, drainBlockingBounded_eq, Option.bind_eq_bind,
    Option.bind_some]
  rcases c.queue m with ⟨e | len, d⟩
  · rfl
  · dsimp only
    rcases d.flush with ⟨e | _ | _, f⟩
    · rfl
    · rfl
    · dsimp only
      rcases f.drainBlocking with ⟨e | _, g⟩ <;> rfl

/-- `shutdown` with its loop bounded. -/
def shutdownBounded (c : Channel Pipe.End) : Option (Channel Pipe.End) :=
  (flushBounded { c with session := c.session.closeNotify }).map fun (_, c) => c

theorem shutdownBounded_eq (c : Channel Pipe.End) : shutdownBounded c = some c.shutdown := by
  rw [shutdownBounded, flushBounded_eq]
  rfl

/-! ## Every loop ends -/

/-- Over an in-memory connection, whatever is queued in it, open or closed, and whatever faults and
limits it has, every pass of `recv` and of `flush` that goes round again lowers its rank, and none of
the operations of a channel runs a loop that has to be given up. -/
theorem loops_end (c : Channel Pipe.End) (m : Message) :
    (∀ c' m', recvPass (c, m) = .again (c', m') → recvRank (c', m') < recvRank (c, m)) ∧
      (∀ c', flushPass c = .again c' → flushRank c' < flushRank c) ∧
      recvBounded c m = some (c.recv m) ∧ flushBounded c = some c.flush ∧
      sendBounded c m = some (c.send m) ∧ shutdownBounded c = some c.shutdown :=
  ⟨fun _ _ h => recvRank_lt _ _ h, fun _ h => flushRank_lt _ _ h, recvBounded_eq c m,
    flushBounded_eq c, sendBounded_eq c m, shutdownBounded_eq c⟩

end Channel

end PinnedLink
