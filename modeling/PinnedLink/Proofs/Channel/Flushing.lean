import PinnedLink.Proofs.Channel.Queueing
import PinnedLink.Proofs.Stream.Logged

/-!
# What a flush does with the queue

`Drain queue calls left result` is a flush seen from the stream: the calls that it makes for `queue`,
the bytes that they leave queued, and what it returns.  A flush of a channel is such a drain of the
pending output, and it changes nothing else of the channel (`flush_drains`).  All that is said of a
flush follows by induction on its drain: the bytes that the stream has taken, followed by those that
are left, are the queue, and the result tells how the last call went (`Drain.report`).

The two ways to send report the length of the frame, and whether any of it is left, accordingly
(`send_ok`, `trySend_ok`).
-/

namespace PinnedLink

open PinnedLink.Frame (Message)

namespace Channel

/-! ## Drains -/

/-- A flush goes on behind a write that took something or was interrupted. -/
def goesOn : Except IoError Nat → Bool
  | .ok n => n ≠ 0
  | .error e => e.kind = .interrupted

/-- What a flush returns behind a write after which it does not go on. -/
def stopped : Except IoError Nat → Except TransportError FlushStatus
  | .ok _ => .error (.sendFailed (.bare .writeZero))
  | .error e => if e.kind = .wouldBlock then .ok .wouldBlock else .error (.sendFailed e)

/-- A flush seen from the stream: for the bytes `queue` it makes the calls `calls`, which leave the
bytes `left`, and returns `result`. -/
inductive Drain : Bytes → List StreamCall → Bytes → Except TransportError FlushStatus → Prop where
  | drained : Drain [] [] [] (.ok .drained)
  | goes {queue left : Bytes} {answer : Except IoError Nat} {calls : List StreamCall}
      {result : Except TransportError FlushStatus} (hqueue : queue ≠ [])
      (hgoes : goesOn answer = true)
      (h : Drain (queue.drop (StreamCall.count answer)) calls left result) :
      Drain queue (.write queue answer :: calls) left result
  | stops {queue : Bytes} {answer : Except IoError Nat} (hqueue : queue ≠ [])
      (hstops : goesOn answer = false) :
      Drain queue [.write queue answer] queue (stopped answer)

theorem count_eq_zero {answer : Except IoError Nat} (h : goesOn answer = false) :
    StreamCall.count answer = 0 := by
  cases answer with
  | ok n =>
    rw [StreamCall.count]
    simpa [goesOn] using h
  | error e => rfl

theorem stopped_ne_drained (answer : Except IoError Nat) : stopped answer ≠ .ok .drained := by
  unfold stopped
  split
  · exact fun h => by cases h
  · split <;> exact fun h => by cases h

theorem stopped_eq_wouldBlock_iff {answer : Except IoError Nat} :
    stopped answer = .ok .wouldBlock ↔ ∃ e, answer = .error e ∧ e.kind = .wouldBlock := by
  cases answer with
  | ok n => simp [stopped]
  | error e =>
    by_cases hkind : e.kind = .wouldBlock <;> simp [stopped, hkind]

theorem stopped_eq_error_iff {answer : Except IoError Nat} (h : goesOn answer = false)
    {failure : TransportError} :
    stopped answer = .error failure ↔
      answer = .ok 0 ∧ failure = .sendFailed (.bare .writeZero) ∨
        ∃ e, answer = .error e ∧ e.kind ≠ .wouldBlock ∧ e.kind ≠ .interrupted ∧
          failure = .sendFailed e := by
  cases answer with
  | ok n =>
    obtain rfl : n = 0 := count_eq_zero h
    simp [stopped, eq_comm (b := failure)]
  | error e =>
    have hint : e.kind ≠ .interrupted := by simpa [goesOn] using h
    by_cases hkind : e.kind = .wouldBlock <;> simp [stopped, hkind, hint, eq_comm (b := failure)]

namespace Drain

variable {queue left : Bytes} {calls : List StreamCall} {result : Except TransportError FlushStatus}

/-- The bytes that were taken, followed by those that are left, are those that were queued. -/
theorem taken_append_left (h : Drain queue calls left result) : taken calls ++ left = queue := by
  induction h with
  | drained => rfl
  | goes _ _ _ ih => rw [taken_write, List.append_assoc, ih, List.take_append_drop]
  | stops _ hstops =>
    rw [taken_write, count_eq_zero hstops]
    rfl

/-- A drain only writes. -/
theorem modeChanges_eq_nil (h : Drain queue calls left result) : modeChanges calls = [] := by
  induction h with
  | drained => rfl
  | goes _ _ _ ih => exact ih
  | stops _ _ => rfl

/-- A drain leaves nothing, or it stops at a write of all that is left. -/
theorem result_eq (h : Drain queue calls left result) :
    left = [] ∧ result = .ok .drained ∨
      left ≠ [] ∧ ∃ before answer, calls = before ++ [.write left answer] ∧
        goesOn answer = false ∧ result = stopped answer := by
  induction h with
  | drained => exact Or.inl ⟨rfl, rfl⟩
  | goes _ _ _ ih =>
    rcases ih with hall | ⟨hleft, before, answer, rfl, hstops⟩
    · exact Or.inl hall
    · exact Or.inr ⟨hleft, _ :: before, answer, rfl, hstops⟩
  | stops hqueue hstops => exact Or.inr ⟨hqueue, [], _, rfl, hstops, rfl⟩

/-- A drain that makes no call has nothing to do. -/
theorem left_eq_nil (h : Drain queue [] left result) : left = [] := by
  cases h
  rfl

/-- Each call of a drain writes all that the calls before it have left, and another one follows it if
it goes on and leaves anything, and only if it goes on. -/
theorem write_of_mem (h : Drain queue calls left result) {before after : List StreamCall}
    {call : StreamCall} (hcalls : calls = before ++ call :: after) :
    ∃ rest answer, call = .write rest answer ∧ taken before ++ rest = queue ∧
      (after ≠ [] → goesOn answer = true) ∧ (goesOn answer = true → after = [] → left = []) := by
  induction h generalizing before with
  | drained => simp at hcalls
  | @goes queue left answer calls result hqueue hgoes h ih =>
    cases before with
    | nil =>
      cases hcalls
      refine ⟨queue, answer, rfl, rfl, fun _ => hgoes, ?_⟩
      rintro - rfl
      exact h.left_eq_nil
    | cons first before =>
      cases hcalls
      obtain ⟨rest, answer', hcall, hrest, hafter⟩ := ih rfl
      refine ⟨rest, answer', hcall, ?_, hafter⟩
      rw [taken_write, List.append_assoc, hrest, List.take_append_drop]
  | @stops queue answer hqueue hstops =>
    obtain ⟨rfl, rfl, rfl⟩ : before = [] ∧ call = .write queue answer ∧ after = [] := by
      simpa [List.singleton_eq_append_iff] using hcalls
    refine ⟨queue, answer, rfl, rfl, fun hne => absurd rfl hne, fun hgoes => ?_⟩
    rw [hstops] at hgoes
    cases hgoes

end Drain

/-! ## What a flush says -/

/-- What a flush of the bytes `queue` has done with the calls `calls`, what it has left and what it
returns. -/
structure FlushReport (queue : Bytes) (calls : List StreamCall) (left : Bytes)
    (result : Except TransportError FlushStatus) : Prop where
  /-- What the stream has taken, followed by what is still queued, is the queue. -/
  conserved : taken calls ++ left = queue
  /-- Each call writes what is left by then.  The flush goes on just behind a write that took
  something or was interrupted. -/
  writes : ∀ {before : List StreamCall} {call : StreamCall} {after : List StreamCall},
    calls = before ++ call :: after →
      ∃ rest answer, call = .write rest answer ∧ taken before ++ rest = queue ∧
        (after ≠ [] → goesOn answer = true) ∧ (goesOn answer = true → after = [] → left = [])
  drained_iff : result = .ok .drained ↔ left = []
  wouldBlock_iff : result = .ok .wouldBlock ↔ left ≠ [] ∧
    ∃ e, calls.getLast? = some (.write left (.error e)) ∧ e.kind = .wouldBlock
  error_iff : ∀ failure, result = .error failure ↔ left ≠ [] ∧
    (calls.getLast? = some (.write left (.ok 0)) ∧ failure = .sendFailed (.bare .writeZero) ∨
      ∃ e, calls.getLast? = some (.write left (.error e)) ∧ e.kind ≠ .wouldBlock ∧
        e.kind ≠ .interrupted ∧ failure = .sendFailed e)

theorem Drain.report {queue left : Bytes} {calls : List StreamCall}
    {result : Except TransportError FlushStatus} (h : Drain queue calls left result) :
    FlushReport queue calls left result := by
  refine ⟨h.taken_append_left, h.write_of_mem, ?_, ?_, fun failure => ?_⟩
  all_goals rcases h.result_eq with ⟨rfl, rfl⟩ | ⟨hleft, before, answer, rfl, hstops, rfl⟩
  · exact iff_of_true rfl rfl
  · exact iff_of_false (stopped_ne_drained answer) hleft
  · exact iff_of_false (fun h => by cases h) fun h => h.1 rfl
  · rw [stopped_eq_wouldBlock_iff]
    simp [hleft]
  · exact iff_of_false (fun h => by cases h) fun h => h.1 rfl
  · rw [stopped_eq_error_iff hstops]
    simp [hleft]

/-! ## Flushing and sending -/

variable {σ : Type} [ByteStream σ]

/-- A channel behind the calls `calls` of its stream, with `left` still queued. -/
def behind (c : Channel (Logged σ)) (calls : List StreamCall) (left : Bytes) (stream : σ) :
    Channel (Logged σ) :=
  { c with
    session := { c.session with outbox := left }
    stream := { stream, calls := c.stream.calls ++ calls } }

/-- A flush drains what is queued, and changes nothing else. -/
theorem flush_drains (c : Channel (Logged σ)) :
    ∃ calls left, c.flush.2 = c.behind calls left c.flush.2.stream.stream ∧
      Drain c.session.outbox calls left c.flush.1 := by
  fun_induction flush c with
  | case1 c hnil =>
    refine ⟨[], c.session.outbox, ?_, ?_⟩
    · rw [behind, List.append_nil]
    · rw [hnil]
      exact .drained
  | case2 c hne stream h =>
    refine ⟨[.write c.session.outbox (.ok 0)], c.session.outbox, ?_, .stops hne rfl⟩
    rw [behind, ← Logged.calls_write h]
  | case3 c hne n stream h ih =>
    obtain ⟨calls, left, hflush, hdrain⟩ := ih
    refine ⟨.write c.session.outbox (.ok (n + 1)) :: calls, left, hflush.trans ?_,
      .goes hne rfl hdrain⟩
    simp only [behind, Session.dropSent, Logged.calls_write h, List.append_assoc,
      List.singleton_append]
  | case4 c hne e stream h hkind =>
    refine ⟨[.write c.session.outbox (.error e)], c.session.outbox, ?_, ?_⟩
    · rw [behind, ← Logged.calls_write h]
    · have hstops := Drain.stops hne (show goesOn (.error e) = false by simp [goesOn, hkind])
      rwa [stopped, if_pos hkind] at hstops
  | case5 c hne e stream h hblock hkind ih =>
    obtain ⟨calls, left, hflush, hdrain⟩ := ih
    refine ⟨.write c.session.outbox (.error e) :: calls, left, hflush.trans ?_,
      .goes hne (decide_eq_true hkind) hdrain⟩
    simp only [behind, Logged.calls_write h, List.append_assoc, List.singleton_append]
  | case6 c hne e stream h hblock hint =>
    refine ⟨[.write c.session.outbox (.error e)], c.session.outbox, ?_, ?_⟩
    · rw [behind, ← Logged.calls_write h]
    · have hstops := Drain.stops hne (show goesOn (.error e) = false by simp [goesOn, hint])
      rwa [stopped, if_neg hblock] at hstops

/-- A flush that succeeds tells whether anything is left. -/
theorem hasPendingOutput_flush {c d : Channel σ} {status : FlushStatus}
    (h : c.flush = (.ok status, d)) : d.hasPendingOutput = decide (status = .wouldBlock) := by
  fun_induction flush c with
  | case1 c hnone =>
    cases h
    simp [hasPendingOutput, hnone]
  | case2 c hne stream hwrite => cases h
  | case3 c hne n stream hwrite ih => exact ih h
  | case4 c hne e stream hwrite hblock =>
    cases h
    simp [hasPendingOutput, hne]
  | case5 c hne e stream hwrite hblock hint ih => exact ih h
  | case6 c hne e stream hwrite hblock hint => cases h

/-- A channel that has waited its stream out has nothing left. -/
theorem hasPendingOutput_drainBlocking {c d : Channel σ}
    (h : c.drainBlocking = (.ok (), d)) : d.hasPendingOutput = false := by
  unfold drainBlocking at h
  split at h
  · cases h
  · rename_i stream _
    dsimp only at h
    rcases hflush : flush { c with stream } with ⟨_ | _ | _, f⟩
    · rw [hflush] at h
      cases h
    · rw [hflush] at h
      have hnone : f.hasPendingOutput = false := hasPendingOutput_flush hflush
      dsimp only at h
      split at h
      · cases h
      · cases h
        exact hnone
    · rw [hflush] at h
      cases h

/-- A message that was sent without waiting is reported with the length of its frame, and as blocked
just if anything is left. -/
theorem trySend_ok {c d : Channel σ} {m : Message} {status : SendStatus}
    (h : c.trySend m = (.ok status, d)) :
    status = if d.hasPendingOutput then .wouldBlock (8 + m.bodyLen)
      else .complete (8 + m.bodyLen) := by
  unfold trySend at h
  rcases hqueue : c.queue m with ⟨_ | len, queued⟩
  · rw [hqueue] at h
    cases h
  · rw [hqueue] at h
    rw [← (accepts_of_queue hqueue).2]
    dsimp only at h
    rcases hflush : queued.flush with ⟨_ | _ | _, flushed⟩
    · rw [hflush] at h
      cases h
    all_goals
      rw [hflush] at h
      cases h
      rw [hasPendingOutput_flush hflush]
      rfl

/-- A message that was sent is reported with the length of its frame, and nothing is left. -/
theorem send_ok {c d : Channel σ} {m : Message} {len : Nat}
    (h : c.send m = (.ok len, d)) : d.hasPendingOutput = false ∧ len = 8 + m.bodyLen := by
  unfold send at h
  rcases hqueue : c.queue m with ⟨_ | len', queued⟩
  · rw [hqueue] at h
    cases h
  · rw [hqueue] at h
    rw [← (accepts_of_queue hqueue).2]
    dsimp only at h
    rcases hflush : queued.flush with ⟨_ | _ | _, flushed⟩
    · rw [hflush] at h
      cases h
    · rw [hflush] at h
      cases h
      exact ⟨hasPendingOutput_flush hflush, rfl⟩
    · rw [hflush] at h
      dsimp only at h
      rcases hdrain : flushed.drainBlocking with ⟨_ | _, drained⟩
      · rw [hdrain] at h
        cases h
      · rw [hdrain] at h
        cases h
        exact ⟨hasPendingOutput_drainBlocking hdrain, rfl⟩

/-- A flush neither loses nor repeats a byte and tells how it went; it only writes, and it leaves
everything but the queue as it is.  So a message that is sent is reported with the length of its frame,
as complete if nothing is left and as blocked if anything is. -/
theorem flush_truthful (c : Channel (Logged σ)) :
    (∃ calls left, c.flush.2 = c.behind calls left c.flush.2.stream.stream ∧
      modeChanges calls = [] ∧ FlushReport c.session.outbox calls left c.flush.1) ∧
    (∀ m status, (c.trySend m).1 = .ok status →
      status = if (c.trySend m).2.hasPendingOutput then .wouldBlock (8 + m.bodyLen)
        else .complete (8 + m.bodyLen)) ∧
    ∀ m len, (c.send m).1 = .ok len →
      (c.send m).2.hasPendingOutput = false ∧ len = 8 + m.bodyLen := by
  obtain ⟨calls, left, hflush, hdrain⟩ := flush_drains c
  exact ⟨⟨calls, left, hflush, hdrain.modeChanges_eq_nil, hdrain.report⟩,
    fun _ _ h => trySend_ok (Prod.ext h rfl), fun _ _ h => send_ok (Prod.ext h rfl)⟩

end Channel

end PinnedLink
