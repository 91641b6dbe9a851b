import PinnedLink.Proofs.Channel.Act
import PinnedLink.Proofs.Channel.Flushing

/-!
# Who makes a stream wait

Only `send` changes the mode of its stream, and only if its first flush has found the stream full
(`Stalls`).  Then it asks the stream to wait, and if the stream obeys, it flushes once more and asks it
not to wait, whatever has become of that flush (`drainBlocking_of_obeyed`, `send_disciplined`).  All
other operations leave the mode alone (`Quiet`).  So over a run a stream that does not wait at the
start does not wait behind any operation, unless it has refused to go back (`Act.runAll_waitingAfter`).
-/

namespace PinnedLink

open PinnedLink.Frame (Message)
open Logged (Quiet)

namespace Channel

variable {σ : Type} [ByteStream σ]

/-! ## Operations that leave the mode alone -/

section Quiet

theorem flush_quiet (c : Channel (Logged σ)) : Quiet c.stream c.flush.2.stream := by
  obtain ⟨calls, left, hflush, hdrain⟩ := flush_drains c
  exact ⟨calls, congrArg (fun d => d.stream.calls) hflush, hdrain.modeChanges_eq_nil⟩

theorem trySend_quiet (c : Channel (Logged σ)) (m : Message) :
    Quiet c.stream (c.trySend m).2.stream := by
  have hflush := flush_quiet (c.queue m).2
  rw [stream_queue] at hflush
  rcases trySend_snd c m with h | h
  · rw [h, stream_queue]
    exact .refl c.stream
  · rw [h]
    exact hflush

theorem shutdown_quiet (c : Channel (Logged σ)) : Quiet c.stream c.shutdown.stream :=
  flush_quiet { c with session := c.session.closeNotify }

theorem readFrom_quiet (s : Session) (io : Logged σ) : Quiet io (s.readFrom io).2.2 := by
  unfold Session.readFrom
  split
  · exact .refl io
  · split
    · exact .refl io
    · dsimp only
      split
      · rename_i hread
        exact .of_read hread
      · rename_i hread
        exact .of_read hread

theorem pull_quiet {c d : Channel (Logged σ)} {r : Except TransportError Pull}
    (h : c.pull = (r, d)) : Quiet c.stream d.stream := by
  have hread := readFrom_quiet c.session c.stream
  cases pull_pulls h with
  | handed | exhausted => exact .refl c.stream
  | refused _ _ hrefused =>
    rw [hrefused] at hread
    exact hread
  | @opened n s t stream _ _ _ hopened =>
    rw [hopened] at hread
    exact hread.trans (flush_quiet { c with session := t, stream })

theorem recv_quiet (c : Channel (Logged σ)) (m : Message) :
    Quiet c.stream (c.recv m).2.1.stream := by
  refine recv_induction m (motive := fun c _ d _ => Quiet c.stream d.stream)
    ?bad ?frame ?failed ?idle ?eof ?progress c
  case bad => exact fun c _ _ => .refl c.stream
  case frame => exact fun c _ _ _ => .refl c.stream
  case failed => exact fun c d _ _ hpull => pull_quiet hpull
  case idle => exact fun c d _ hpull => pull_quiet hpull
  case eof => exact fun c d _ hpull => (pull_quiet hpull : Quiet c.stream d.stream)
  case progress => exact fun c d _ _ _ _ hpull ih => (pull_quiet hpull).trans ih

/-- An operation other than `send` leaves the mode alone. -/
theorem Act.run_quiet {a : Act} (c : Channel (Logged σ)) (own : Message)
    (h : ∀ m, a ≠ .send m) : Quiet c.stream (a.run c own).1.stream := by
  cases a with
  | send m => exact absurd rfl (h m)
  | trySend m => exact trySend_quiet c m
  | flush => exact flush_quiet c
  | recv => exact recv_quiet c own
  | shutdown => exact shutdown_quiet c
  | own m => exact .refl c.stream

end Quiet

/-! ## Sending -/

/-- A send finds the stream full: the channel takes the message, and its first flush reports that it
would block. -/
def Stalls (c : Channel σ) (m : Message) : Prop :=
  c.Accepts m ∧ (c.queue m).2.flush.1 = .ok .wouldBlock

/-- The flush of a channel that has asked its stream to wait. -/
def patientFlush (c : Channel σ) : Except TransportError FlushStatus × Channel σ :=
  flush { c with stream := (ByteStream.setBlocking c.stream true).2 }

/-- What a channel reports that has flushed while its stream was to wait and has then asked it not to
wait any more. -/
def waited : Except TransportError FlushStatus → Except IoError Unit → Except TransportError Unit
  | .error e, _ => .error e
  | .ok .wouldBlock, _ =>
    .error (.sendFailed (.note .wouldBlock "stream still blocked in blocking mode"))
  | .ok .drained, .error e => .error (.sendFailed e)
  | .ok .drained, .ok () => .ok ()

theorem waited_eq_ok_iff {drained : Except TransportError FlushStatus}
    {restored : Except IoError Unit} :
    waited drained restored = .ok () ↔ drained = .ok .drained ∧ restored = .ok () := by
  rcases drained with _ | _ | _ <;> rcases restored with _ | _ <;> simp [waited]

/-- A stream that refuses to wait is left alone. -/
theorem drainBlocking_of_refused {c : Channel σ} {e : IoError} {stream : σ}
    (hwait : ByteStream.setBlocking c.stream true = (.error e, stream)) :
    c.drainBlocking = (.error (.sendFailed e), { c with stream }) := by
  unfold drainBlocking
  rw [hwait]

/-- A stream that waits is asked not to wait any more behind the flush, however that went. -/
theorem drainBlocking_of_obeyed {c d : Channel σ} {stream after : σ}
    {drained : Except TransportError FlushStatus} {restored : Except IoError Unit}
    (hwait : ByteStream.setBlocking c.stream true = (.ok (), stream))
    (hflush : flush { c with stream } = (drained, d))
    (hback : ByteStream.setBlocking d.stream false = (restored, after)) :
    c.drainBlocking = (waited drained restored, { d with stream := after }) := by
  unfold drainBlocking
  rw [hwait]
  dsimp only
  rw [hflush]
  dsimp only
  rw [hback]
  rcases drained with _ | _ | _ <;> rcases restored with _ | _ <;> rfl

/-- What a send that makes the calls `calls` does with the mode of its stream, and what it returns. -/
structure Disciplined (c : Channel (Logged σ)) (m : Message) (calls : List StreamCall) : Prop where
  /-- The mode is left alone unless the first flush finds the stream full. -/
  alone : ¬ c.Stalls m → modeChanges calls = []
  /-- Behind that flush the stream refuses to wait, or it waits and is asked once to go back. -/
  changes : c.Stalls m → ∃ first rest, calls = first ++ rest ∧
    (c.queue m).2.flush.2.stream.calls = c.stream.calls ++ first ∧ modeChanges first = [] ∧
    ((∃ e, modeChanges rest = [(true, .error e)]) ∨
      ∃ restored, modeChanges rest = [(true, .ok ()), (false, restored)])
  /-- A failure of the flush in between is the one that is reported. -/
  failure : ∀ restored, modeChanges calls = [(true, .ok ()), (false, restored)] →
    (∀ e, (c.queue m).2.flush.2.patientFlush.1 = .error e → (c.send m).1 = .error e) ∧
    ((c.queue m).2.flush.2.patientFlush.1 = .ok .wouldBlock → (c.send m).1 =
      .error (.sendFailed (.note .wouldBlock "stream still blocked in blocking mode")))
  ok_iff : (∃ len, (c.send m).1 = .ok len) ↔ c.Accepts m ∧ (c.send m).2.session.outbox = [] ∧
    ∀ restored, (false, restored) ∈ modeChanges calls → restored = .ok ()

/-- A flush leaves nothing just if it reports so. -/
theorem outbox_flush_eq_nil_iff (c : Channel (Logged σ)) :
    c.flush.2.session.outbox = [] ↔ c.flush.1 = .ok .drained := by
  obtain ⟨calls, left, hflush, hdrain⟩ := flush_drains c
  have hleft : c.flush.2.session.outbox = left := congrArg (fun d => d.session.outbox) hflush
  rw [hleft]
  exact hdrain.report.drained_iff.symm

/-- To wait for the stream is to change its mode once in vain, or twice. -/
theorem drainBlocking_changes (c : Channel (Logged σ)) :
    ∃ calls, c.drainBlocking.2.stream.calls = c.stream.calls ++ calls ∧
      ((∃ e, modeChanges calls = [(true, .error e)] ∧
          c.drainBlocking.1 = .error (.sendFailed e) ∧
          c.drainBlocking.2.session = c.session) ∨
        ∃ restored, modeChanges calls = [(true, .ok ()), (false, restored)] ∧
          c.drainBlocking.1 = waited c.patientFlush.1 restored ∧
          c.drainBlocking.2.session = c.patientFlush.2.session) := by
  rcases hwait : ByteStream.setBlocking c.stream true with ⟨e | _, stream⟩
  · rw [drainBlocking_of_refused hwait]
    exact ⟨[.setBlocking true (.error e)], Logged.calls_setBlocking hwait,
      Or.inl ⟨e, rfl, rfl, rfl⟩⟩
  · rcases hflush : flush { c with stream } with ⟨drained, d⟩
    rcases hback : ByteStream.setBlocking d.stream false with ⟨restored, after⟩
    obtain ⟨more, hmore, hnone⟩ := flush_quiet { c with stream }
    have hpatient : c.patientFlush = (drained, d) := by rw [patientFlush, hwait, hflush]
    rw [drainBlocking_of_obeyed hwait hflush hback, hpatient]
    refine ⟨.setBlocking true (.ok ()) :: (more ++ [.setBlocking false restored]), ?_,
      Or.inr ⟨restored, ?_, rfl, rfl⟩⟩
    · have hcalls : d.stream.calls = stream.calls ++ more := by
        rw [hflush] at hmore
        exact hmore
      simp only [Logged.calls_setBlocking hback, hcalls, Logged.calls_setBlocking hwait,
        List.append_assoc, List.cons_append, List.nil_append]
    · rw [modeChanges_setBlocking, modeChanges_append, hnone]
      rfl

/-- A send whose first flush does not find the stream full leaves the mode alone. -/
theorem Disciplined.of_alone {c : Channel (Logged σ)} {m : Message} {calls : List StreamCall}
    (hstalls : ¬ c.Stalls m) (hcalls : modeChanges calls = [])
    (hok : (∃ len, (c.send m).1 = .ok len) ↔ c.Accepts m ∧ (c.send m).2.session.outbox = []) :
    Disciplined c m calls where
  alone _ := hcalls
  changes h := absurd h hstalls
  failure _ h := by
    rw [hcalls] at h
    cases h
  ok_iff := by
    rw [hok, hcalls]
    simp

/-- A send whose first flush finds the stream full returns what waiting for the stream returns. -/
theorem send_of_stalls {c f : Channel σ} {m : Message} (haccepts : c.Accepts m)
    (hflush : (c.queue m).2.flush = (.ok .wouldBlock, f)) :
    c.send m = (f.drainBlocking.1.map fun _ => 8 + m.bodyLen, f.drainBlocking.2) := by
  obtain ⟨session, -, hqueue⟩ := queue_of_accepts haccepts
  rw [hqueue] at hflush
  simp only [send, hqueue, hflush]
  rcases f.drainBlocking with ⟨_ | _, g⟩ <;> rfl

/-- A send whose first flush finds the stream full waits for it. -/
theorem Disciplined.of_stalls {c f : Channel (Logged σ)} {m : Message}
    {first rest : List StreamCall} (haccepts : c.Accepts m)
    (hflush : (c.queue m).2.flush = (.ok .wouldBlock, f))
    (hfirst : f.stream.calls = c.stream.calls ++ first) (hquiet : modeChanges first = [])
    (hrest : (∃ e, modeChanges rest = [(true, .error e)] ∧
          f.drainBlocking.1 = .error (.sendFailed e) ∧ f.drainBlocking.2.session = f.session) ∨
        ∃ restored, modeChanges rest = [(true, .ok ()), (false, restored)] ∧
          f.drainBlocking.1 = waited f.patientFlush.1 restored ∧
          f.drainBlocking.2.session = f.patientFlush.2.session) :
    Disciplined c m (first ++ rest) where
  alone h := absurd ⟨haccepts, congrArg Prod.fst hflush⟩ h
  changes _ := by
    refine ⟨first, rest, rfl, by rw [hflush, hfirst], hquiet, ?_⟩
    rcases hrest with ⟨e, hchanges, -⟩ | ⟨restored, hchanges, -⟩
    · exact Or.inl ⟨e, hchanges⟩
    · exact Or.inr ⟨restored, hchanges⟩
  failure restored h := by
    rw [modeChanges_append, hquiet, List.nil_append] at h
    rcases hrest with ⟨e, hchanges, -⟩ | ⟨restored', hchanges, hresult, -⟩
    · rw [hchanges] at h
      cases h
    · rw [send_of_stalls haccepts hflush, hflush, hresult]
      exact ⟨fun e he => (by rw [he]; rfl), fun hblock => (by rw [hblock]; rfl)⟩
  ok_iff := by
    rw [send_of_stalls haccepts hflush, modeChanges_append, hquiet, List.nil_append]
    have hleft := outbox_flush_eq_nil_iff (c.queue m).2
    rw [hflush] at hleft
    rcases hrest with ⟨e, hchanges, hresult, hsession⟩ | ⟨restored, hchanges, hresult, hsession⟩
    · rw [hresult, hsession]
      exact iff_of_false (fun ⟨_, h⟩ => by cases h) fun h => by simpa using hleft.1 h.2.1
    · have hdrained : f.patientFlush.2.session.outbox = [] ↔ f.patientFlush.1 = .ok .drained :=
        outbox_flush_eq_nil_iff _
      have hok : (∃ len, (waited f.patientFlush.1 restored).map (fun _ => 8 + m.bodyLen) =
          .ok len) ↔ waited f.patientFlush.1 restored = .ok () := by
        cases waited f.patientFlush.1 restored <;> simp [Except.map]
      rw [hresult, hsession, hchanges, hdrained, hok, waited_eq_ok_iff]
      simp [haccepts]

/-- A send keeps to the discipline. -/
theorem send_disciplined (c : Channel (Logged σ)) (m : Message) :
    ∃ calls, (c.send m).2.stream.calls = c.stream.calls ++ calls ∧ Disciplined c m calls := by
  by_cases haccepts : c.Accepts m
  · obtain ⟨session, -, hqueue⟩ := queue_of_accepts haccepts
    obtain ⟨first, hfirst, hquiet⟩ := flush_quiet { c with session }
    have hleft := outbox_flush_eq_nil_iff { c with session }
    rcases hflush : flush { c with session } with ⟨e | _ | _, f⟩
    all_goals rw [hflush] at hfirst hleft
    · have hsend : c.send m = (.error e, f) := by simp only [send, hqueue, hflush]
      have hstalls : ¬ c.Stalls m := fun h => by simp [Stalls, hqueue, hflush] at h
      refine ⟨first, by rw [hsend, hfirst], .of_alone hstalls hquiet ?_⟩
      rw [hsend]
      refine iff_of_false ?_ fun h => by simpa using hleft.1 h.2
      rintro ⟨_, h⟩
      cases h
    · have hsend : c.send m = (.ok (8 + m.bodyLen), f) := by simp only [send, hqueue, hflush]
      have hstalls : ¬ c.Stalls m := fun h => by simp [Stalls, hqueue, hflush] at h
      refine ⟨first, by rw [hsend, hfirst], .of_alone hstalls hquiet ?_⟩
      rw [hsend]
      exact iff_of_true ⟨_, rfl⟩ ⟨haccepts, hleft.2 rfl⟩
    · obtain ⟨rest, hcalls, hrest⟩ := drainBlocking_changes f
      have hfull : (c.queue m).2.flush = (.ok .wouldBlock, f) := by rw [hqueue, hflush]
      refine ⟨first ++ rest, ?_, .of_stalls haccepts hfull hfirst hquiet hrest⟩
      rw [send_of_stalls haccepts hfull, hcalls, hfirst, List.append_assoc]
  · obtain ⟨e, hqueue⟩ := queue_of_not_accepts haccepts
    have hsend := (send_of_queue_error hqueue).1
    refine ⟨[], by rw [hsend, List.append_nil], .of_alone (fun h => haccepts h.1) rfl ?_⟩
    rw [hsend]
    refine iff_of_false ?_ fun h => haccepts h.1
    rintro ⟨_, h⟩
    cases h

/-! ## Runs -/

/-- No attempt to make a stream go back to not waiting has failed. -/
def Restored (calls : List StreamCall) : Prop :=
  ∀ restored, (false, restored) ∈ modeChanges calls → restored = .ok ()

/-- A disciplined send leaves a stream not waiting that was not waiting. -/
theorem Disciplined.waitingAfter {c : Channel (Logged σ)} {m : Message} {calls : List StreamCall}
    (h : Disciplined c m calls) (hrestored : Restored calls) : waitingAfter false calls = false := by
  by_cases hstalls : c.Stalls m
  · obtain ⟨first, rest, rfl, -, hquiet, ⟨e, hrest⟩ | ⟨restored, hrest⟩⟩ := h.changes hstalls
    · rw [PinnedLink.waitingAfter, modeChanges_append, hquiet, hrest]
      rfl
    · have hback : restored = .ok () := hrestored restored (by simp [hrest])
      rw [PinnedLink.waitingAfter, modeChanges_append, hquiet, hrest, hback]
      rfl
  · rw [PinnedLink.waitingAfter, h.alone hstalls]
    rfl

/-- What an operation does with the mode: nothing, or it is a send that finds the stream full. -/
theorem Act.run_disciplined (c : Channel (Logged σ)) (own : Message) (a : Act) :
    ∃ calls, (a.run c own).1.stream.calls = c.stream.calls ++ calls ∧
      (modeChanges calls ≠ [] → ∃ m, a = .send m ∧ c.Stalls m) ∧
      ∀ m, a = .send m → Disciplined c m calls := by
  by_cases hsend : ∃ m, a = .send m
  · obtain ⟨m, rfl⟩ := hsend
    obtain ⟨calls, hcalls, hdisciplined⟩ := send_disciplined c m
    refine ⟨calls, hcalls, fun hne => ⟨m, rfl, ?_⟩, ?_⟩
    · exact not_not.1 fun hstalls => hne (hdisciplined.alone hstalls)
    · rintro _ ⟨⟩
      exact hdisciplined
  · obtain ⟨calls, hcalls, hquiet⟩ := Act.run_quiet c own fun m h => hsend ⟨m, h⟩
    exact ⟨calls, hcalls, fun hne => absurd hquiet hne, fun m h => absurd ⟨m, h⟩ hsend⟩

/-- A run leaves a stream not waiting that was not waiting, unless it refused to go back. -/
theorem Act.runAll_waitingAfter (c : Channel (Logged σ)) (own : Message) (acts : List Act) :
    ∃ calls, (Act.runAll c own acts).1.stream.calls = c.stream.calls ++ calls ∧
      (Restored calls → waitingAfter false calls = false) := by
  induction acts generalizing c own with
  | nil => exact ⟨[], (List.append_nil _).symm, fun _ => rfl⟩
  | cons a acts ih =>
    obtain ⟨first, hfirst, hsend, hdisciplined⟩ := Act.run_disciplined c own a
    obtain ⟨rest, hrest, hkept⟩ := ih (a.run c own).1 (a.run c own).2
    refine ⟨first ++ rest, ?_, fun hrestored => ?_⟩
    · rw [Act.runAll, hrest, hfirst, List.append_assoc]
    · have hboth : Restored first ∧ Restored rest := by
        constructor <;> intro restored hmem <;> refine hrestored restored ?_ <;>
          rw [modeChanges_append, List.mem_append]
        · exact Or.inl hmem
        · exact Or.inr hmem
      have hbefore : waitingAfter false first = false := by
        by_cases hne : modeChanges first = []
        · rw [waitingAfter, hne]
          rfl
        · obtain ⟨m, ha, -⟩ := hsend hne
          exact (hdisciplined m ha).waitingAfter hboth.1
      rw [waitingAfter_append, hbefore]
      exact hkept hboth.2

/-- Only a send changes the mode of its stream, only behind a flush that has found it full, and it
always asks the stream to go back.  So a stream that does not wait at the start does not wait behind
any operation of a run in which it never refuses to go back. -/
theorem modes_disciplined (c : Channel (Logged σ)) (own : Message) :
    (∀ a : Act, ∃ calls, (a.run c own).1.stream.calls = c.stream.calls ++ calls ∧
      (modeChanges calls ≠ [] → ∃ m, a = .send m ∧ c.Stalls m) ∧
      ∀ m, a = .send m → Disciplined c m calls) ∧
    ∀ acts : List Act, ∃ calls,
      (Act.runAll c own acts).1.stream.calls = c.stream.calls ++ calls ∧
      (Restored calls → waitingAfter false calls = false) :=
  ⟨Act.run_disciplined c own, Act.runAll_waitingAfter c own⟩

end Channel

end PinnedLink
