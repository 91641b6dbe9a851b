import PinnedLink.Proofs.Channel.Receiving

/-!
# What a channel reports when it fails, and what it can still say

A failure of a channel tells what went wrong with the message, the stream or the session; that there
is no session is for the transport to say (`send_error`, `trySend_error`, `flush_error`,
`recv_error`).

A channel that is shut down hands to its stream what was pending and its goodbye, as far as the stream
takes them, and nothing else (`shutdown_wrote`).
-/

namespace PinnedLink

open PinnedLink.Frame (Message)

/-! ## What a session can still say -/

/-- From one state to another a stream was written to and nothing else, and it took `bytes` in all. -/
inductive ByteStream.Wrote {σ : Type} [ByteStream σ] (s : σ) : Bytes → σ → Prop where
  | refl : Wrote s [] s
  | took {bytes offered : Bytes} {t u : σ} {n : Nat} (h : Wrote s bytes t)
    (hwrite : ByteStream.write t offered = (.ok n, u)) : Wrote s (bytes ++ offered.take n) u
  | refused {bytes offered : Bytes} {t u : σ} {e : IoError} (h : Wrote s bytes t)
    (hwrite : ByteStream.write t offered = (.error e, u)) : Wrote s bytes u

open ByteStream (Wrote)

theorem ByteStream.Wrote.trans {σ : Type} [ByteStream σ] {s t u : σ} {bytes more : Bytes}
    (h : Wrote s bytes t) (h' : Wrote t more u) : Wrote s (bytes ++ more) u := by
  induction h' with
  | refl =>
    rw [List.append_nil]
    exact h
  | took _ hwrite ih =>
    rw [← List.append_assoc]
    exact ih.took hwrite
  | refused _ hwrite ih => exact ih.refused hwrite

/-- What a session says to end its direction: nothing, if it has ended it before. -/
def Session.farewell (s : Session) : Bytes :=
  if s.saidGoodbye then []
  else (Session.Record.sealed s.version s.side s.sealedCount .alert
    [1, Session.Alert.closeNotify.code]).encode

theorem Session.outbox_closeNotify (s : Session) :
    s.closeNotify.outbox = s.outbox ++ s.farewell := by
  unfold closeNotify farewell
  split
  · exact (List.append_nil _).symm
  · rfl

namespace Channel

variable {σ : Type}

/-! ## What a channel reports -/

theorem queue_error {c : Channel σ} {m : Message} {e : TransportError}
    (h : (c.queue m).1 = .error e) : e ≠ .notEstablished := by
  unfold queue at h
  split at h
  · cases h; exact TransportError.noConfusion
  · split at h
    · cases h; exact TransportError.noConfusion
    · split at h
      · cases h; exact TransportError.noConfusion
      · cases h

variable [ByteStream σ] {c : Channel σ} {m : Message} {e : TransportError}

theorem flush_error (h : c.flush.1 = .error e) : ∃ cause, e = .sendFailed cause := by
  fun_induction flush c with
  | case1 c _ => cases h
  | case2 c _ stream _ => cases h; exact ⟨_, rfl⟩
  | case3 c _ n stream _ ih => exact ih h
  | case4 c _ cause stream _ _ => cases h
  | case5 c _ cause stream _ _ _ ih => exact ih h
  | case6 c _ cause stream _ _ _ => cases h; exact ⟨_, rfl⟩

theorem drainBlocking_error (h : c.drainBlocking.1 = .error e) :
    ∃ cause, e = .sendFailed cause := by
  unfold drainBlocking at h
  split at h
  · cases h; exact ⟨_, rfl⟩
  · rename_i stream _
    dsimp only at h
    rcases hflush : flush { c with stream } with ⟨e' | _ | _, d⟩
    · have hcause := flush_error (c := { c with stream }) (by rw [hflush])
      rw [hflush] at h
      cases h
      exact hcause
    · rw [hflush] at h
      dsimp only at h
      split at h
      · cases h; exact ⟨_, rfl⟩
      · cases h
    · rw [hflush] at h
      cases h
      exact ⟨_, rfl⟩

theorem send_error (h : (c.send m).1 = .error e) : e ≠ .notEstablished := by
  unfold send at h
  rcases hqueue : c.queue m with ⟨e' | len, d⟩
  · rw [hqueue] at h
    cases h
    exact queue_error (congrArg Prod.fst hqueue)
  · rw [hqueue] at h
    dsimp only at h
    rcases hflush : d.flush with ⟨e' | _ | _, d'⟩
    · rw [hflush] at h
      cases h
      obtain ⟨cause, rfl⟩ := flush_error (congrArg Prod.fst hflush)
      exact TransportError.noConfusion
    · rw [hflush] at h
      cases h
    · rw [hflush] at h
      dsimp only at h
      rcases hdrain : d'.drainBlocking with ⟨e' | _, d''⟩
      · rw [hdrain] at h
        cases h
        obtain ⟨cause, rfl⟩ := drainBlocking_error (congrArg Prod.fst hdrain)
        exact TransportError.noConfusion
      · rw [hdrain] at h
        cases h

theorem trySend_error (h : (c.trySend m).1 = .error e) : e ≠ .notEstablished := by
  unfold trySend at h
  rcases hqueue : c.queue m with ⟨e' | len, d⟩
  · rw [hqueue] at h
    cases h
    exact queue_error (congrArg Prod.fst hqueue)
  · rw [hqueue] at h
    dsimp only at h
    rcases hflush : d.flush with ⟨e' | _ | _, d'⟩
    · rw [hflush] at h
      cases h
      obtain ⟨cause, rfl⟩ := flush_error (congrArg Prod.fst hflush)
      exact TransportError.noConfusion
    · rw [hflush] at h
      cases h
    · rw [hflush] at h
      cases h

theorem front_bad {limit : Nat} {bytes : Bytes} (h : front limit bytes = .bad e) :
    e ≠ .notEstablished := by
  unfold front at h
  split_ifs at h
  split at h
  · cases h; exact TransportError.noConfusion
  · dsimp only at h
    split_ifs at h
    · cases h; exact TransportError.noConfusion
    · split at h
      · cases h; exact TransportError.noConfusion
      · cases h

theorem pull_error {d : Channel σ} (h : c.pull = (.error e, d)) : ∃ cause, e = .recvFailed cause := by
  generalize hr : (.error e : Except TransportError Pull) = r at h
  cases pull_pulls h with
  | handed | exhausted => cases hr
  | refused =>
    unfold refusal at hr
    split_ifs at hr
    cases hr
    exact ⟨_, rfl⟩
  | @opened n s t stream failure =>
    cases failure <;> cases hr
    exact ⟨_, rfl⟩

theorem recv_error (h : (c.recv m).1 = .error e) : e ≠ .notEstablished := by
  refine recv_induction m (motive := fun _ r _ _ => r = .error e → e ≠ .notEstablished)
    ?bad ?frame ?failed ?idle ?eof ?progress c h
  case bad =>
    rintro c e' hfront ⟨⟩
    exact front_bad hfront
  case frame => exact fun c m' rest hfront h => by cases h
  case failed =>
    rintro c d e' hfront hpull ⟨⟩
    obtain ⟨cause, rfl⟩ := pull_error hpull
    exact TransportError.noConfusion
  case idle => exact fun c d hfront hpull h => by cases h
  case eof => exact fun c d hfront hpull h => by cases h
  case progress => exact fun c d r f m' hfront hpull ih => ih

/-! ## What a channel writes -/

/-- A flush hands over the front of what was pending and keeps the rest. -/
theorem flush_wrote (c : Channel σ) :
    ∃ written, Wrote c.stream written c.flush.2.stream ∧
      c.session.outbox = written ++ c.flush.2.session.outbox := by
  fun_induction flush c with
  | case1 c _ => exact ⟨[], .refl, rfl⟩
  | case2 c _ stream hwrite => exact ⟨_, Wrote.refl.took hwrite, rfl⟩
  | case3 c _ n stream hwrite ih =>
    obtain ⟨written, hwrote, houtbox⟩ := ih
    refine ⟨_, (Wrote.refl.took hwrite).trans hwrote, ?_⟩
    rw [List.nil_append, List.append_assoc, ← houtbox]
    exact (List.take_append_drop (n + 1) c.session.outbox).symm
  | case4 c _ e stream hwrite _ => exact ⟨_, Wrote.refl.refused hwrite, rfl⟩
  | case5 c _ e stream hwrite _ _ ih =>
    obtain ⟨written, hwrote, houtbox⟩ := ih
    exact ⟨_, (Wrote.refl.refused hwrite).trans hwrote, houtbox⟩
  | case6 c _ e stream hwrite _ _ => exact ⟨_, Wrote.refl.refused hwrite, rfl⟩

/-- Shutting a channel down hands over the front of what was pending and of the goodbye. -/
theorem shutdown_wrote (c : Channel σ) :
    ∃ written, Wrote c.stream written c.shutdown.stream ∧
      written <+: c.session.outbox ++ c.session.farewell := by
  obtain ⟨written, hwrote, houtbox⟩ := flush_wrote { c with session := c.session.closeNotify }
  refine ⟨written, hwrote, c.shutdown.session.outbox, ?_⟩
  rw [← Session.outbox_closeNotify]
  exact houtbox.symm

end Channel

end PinnedLink
