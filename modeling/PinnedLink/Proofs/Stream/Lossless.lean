import PinnedLink.Stream.Pipe

/-!
# Streams that lose nothing

A `LosslessStream` keeps account of its bytes: what it has taken so far, and what it is still going
to give.  A write that takes some bytes puts exactly these behind what was taken before, a read
that gives some bytes takes exactly these off what is ahead, and nothing else that is done to the
stream, faults included, changes either account.

The in-memory pipe is such a stream whatever its faults and limits are.

`Reaches` says what a stream can become by being used, `EndSeen` that its user can have been told of
its end, and `Refuses` that its user can have been refused a read.
-/

namespace PinnedLink

/-! ## Streams in use -/

namespace ByteStream

variable {σ : Type} [ByteStream σ]

/-- What a stream can become by being used. -/
inductive Reaches (s : σ) : σ → Prop where
  | refl : Reaches s s
  | write {t : σ} (h : Reaches s t) (bytes : Bytes) : Reaches s (write t bytes).2
  | read {t : σ} (h : Reaches s t) (max : Nat) : Reaches s (read t max).2
  | setBlocking {t : σ} (h : Reaches s t) (blocking : Bool) : Reaches s (setBlocking t blocking).2

theorem Reaches.trans {s t u : σ} (hst : Reaches s t) (htu : Reaches t u) : Reaches s u := by
  induction htu with
  | refl => exact hst
  | write _ bytes ih => exact ih.write bytes
  | read _ max ih => exact ih.read max
  | setBlocking _ blocking ih => exact ih.setBlocking blocking

theorem Reaches.of_write {s t : σ} {bytes : Bytes} {r : Except IoError Nat}
    (h : ByteStream.write s bytes = (r, t)) : Reaches s t := by
  have hstep := Reaches.write (.refl : Reaches s s) bytes
  rw [h] at hstep
  exact hstep

theorem Reaches.of_read {s t : σ} {max : Nat} {r : Except IoError Bytes}
    (h : ByteStream.read s max = (r, t)) : Reaches s t := by
  have hstep := Reaches.read (.refl : Reaches s s) max
  rw [h] at hstep
  exact hstep

/-- A stream in use can have told its user of its end. -/
def EndSeen (s : σ) : Prop :=
  ∃ t u max, Reaches s t ∧ 0 < max ∧ read t max = (.ok [], u)

theorem EndSeen.of_reaches {s t : σ} (hst : Reaches s t) (h : EndSeen t) : EndSeen s := by
  obtain ⟨u, v, max, htu, hmax, hread⟩ := h
  exact ⟨u, v, max, hst.trans htu, hmax, hread⟩

/-- A stream in use can refuse a read, which leaves it as `t`. -/
def Refuses (s : σ) (e : IoError) (t : σ) : Prop :=
  ∃ u max, Reaches s u ∧ read u max = (.error e, t)

theorem Refuses.of_reaches {s t u : σ} {e : IoError} (hst : Reaches s t) (h : Refuses t e u) :
    Refuses s e u := by
  obtain ⟨v, max, htv, hread⟩ := h
  exact ⟨v, max, hst.trans htv, hread⟩

end ByteStream

/-! ## Streams that keep account -/

/-- A stream that neither drops nor alters nor adds bytes. -/
class LosslessStream (σ : Type) extends ByteStream σ where
  /-- The bytes that were taken. -/
  sent : σ → Bytes
  /-- The bytes that are still to be given. -/
  ahead : σ → Bytes
  sent_write_ok : ∀ {s t : σ} {bytes : Bytes} {n : Nat},
    write s bytes = (.ok n, t) → sent t = sent s ++ bytes.take n
  sent_write_error : ∀ {s t : σ} {bytes : Bytes} {e : IoError},
    write s bytes = (.error e, t) → sent t = sent s
  ahead_write : ∀ (s : σ) (bytes : Bytes), ahead (write s bytes).2 = ahead s
  ahead_read_ok : ∀ {s t : σ} {max : Nat} {bytes : Bytes},
    read s max = (.ok bytes, t) → ahead s = bytes ++ ahead t
  ahead_read_error : ∀ {s t : σ} {max : Nat} {e : IoError},
    read s max = (.error e, t) → ahead t = ahead s
  sent_read : ∀ (s : σ) (max : Nat), sent (read s max).2 = sent s
  sent_setBlocking : ∀ (s : σ) (blocking : Bool), sent (setBlocking s blocking).2 = sent s
  ahead_setBlocking : ∀ (s : σ) (blocking : Bool), ahead (setBlocking s blocking).2 = ahead s

namespace LosslessStream

variable {σ : Type} [LosslessStream σ]

theorem ahead_of_write {s t : σ} {bytes : Bytes} {r : Except IoError Nat}
    (h : ByteStream.write s bytes = (r, t)) : ahead t = ahead s := by
  have hw := ahead_write s bytes
  rw [h] at hw
  exact hw

theorem sent_of_read {s t : σ} {max : Nat} {r : Except IoError Bytes}
    (h : ByteStream.read s max = (r, t)) : sent t = sent s := by
  have hr := sent_read s max
  rw [h] at hr
  exact hr

/-- A stream in use has only given some of what was ahead. -/
theorem ahead_of_reaches {s t : σ} (h : ByteStream.Reaches s t) : ahead t <:+ ahead s := by
  induction h with
  | refl => exact List.suffix_rfl
  | write _ bytes ih =>
    rw [ahead_write]
    exact ih
  | @read t _ max ih =>
    rcases hread : ByteStream.read t max with ⟨e | bytes, u⟩
    · rw [ahead_read_error hread]
      exact ih
    · rw [ahead_read_ok hread] at ih
      exact (List.suffix_append bytes (ahead u)).trans ih
  | setBlocking _ blocking ih =>
    rw [ahead_setBlocking]
    exact ih

/-- A stream in use has only taken more. -/
theorem sent_of_reaches {s t : σ} (h : ByteStream.Reaches s t) : sent s <+: sent t := by
  induction h with
  | refl => exact List.prefix_rfl
  | @write t _ bytes ih =>
    rcases hwrite : ByteStream.write t bytes with ⟨e | n, u⟩
    · rw [sent_write_error hwrite]
      exact ih
    · rw [sent_write_ok hwrite]
      exact ih.trans (List.prefix_append _ _)
  | read _ max ih =>
    rw [sent_read]
    exact ih
  | setBlocking _ blocking ih =>
    rw [sent_setBlocking]
    exact ih

/-- The bytes that a stream has taken since it was in a state. -/
def since (s t : σ) : Bytes := (sent t).drop (sent s).length

theorem sent_eq_append_since {s t : σ} (h : sent s <+: sent t) : sent t = sent s ++ since s t :=
  (List.prefix_iff_eq_append.1 h).symm

theorem since_congr {s t u : σ} (h : sent u = sent t) : since s u = since s t := by
  rw [since, since, h]

theorem since_of_sent_eq {s t : σ} (h : sent t = sent s) : since s t = [] := by
  rw [since, h, List.drop_length]

theorem since_append_since {s t u : σ} (hst : sent s <+: sent t) (htu : sent t <+: sent u) :
    since s t ++ since t u = since s u := by
  have hwhole := sent_eq_append_since (hst.trans htu)
  rw [sent_eq_append_since htu, sent_eq_append_since hst, List.append_assoc] at hwhole
  exact List.append_cancel_left hwhole

/-- Streams of this kind report their end only when they have given everything. -/
def EndsHonestly (σ : Type) [LosslessStream σ] : Prop :=
  ∀ {s t : σ} {max : Nat}, 0 < max → ByteStream.read s max = (.ok [], t) → ahead s = []

end LosslessStream

/-! ## Pipes -/

namespace Pipe

theorem queue_write_ok {p q : Pipe} {bytes : Bytes} {n : Nat} (h : p.write bytes = (.ok n, q)) :
    q.queue = p.queue ++ bytes.take n := by
  unfold write at h
  split at h
  · cases h
  · split at h
    · cases h
    · cases h
      rw [List.take_zero, List.append_nil]
    · split at h
      · cases h
      · cases h
        rfl

theorem queue_write_error {p q : Pipe} {bytes : Bytes} {e : IoError}
    (h : p.write bytes = (.error e, q)) : q.queue = p.queue := by
  unfold write at h
  split at h
  · cases h
    rfl
  · split at h
    · cases h
      rfl
    · cases h
    · split at h
      · cases h
        rfl
      · cases h

theorem queue_read_ok {p q : Pipe} {max : Nat} {bytes : Bytes} (h : p.read max = (.ok bytes, q)) :
    p.queue = bytes ++ q.queue := by
  unfold read at h
  split at h
  · cases h
  · split at h
    · split at h
      · cases h
        rfl
      · cases h
    · cases h
      exact (List.take_append_drop _ _).symm

theorem queue_read_error {p q : Pipe} {max : Nat} {e : IoError} (h : p.read max = (.error e, q)) :
    q.queue = p.queue := by
  unfold read at h
  split at h
  · cases h
    rfl
  · split at h
    · split at h
      · cases h
      · cases h
        rfl
    · cases h

theorem queue_setBlocking (p : Pipe) (blocking : Bool) :
    (p.setBlocking blocking).2.queue = p.queue := by
  unfold setBlocking
  dsimp only
  split
  · rfl
  · split <;> rfl
  · split <;> rfl

theorem End.outgoing_write {s t : End} {bytes : Bytes} {r : Except IoError Nat}
    (h : s.write bytes = (r, t)) : s.outgoing.write bytes = (r, t.outgoing) := by
  simp only [End.write, Prod.mk.injEq] at h
  obtain ⟨hr, rfl⟩ := h
  exact Prod.ext hr rfl

theorem End.incoming_read {s t : End} {max : Nat} {r : Except IoError Bytes}
    (h : s.read max = (r, t)) : s.incoming.read max = (r, t.incoming) := by
  simp only [End.read, Prod.mk.injEq] at h
  obtain ⟨hr, rfl⟩ := h
  exact Prod.ext hr rfl

instance : LosslessStream End where
  sent s := s.outgoing.queue
  ahead s := s.incoming.queue
  sent_write_ok h := queue_write_ok (End.outgoing_write h)
  sent_write_error h := queue_write_error (End.outgoing_write h)
  ahead_write _ _ := rfl
  ahead_read_ok h := queue_read_ok (End.incoming_read h)
  ahead_read_error h := queue_read_error (End.incoming_read h)
  sent_read _ _ := rfl
  sent_setBlocking s blocking := queue_setBlocking s.outgoing blocking
  ahead_setBlocking _ _ := rfl

end Pipe

end PinnedLink
