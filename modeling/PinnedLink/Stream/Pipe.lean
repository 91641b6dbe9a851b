import PinnedLink.Stream.Basic

/-!
# In-memory pipes

One direction of an in-memory connection is a queue of bytes with a plan of what goes wrong: lists
of faults, one taken by each write, read or change of mode, a switch that makes writes block, and
limits on the bytes that one call moves.  A `Pipe.End` is the stream that one side of a connection
sees: it writes into one pipe and reads from the other.
-/

namespace PinnedLink

/-- A fault that a write or a change of mode meets: a failure, or, for `none`, nothing done. -/
abbrev Fault := Option IoErrorKind

/-- One direction of a connection. -/
structure Pipe where
  /-- Bytes written and not yet read. -/
  queue : Bytes
  /-- Nothing more can be written. -/
  closed : Bool
  /-- Writes would have to wait. -/
  blocked : Bool
  /-- Waiting mode does not lift the block. -/
  sticky : Bool
  /-- Most bytes that one write takes. -/
  maxWrite : Option Nat
  /-- Most bytes that one read gives. -/
  maxRead : Option Nat
  /-- Faults of the next writes, `none` for a write of nothing. -/
  writeFaults : List Fault
  /-- Faults of the next reads. -/
  readFaults : List IoErrorKind
  /-- Faults of the next changes of mode, `none` for a change that succeeds. -/
  modeFaults : List Fault
  /-- Changes of mode asked for, oldest first. -/
  modes : List Bool
deriving DecidableEq, Repr

namespace Pipe

/-- The open pipe with nothing in it and nothing wrong. -/
def empty : Pipe :=
  { queue := [], closed := false, blocked := false, sticky := false, maxWrite := none,
    maxRead := none, writeFaults := [], readFaults := [], modeFaults := [], modes := [] }

/-- A number of bytes cut to an optional limit. -/
def cut (limit : Option Nat) (n : Nat) : Nat :=
  match limit with
  | none => n
  | some most => min n most

theorem cut_le (limit : Option Nat) (n : Nat) : cut limit n ≤ n := by
  cases limit with
  | none => exact Nat.le_refl n
  | some most => exact Nat.min_le_left n most

/-- A write: a closed pipe refuses it, then the next fault is met, then a block, and else bytes are
taken up to the limit. -/
def write (p : Pipe) (bytes : Bytes) : Except IoError Nat × Pipe :=
  if p.closed then (.error (.bare .brokenPipe), p)
  else match p.writeFaults with
    | some kind :: rest => (.error (.bare kind), { p with writeFaults := rest })
    | none :: rest => (.ok 0, { p with writeFaults := rest })
    | [] =>
      if p.blocked then (.error (.bare .wouldBlock), p)
      else
        let n := cut p.maxWrite bytes.length
        (.ok n, { p with queue := p.queue ++ bytes.take n })

/-- A read: the next fault is met; an empty pipe gives the end of the stream if it is closed and
has to wait if it is not; and else bytes are given up to the limit. -/
def read (p : Pipe) (max : Nat) : Except IoError Bytes × Pipe :=
  match p.readFaults with
  | kind :: rest => (.error (.bare kind), { p with readFaults := rest })
  | [] =>
    if p.queue.isEmpty then
      if p.closed then (.ok [], p) else (.error (.bare .wouldBlock), p)
    else
      let n := cut p.maxRead max
      (.ok (p.queue.take n), { p with queue := p.queue.drop n })

/-- A change of mode is recorded, then meets the next fault, and waiting mode lifts a block that is
not sticky. -/
def setBlocking (p : Pipe) (blocking : Bool) : Except IoError Unit × Pipe :=
  let p := { p with modes := p.modes ++ [blocking] }
  let proceed (p : Pipe) : Pipe :=
    if blocking && !p.sticky then { p with blocked := false } else p
  match p.modeFaults with
  | some kind :: rest => (.error (.bare kind), { p with modeFaults := rest })
  | none :: rest => (.ok (), proceed { p with modeFaults := rest })
  | [] => (.ok (), proceed p)

/-- Faults that a pipe's writer may still meet. -/
def writerBudget (p : Pipe) : Nat := p.writeFaults.length + p.modeFaults.length

/-- Faults and bytes that a pipe's reader may still meet. -/
def readerBudget (p : Pipe) : Nat := p.readFaults.length + p.queue.length

/-- One side of a connection: the pipe it writes into and the pipe it reads from. -/
structure End where
  outgoing : Pipe
  incoming : Pipe
deriving DecidableEq, Repr

namespace End

/-- Writes into the outgoing pipe. -/
def write (s : End) (bytes : Bytes) : Except IoError Nat × End :=
  let (result, outgoing) := s.outgoing.write bytes
  (result, { s with outgoing })

/-- Reads from the incoming pipe. -/
def read (s : End) (max : Nat) : Except IoError Bytes × End :=
  let (result, incoming) := s.incoming.read max
  (result, { s with incoming })

/-- Changes the mode of the outgoing pipe. -/
def setBlocking (s : End) (blocking : Bool) : Except IoError Unit × End :=
  let (result, outgoing) := s.outgoing.setBlocking blocking
  (result, { s with outgoing })

/-- Faults and bytes that this side may still meet. -/
def budget (s : End) : Nat := s.outgoing.writerBudget + s.incoming.readerBudget

end End

theorem write_le {p : Pipe} {bytes : Bytes} {n : Nat} (h : (p.write bytes).1 = .ok n) :
    n ≤ bytes.length := by
  unfold write at h
  split at h
  · cases h
  · split at h
    · cases h
    · cases h; exact Nat.zero_le _
    · split at h
      · cases h
      · cases h; exact cut_le _ _

theorem read_le {p : Pipe} {max : Nat} {bytes : Bytes} (h : (p.read max).1 = .ok bytes) :
    bytes.length ≤ max := by
  unfold read at h
  split at h
  · cases h
  · split at h
    · split at h
      · cases h; exact Nat.zero_le _
      · cases h
    · cases h
      rw [List.length_take]
      exact Nat.le_trans (Nat.min_le_left _ _) (cut_le _ _)

theorem writerBudget_write_le (p : Pipe) (bytes : Bytes) :
    (p.write bytes).2.writerBudget ≤ p.writerBudget := by
  unfold write
  split
  · exact Nat.le_refl _
  · split
    · simp_all [writerBudget]
    · simp_all [writerBudget]
    · split <;> simp [writerBudget]

theorem writerBudget_write_lt {p : Pipe} {bytes : Bytes} {e : IoError}
    (h : (p.write bytes).1 = .error e) (hk : e.kind = .interrupted) :
    (p.write bytes).2.writerBudget < p.writerBudget := by
  unfold write at h ⊢
  split at h
  · cases h; cases hk
  · split at h
    · simp_all [writerBudget]
    · cases h
    · split at h
      · cases h; cases hk
      · cases h

theorem readerBudget_read_le (p : Pipe) (max : Nat) :
    (p.read max).2.readerBudget ≤ p.readerBudget := by
  unfold read
  split
  · simp_all [readerBudget]
  · split
    · split <;> exact Nat.le_refl _
    · simp [readerBudget, List.length_drop]

theorem readerBudget_read_lt_of_interrupted {p : Pipe} {max : Nat} {e : IoError}
    (h : (p.read max).1 = .error e) (hk : e.kind = .interrupted) :
    (p.read max).2.readerBudget < p.readerBudget := by
  unfold read at h ⊢
  split at h
  · simp_all [readerBudget]
  · split at h
    · split at h
      · cases h
      · cases h; cases hk
    · cases h

theorem readerBudget_read_lt_of_ne_nil {p : Pipe} {max : Nat} {bytes : Bytes}
    (h : (p.read max).1 = .ok bytes) (hne : bytes ≠ []) :
    (p.read max).2.readerBudget < p.readerBudget := by
  unfold read at h ⊢
  split at h
  · cases h
  · split at h
    · split at h
      · cases h; exact absurd rfl hne
      · cases h
    · rename_i hnonempty
      cases h
      have hpos : 0 < cut p.maxRead max := by
        rcases Nat.eq_zero_or_pos (cut p.maxRead max) with hz | hp
        · rw [hz] at hne; exact absurd rfl hne
        · exact hp
      have hq : 0 < p.queue.length := by
        rcases hl : p.queue with _ | ⟨a, rest⟩
        · rw [hl] at hne; simp at hne
        · simp
      simp only [if_neg hnonempty, readerBudget, List.length_drop]
      omega

instance : ByteStream End where
  write := End.write
  read := End.read
  setBlocking := End.setBlocking
  budget := End.budget
  write_le h := write_le h
  read_le h := read_le h
  budget_write s bytes := Nat.add_le_add_right (writerBudget_write_le s.outgoing bytes) _
  budget_write_interrupted h hk := Nat.add_lt_add_right (writerBudget_write_lt h hk) _
  budget_read s max := Nat.add_le_add_left (readerBudget_read_le s.incoming max) _
  budget_read_interrupted h hk :=
    Nat.add_lt_add_left (readerBudget_read_lt_of_interrupted h hk) _
  budget_read_some h hne := Nat.add_lt_add_left (readerBudget_read_lt_of_ne_nil h hne) _

end Pipe

end PinnedLink
