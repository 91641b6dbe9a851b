import PinnedLink.Stream.Basic

/-!
# Streams that keep a log

A `Logged` stream is any stream with a record of the calls that were made of it and of what it
answered, oldest first.  It behaves as the stream under it, so what holds of all logged streams says
what a user of any stream may have asked of it.

From the log one reads off the bytes that the stream has taken (`taken`), those that it has given
(`given`), the changes of its mode that were asked for (`modeChanges`), and the mode that they leave it
in if a change that fails is no change (`waitingAfter`).
-/

namespace PinnedLink

/-- A call of a stream, with what the stream has answered. -/
inductive StreamCall where
  | write (offered : Bytes) (answer : Except IoError Nat)
  | read (max : Nat) (answer : Except IoError Bytes)
  | setBlocking (blocking : Bool) (answer : Except IoError Unit)

namespace StreamCall

/-- How many bytes a write has taken. -/
def count : Except IoError Nat → Nat
  | .ok n => n
  | .error _ => 0

/-- The bytes that the stream has taken in a call. -/
def taken : StreamCall → Bytes
  | .write offered answer => offered.take (count answer)
  | _ => []

/-- The bytes that the stream has given to a read that succeeded, none at its end. -/
def gift? : StreamCall → Option Bytes
  | .read _ (.ok bytes) => some bytes
  | _ => none

/-- The change of mode that a call asks for, and whether it succeeded. -/
def modeChange? : StreamCall → Option (Bool × Except IoError Unit)
  | .setBlocking blocking answer => some (blocking, answer)
  | _ => none

/-- The mode of a stream behind a change of it: a change that fails leaves the mode as it was. -/
def waitingBehind (waiting : Bool) : Bool × Except IoError Unit → Bool
  | (blocking, .ok ()) => blocking
  | (_, .error _) => waiting

end StreamCall

/-- The bytes that the stream has taken in several calls. -/
def taken (calls : List StreamCall) : Bytes := calls.flatMap StreamCall.taken

/-- What the stream has given in several calls, read by read. -/
def given (calls : List StreamCall) : List Bytes := calls.filterMap StreamCall.gift?

/-- The changes of mode among several calls, with what became of them. -/
def modeChanges (calls : List StreamCall) : List (Bool × Except IoError Unit) :=
  calls.filterMap StreamCall.modeChange?

/-- Whether a stream waits behind several calls, if it waited before them or not. -/
def waitingAfter (waiting : Bool) (calls : List StreamCall) : Bool :=
  (modeChanges calls).foldl StreamCall.waitingBehind waiting

@[simp] theorem taken_write (offered : Bytes) (answer : Except IoError Nat)
    (calls : List StreamCall) :
    taken (.write offered answer :: calls) =
      offered.take (StreamCall.count answer) ++ taken calls := rfl

@[simp] theorem given_append (calls more : List StreamCall) :
    given (calls ++ more) = given calls ++ given more := List.filterMap_append

@[simp] theorem modeChanges_append (calls more : List StreamCall) :
    modeChanges (calls ++ more) = modeChanges calls ++ modeChanges more := List.filterMap_append

@[simp] theorem modeChanges_setBlocking (blocking : Bool) (answer : Except IoError Unit)
    (calls : List StreamCall) :
    modeChanges (.setBlocking blocking answer :: calls) =
      (blocking, answer) :: modeChanges calls := rfl

theorem waitingAfter_append (waiting : Bool) (calls more : List StreamCall) :
    waitingAfter waiting (calls ++ more) = waitingAfter (waitingAfter waiting calls) more := by
  rw [waitingAfter, modeChanges_append, List.foldl_append]
  rfl

/-- A stream with the calls that were made of it, oldest first. -/
structure Logged (σ : Type) where
  stream : σ
  calls : List StreamCall

namespace Logged

variable {σ : Type} [ByteStream σ]

/-- A write that is put on record. -/
def write (s : Logged σ) (bytes : Bytes) : Except IoError Nat × Logged σ :=
  let (answer, stream) := ByteStream.write s.stream bytes
  (answer, { stream, calls := s.calls ++ [.write bytes answer] })

/-- A read that is put on record. -/
def read (s : Logged σ) (max : Nat) : Except IoError Bytes × Logged σ :=
  let (answer, stream) := ByteStream.read s.stream max
  (answer, { stream, calls := s.calls ++ [.read max answer] })

/-- A change of mode that is put on record. -/
def setBlocking (s : Logged σ) (blocking : Bool) : Except IoError Unit × Logged σ :=
  let (answer, stream) := ByteStream.setBlocking s.stream blocking
  (answer, { stream, calls := s.calls ++ [.setBlocking blocking answer] })

instance : ByteStream (Logged σ) where
  write := write
  read := read
  setBlocking := setBlocking
  budget s := ByteStream.budget s.stream
  write_le := ByteStream.write_le (σ := σ)
  read_le := ByteStream.read_le (σ := σ)
  budget_write s := ByteStream.budget_write s.stream
  budget_write_interrupted := ByteStream.budget_write_interrupted (σ := σ)
  budget_read s := ByteStream.budget_read s.stream
  budget_read_interrupted := ByteStream.budget_read_interrupted (σ := σ)
  budget_read_some := ByteStream.budget_read_some (σ := σ)

variable {s t : Logged σ} {bytes : Bytes} {max : Nat} {blocking : Bool}

theorem calls_write {answer : Except IoError Nat} (h : ByteStream.write s bytes = (answer, t)) :
    t.calls = s.calls ++ [.write bytes answer] := by
  cases h
  rfl

theorem calls_read {answer : Except IoError Bytes} (h : ByteStream.read s max = (answer, t)) :
    t.calls = s.calls ++ [.read max answer] := by
  cases h
  rfl

theorem calls_setBlocking {answer : Except IoError Unit}
    (h : ByteStream.setBlocking s blocking = (answer, t)) :
    t.calls = s.calls ++ [.setBlocking blocking answer] := by
  cases h
  rfl

omit [ByteStream σ] in
/-- From one state of a stream to another, it was used and its mode was left alone. -/
def Quiet (s t : Logged σ) : Prop := ∃ calls, t.calls = s.calls ++ calls ∧ modeChanges calls = []

omit [ByteStream σ] in
theorem Quiet.refl (s : Logged σ) : Quiet s s := ⟨[], (List.append_nil s.calls).symm, rfl⟩

omit [ByteStream σ] in
theorem Quiet.trans {u : Logged σ} (h : Quiet s t) (h' : Quiet t u) : Quiet s u := by
  obtain ⟨calls, ht, hcalls⟩ := h
  obtain ⟨more, hu, hmore⟩ := h'
  refine ⟨calls ++ more, by rw [hu, ht, List.append_assoc], ?_⟩
  rw [modeChanges_append, hcalls, hmore]
  rfl

theorem Quiet.of_read {answer : Except IoError Bytes} (h : ByteStream.read s max = (answer, t)) :
    Quiet s t :=
  ⟨[.read max answer], calls_read h, rfl⟩

end Logged

end PinnedLink
