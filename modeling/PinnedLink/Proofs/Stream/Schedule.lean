import Mathlib.Algebra.Ring.Nat
import PinnedLink.Proofs.Stream.Lossless

/-!
# Scheduled streams

A `Schedule` is a stream whose whole behaviour is laid down in advance: what each read meets, in
order, whether the stream ends or blocks behind that, and what the writes and the changes of mode
return.  Any way of cutting bytes into reads, with any faults in between, is such a schedule.

A schedule in use is only used up (`Spends`).  So one that has nothing worse than blocked and
interrupted reads in store keeps it that way, blocks at most as often as it says, and reports its end
only if it has one (`spends_of_reaches`, `stalls_of_refuses`, `closed_of_endSeen`).
-/

namespace PinnedLink

/-- What a scheduled stream has in store for its reader. -/
inductive Arrival where
  /-- At least one byte. -/
  | chunk (first : UInt8) (more : Bytes)
  /-- A read that fails. -/
  | fault (e : IoError)
deriving DecidableEq, Repr

namespace Arrival

/-- The bytes of an arrival. -/
def bytes : Arrival → Bytes
  | .chunk first more => first :: more
  | .fault _ => []

/-- What an arrival adds to the budget. -/
def cost : Arrival → Nat
  | .chunk _ more => more.length + 1
  | .fault _ => 1

/-- The arrival is a read that blocks. -/
def stalls : Arrival → Bool
  | .chunk _ _ => false
  | .fault e => e.kind = .wouldBlock

end Arrival

/-- A stream whose behaviour is laid down in advance. -/
structure Schedule where
  /-- What the reads meet. -/
  arrivals : List Arrival
  /-- The stream ends behind the arrivals; otherwise it blocks. -/
  closed : Bool
  /-- Bytes that the stream has taken. -/
  written : Bytes
  /-- What the next writes return, up to the length that they are offered; later ones take all. -/
  writes : List (Except IoError Nat)
  /-- How the next changes of mode fail, `none` for a change that succeeds. -/
  modes : List (Option IoError)

namespace Schedule

/-! ## Using a schedule -/

/-- Bytes that a read left, ahead of the other arrivals. -/
def putBack : Bytes → List Arrival → List Arrival
  | [], rest => rest
  | first :: more, rest => .chunk first more :: rest

/-- A read meets the next arrival, and takes of its bytes what it asks for. -/
def read (s : Schedule) (max : Nat) : Except IoError Bytes × Schedule :=
  match s.arrivals with
  | [] => if s.closed then (.ok [], s) else (.error (.bare .wouldBlock), s)
  | .fault e :: rest => (.error e, { s with arrivals := rest })
  | .chunk first more :: rest =>
    (.ok ((first :: more).take max),
      { s with arrivals := putBack ((first :: more).drop max) rest })

/-- A write returns what is laid down for it. -/
def write (s : Schedule) (bytes : Bytes) : Except IoError Nat × Schedule :=
  match s.writes with
  | [] => (.ok bytes.length, { s with written := s.written ++ bytes })
  | .error e :: rest => (.error e, { s with writes := rest })
  | .ok n :: rest =>
    (.ok (min n bytes.length), { s with writes := rest, written := s.written ++ bytes.take n })

/-- A change of mode succeeds or fails as laid down. -/
def setBlocking (s : Schedule) (_ : Bool) : Except IoError Unit × Schedule :=
  match s.modes with
  | some e :: rest => (.error e, { s with modes := rest })
  | none :: rest => (.ok (), { s with modes := rest })
  | [] => (.ok (), s)

/-- The bytes that a schedule has in store. -/
def ahead (s : Schedule) : Bytes := s.arrivals.flatMap Arrival.bytes

/-- How often a schedule blocks its reader before it has given everything. -/
def stalls (s : Schedule) : Nat := s.arrivals.countP Arrival.stalls

/-- Faults and bytes that a schedule has in store. -/
def budget (s : Schedule) : Nat := (s.arrivals.map Arrival.cost).sum + s.writes.length

@[simp] theorem flatMap_putBack (bytes : Bytes) (rest : List Arrival) :
    (putBack bytes rest).flatMap Arrival.bytes = bytes ++ rest.flatMap Arrival.bytes := by
  cases bytes <;> rfl

@[simp] theorem countP_putBack (bytes : Bytes) (rest : List Arrival) :
    (putBack bytes rest).countP Arrival.stalls = rest.countP Arrival.stalls := by
  cases bytes with
  | nil => rfl
  | cons first more => exact List.countP_cons_of_neg Bool.false_ne_true

@[simp] theorem sum_cost_putBack (bytes : Bytes) (rest : List Arrival) :
    ((putBack bytes rest).map Arrival.cost).sum = bytes.length + (rest.map Arrival.cost).sum := by
  cases bytes with
  | nil => exact (Nat.zero_add _).symm
  | cons first more => rfl

theorem fault_mem_putBack {e : IoError} {bytes : Bytes} {rest : List Arrival}
    (h : .fault e ∈ putBack bytes rest) : .fault e ∈ rest := by
  cases bytes with
  | nil => exact h
  | cons first more => exact (List.mem_cons.1 h).resolve_left Arrival.noConfusion

/-- What a read meets: a fault, a chunk, or the end of the arrivals. -/
theorem read_cases {s t : Schedule} {max : Nat} {r : Except IoError Bytes}
    (h : s.read max = (r, t)) :
    (∃ e rest, s.arrivals = .fault e :: rest ∧ r = .error e ∧ t = { s with arrivals := rest }) ∨
      (∃ first more rest, s.arrivals = .chunk first more :: rest ∧
        r = .ok ((first :: more).take max) ∧
        t = { s with arrivals := putBack ((first :: more).drop max) rest }) ∨
      (s.arrivals = [] ∧ t = s ∧
        (s.closed = true ∧ r = .ok [] ∨ s.closed = false ∧ r = .error (.bare .wouldBlock))) := by
  unfold read at h
  split at h
  · rename_i hnil
    split at h
    · rename_i hclosed
      cases h
      exact Or.inr (Or.inr ⟨hnil, rfl, Or.inl ⟨hclosed, rfl⟩⟩)
    · rename_i hopen
      cases h
      exact Or.inr (Or.inr ⟨hnil, rfl, Or.inr ⟨Bool.not_eq_true _ ▸ hopen, rfl⟩⟩)
  · rename_i e rest hfault
    cases h
    exact Or.inl ⟨e, rest, hfault, rfl, rfl⟩
  · rename_i first more rest hchunk
    cases h
    exact Or.inr (Or.inl ⟨first, more, rest, hchunk, rfl, rfl⟩)

/-- What a write does, however it goes. -/
theorem write_cases {s t : Schedule} {bytes : Bytes} {r : Except IoError Nat}
    (h : s.write bytes = (r, t)) :
    (∃ e rest, s.writes = .error e :: rest ∧ r = .error e ∧ t = { s with writes := rest }) ∨
      (∃ n rest, n ≤ bytes.length ∧ rest.length ≤ s.writes.length ∧ r = .ok n ∧
        t = { s with writes := rest, written := s.written ++ bytes.take n }) := by
  unfold write at h
  split at h
  · rename_i hnil
    cases h
    exact Or.inr ⟨bytes.length, s.writes, Nat.le_refl _, Nat.le_refl _, rfl, by
      rw [List.take_length]⟩
  · rename_i e rest herror
    cases h
    exact Or.inl ⟨e, rest, herror, rfl, rfl⟩
  · rename_i n rest hok
    cases h
    refine Or.inr ⟨min n bytes.length, rest, Nat.min_le_right _ _, ?_, rfl, ?_⟩
    · rw [hok]
      exact Nat.le_succ _
    · rw [← List.take_eq_take_min]

theorem arrivals_write (s : Schedule) (bytes : Bytes) :
    (s.write bytes).2.arrivals = s.arrivals ∧ (s.write bytes).2.closed = s.closed := by
  unfold write
  split <;> exact ⟨rfl, rfl⟩

theorem written_read (s : Schedule) (max : Nat) : (s.read max).2.written = s.written := by
  unfold read
  split
  · split <;> rfl
  · rfl
  · rfl

theorem setBlocking_snd (s : Schedule) (blocking : Bool) :
    ∃ modes, (s.setBlocking blocking).2 = { s with modes } := by
  unfold setBlocking
  split
  · exact ⟨_, rfl⟩
  · exact ⟨_, rfl⟩
  · exact ⟨s.modes, rfl⟩

/-! ## Schedules are streams -/

theorem budget_of_write {s t : Schedule} {bytes : Bytes} {r : Except IoError Nat}
    (h : s.write bytes = (r, t)) :
    t.budget ≤ s.budget ∧ ∀ e, r = .error e → t.budget < s.budget := by
  rcases write_cases h with ⟨e, rest, hwrites, rfl, rfl⟩ | ⟨n, rest, -, hle, rfl, rfl⟩
  · have hlt : rest.length < s.writes.length := by
      rw [hwrites]
      exact Nat.lt_succ_self _
    exact ⟨Nat.add_le_add_left (Nat.le_of_lt hlt) _, fun _ _ => Nat.add_lt_add_left hlt _⟩
  · exact ⟨Nat.add_le_add_left hle _, fun _ he => by cases he⟩

theorem budget_of_read {s t : Schedule} {max : Nat} {r : Except IoError Bytes}
    (h : s.read max = (r, t)) :
    t.budget ≤ s.budget ∧ (∀ bytes, r = .ok bytes → bytes ≠ [] → t.budget < s.budget) ∧
      ∀ e, r = .error e → e.kind = .interrupted → t.budget < s.budget := by
  rcases read_cases h with ⟨e, rest, harrivals, rfl, rfl⟩ |
    ⟨first, more, rest, harrivals, rfl, rfl⟩ |
    ⟨harrivals, rfl, ⟨-, rfl⟩ | ⟨-, rfl⟩⟩
  · have hlt : ({ s with arrivals := rest } : Schedule).budget < s.budget := by
      simp only [budget, harrivals, List.map_cons, List.sum_cons, Arrival.cost]
      omega
    exact ⟨Nat.le_of_lt hlt, fun _ he => (by cases he), fun _ _ _ => hlt⟩
  · have hsum : ({ s with arrivals := putBack ((first :: more).drop max) rest } : Schedule).budget +
        ((first :: more).take max).length = s.budget := by
      simp only [budget, harrivals, sum_cost_putBack, List.map_cons, List.sum_cons, Arrival.cost,
        List.length_drop, List.length_take, List.length_cons]
      omega
    refine ⟨by omega, fun bytes hbytes hne => ?_, fun _ he => by cases he⟩
    cases hbytes
    have hpos := List.length_pos_iff.2 hne
    omega
  · exact ⟨Nat.le_refl _, fun _ he hne => absurd (Except.ok.inj he).symm hne,
      fun _ he => by cases he⟩
  · refine ⟨Nat.le_refl _, fun _ he => (by cases he), fun _ he hk => ?_⟩
    cases he
    cases hk

theorem ahead_read_ok {s t : Schedule} {max : Nat} {bytes : Bytes}
    (h : s.read max = (.ok bytes, t)) : s.ahead = bytes ++ t.ahead := by
  rcases read_cases h with ⟨e, rest, harrivals, he, -⟩ |
    ⟨first, more, rest, harrivals, hbytes, rfl⟩ | ⟨harrivals, rfl, ⟨-, hbytes⟩ | ⟨-, he⟩⟩
  · cases he
  · cases hbytes
    simp only [ahead, harrivals, List.flatMap_cons, flatMap_putBack, Arrival.bytes]
    rw [← List.append_assoc, List.take_append_drop]
  · cases hbytes
    rfl
  · cases he

theorem ahead_read_error {s t : Schedule} {max : Nat} {e : IoError}
    (h : s.read max = (.error e, t)) : t.ahead = s.ahead := by
  rcases read_cases h with ⟨e, rest, harrivals, -, rfl⟩ |
    ⟨first, more, rest, harrivals, he, rfl⟩ | ⟨harrivals, rfl, -⟩
  · simp only [ahead, harrivals, List.flatMap_cons, Arrival.bytes, List.nil_append]
  · cases he
  · rfl

theorem ahead_write (s : Schedule) (bytes : Bytes) : (s.write bytes).2.ahead = s.ahead := by
  rw [ahead, (s.arrivals_write bytes).1, ahead]

theorem ahead_setBlocking (s : Schedule) (blocking : Bool) :
    (s.setBlocking blocking).2.ahead = s.ahead := by
  obtain ⟨modes, hmodes⟩ := s.setBlocking_snd blocking
  rw [hmodes]
  rfl

theorem written_setBlocking (s : Schedule) (blocking : Bool) :
    (s.setBlocking blocking).2.written = s.written := by
  obtain ⟨modes, hmodes⟩ := s.setBlocking_snd blocking
  rw [hmodes]

instance : ByteStream Schedule where
  write := write
  read := read
  setBlocking := setBlocking
  budget := budget
  write_le {s bytes n} h := by
    rcases write_cases (Prod.ext h rfl) with ⟨_, _, _, he, _⟩ | ⟨n, _, hle, _, hok, _⟩
    · cases he
    · cases hok
      exact hle
  read_le {s max bytes} h := by
    rcases read_cases (Prod.ext h rfl) with ⟨_, _, _, he, _⟩ | ⟨_, _, _, _, hok, _⟩ |
      ⟨_, _, ⟨_, hok⟩ | ⟨_, he⟩⟩
    · cases he
    · cases hok
      exact List.length_take_le _ _
    · cases hok
      exact Nat.zero_le _
    · cases he
  budget_write s bytes := (budget_of_write rfl).1
  budget_write_interrupted h _ := (budget_of_write rfl).2 _ h
  budget_read s max := (budget_of_read rfl).1
  budget_read_interrupted h hk := (budget_of_read rfl).2.2 _ h hk
  budget_read_some h hne := (budget_of_read rfl).2.1 _ h hne

instance : LosslessStream Schedule where
  sent s := s.written
  ahead := ahead
  sent_write_ok h := by
    rcases write_cases h with ⟨_, _, _, he, _⟩ | ⟨_, _, _, _, hok, rfl⟩
    · cases he
    · cases hok
      rfl
  sent_write_error h := by
    rcases write_cases h with ⟨_, _, _, _, rfl⟩ | ⟨_, _, _, _, hok, _⟩
    · rfl
    · cases hok
  ahead_write := ahead_write
  ahead_read_ok := ahead_read_ok
  ahead_read_error := ahead_read_error
  sent_read := written_read
  sent_setBlocking := written_setBlocking
  ahead_setBlocking := ahead_setBlocking

/-- A schedule ends only behind its arrivals. -/
theorem endsHonestly : LosslessStream.EndsHonestly Schedule := by
  intro s t max hpos h
  rcases read_cases h with ⟨_, _, _, he, _⟩ | ⟨first, more, rest, _, hok, _⟩ | ⟨harrivals, _, _⟩
  · cases he
  · obtain ⟨max, rfl⟩ := Nat.exists_eq_succ_of_ne_zero (Nat.ne_of_gt hpos)
    cases hok
  · show s.arrivals.flatMap Arrival.bytes = []
    rw [harrivals]
    rfl

/-! ## Using a schedule up -/

/-- The schedule has nothing worse in store than blocked and interrupted reads. -/
def Transient (s : Schedule) : Prop :=
  ∀ e, .fault e ∈ s.arrivals → e.kind = .wouldBlock ∨ e.kind = .interrupted

/-- What using a schedule leaves of it. -/
structure Spends (s t : Schedule) : Prop where
  closed : t.closed = s.closed
  faults : ∀ e, .fault e ∈ t.arrivals → .fault e ∈ s.arrivals
  stalls : t.stalls ≤ s.stalls

namespace Spends

variable {s t u : Schedule}

theorem trans (hst : Spends s t) (htu : Spends t u) : Spends s u where
  closed := htu.closed.trans hst.closed
  faults e he := hst.faults e (htu.faults e he)
  stalls := Nat.le_trans htu.stalls hst.stalls

/-- What does not touch the arrivals or the end spends nothing. -/
theorem of_eq (harrivals : t.arrivals = s.arrivals) (hclosed : t.closed = s.closed) :
    Spends s t where
  closed := hclosed
  faults e he := harrivals ▸ he
  stalls := Nat.le_of_eq (by rw [Schedule.stalls, Schedule.stalls, harrivals])

theorem of_read {max : Nat} {r : Except IoError Bytes} (h : s.read max = (r, t)) :
    Spends s t := by
  rcases read_cases h with ⟨e, rest, harrivals, -, rfl⟩ |
    ⟨first, more, rest, harrivals, -, rfl⟩ | ⟨-, rfl, -⟩
  · refine ⟨rfl, fun e' he' => ?_, ?_⟩
    · rw [harrivals]
      exact List.mem_cons_of_mem _ he'
    · rw [Schedule.stalls, Schedule.stalls, harrivals]
      exact (List.sublist_cons_self _ _).countP_le
  · refine ⟨rfl, fun e' he' => ?_, ?_⟩
    · rw [harrivals]
      exact List.mem_cons_of_mem _ (fault_mem_putBack he')
    · rw [Schedule.stalls, Schedule.stalls, harrivals, countP_putBack]
      exact (List.sublist_cons_self _ _).countP_le
  · exact of_eq rfl rfl

end Spends

/-- A schedule in use is only used up. -/
theorem spends_of_reaches {s t : Schedule} (h : ByteStream.Reaches s t) : Spends s t := by
  induction h with
  | refl => exact .of_eq rfl rfl
  | write _ bytes ih =>
    obtain ⟨harrivals, hclosed⟩ := arrivals_write _ bytes
    exact ih.trans (.of_eq harrivals hclosed)
  | read _ max ih => exact ih.trans (.of_read rfl)
  | @setBlocking t _ blocking ih =>
    have hmode : Spends t (setBlocking t blocking).2 := by
      obtain ⟨modes, hmodes⟩ := setBlocking_snd t blocking
      rw [hmodes]
      exact .of_eq rfl rfl
    exact ih.trans hmode

theorem Transient.of_spends {s t : Schedule} (h : s.Transient) (hst : Spends s t) :
    t.Transient :=
  fun e he => h e (hst.faults e he)

/-- A transient schedule refuses a read only by blocking or by an interruption, and a read that blocks
is one of its stalls unless everything has been given. -/
theorem stalls_of_refuses {s t : Schedule} {e : IoError} (hs : s.Transient)
    (h : ByteStream.Refuses s e t) :
    (e.kind = .wouldBlock ∨ e.kind = .interrupted) ∧
      (e.kind = .wouldBlock →
        t.stalls < s.stalls ∨ t.arrivals = [] ∧ t.closed = false) := by
  obtain ⟨u, max, hreaches, hread⟩ := h
  have hspends := spends_of_reaches hreaches
  rcases read_cases hread with ⟨e', rest, harrivals, he, rfl⟩ | ⟨_, _, _, _, he, _⟩ |
    ⟨harrivals, rfl, ⟨_, he⟩ | ⟨hclosed, he⟩⟩
  · cases he
    have hmem : .fault e ∈ u.arrivals := by
      rw [harrivals]
      exact List.mem_cons_self
    refine ⟨hs e (hspends.faults e hmem), fun hkind => Or.inl ?_⟩
    have hcount : u.stalls = rest.countP Arrival.stalls + 1 := by
      rw [Schedule.stalls, harrivals]
      exact List.countP_cons_of_pos (by simp [Arrival.stalls, hkind])
    have hle := hspends.stalls
    show rest.countP Arrival.stalls < s.stalls
    omega
  · cases he
  · cases he
  · cases he
    exact ⟨Or.inl rfl, fun _ => Or.inr ⟨harrivals, hclosed⟩⟩

/-- A schedule that reports its end has one. -/
theorem closed_of_endSeen {s : Schedule} (h : ByteStream.EndSeen s) : s.closed = true := by
  obtain ⟨t, u, max, hreaches, hpos, hread⟩ := h
  have hclosed := (spends_of_reaches hreaches).closed
  rcases read_cases hread with ⟨_, _, _, he, _⟩ | ⟨first, more, rest, _, hok, _⟩ |
    ⟨_, _, ⟨hend, _⟩ | ⟨_, he⟩⟩
  · cases he
  · obtain ⟨max, rfl⟩ := Nat.exists_eq_succ_of_ne_zero (Nat.ne_of_gt hpos)
    cases hok
  · exact hclosed.symm.trans hend
  · cases he

end Schedule

end PinnedLink
