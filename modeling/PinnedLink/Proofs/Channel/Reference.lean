import PinnedLink.Proofs.Channel.Receiving
import PinnedLink.Proofs.Stream.Schedule

/-!
# The reference receiver

`reference` reads a whole stream of plaintext at once: it takes frames off the front until a bad
header, where it stays, or until less than a frame is left, which it drops if the stream is over.

A channel does the same in pieces.  `Receiver.step` says of one call of `recv` that it either reports
what the reference reports next or was blocked, and `Receiver.run` that the reports of any
calls, however the stream is cut into records and reads, are those of the reference.
-/

namespace PinnedLink

open PinnedLink.Frame (Message)
open Session (Tail)
open Schedule (putBack)

namespace Channel

/-! ## Reports -/

/-- What a call of `recv` tells its caller, unless nothing has arrived. -/
inductive Report where
  /-- A message, with the length of its body. -/
  | received (len : Nat) (m : Message)
  | closed
  | failed (e : TransportError)
deriving DecidableEq, Repr

/-- The report of a call that returned a result and left a message. -/
def report? : Except TransportError RecvOutcome → Message → Option Report
  | .ok (.received len), m => some (.received len m)
  | .ok .closed, _ => some .closed
  | .ok .empty, _ => none
  | .error e, _ => some (.failed e)

/-- Only a call that hands a message out reports it. -/
theorem received_of_report {r : Except TransportError RecvOutcome} {m m' : Message} {n : Nat}
    (h : report? r m' = some (.received n m)) : r = .ok (.received n) ∧ m' = m := by
  rcases r with e | n' | _ | _
  all_goals cases h
  exact ⟨rfl, rfl⟩

/-- The reports of one call of `recv` for each of the callers' messages. -/
def reports {σ : Type} [ByteStream σ] (c : Channel σ) : List Message → List Report
  | [] => []
  | m :: calls =>
    (report? (c.recv m).1 (c.recv m).2.2).toList ++ reports (c.recv m).2.1 calls

/-- The first reports of a receiver that has a whole stream at hand.  At the end it waits, unless the
stream is over. -/
def reference (maxBodyLen : Nat) (ends : Bool) : Nat → Bytes → List Report
  | 0, _ => []
  | n + 1, plain =>
    match front maxBodyLen plain with
    | .frame m rest => .received m.bodyLen m :: reference maxBodyLen ends n rest
    | .bad e => .failed e :: reference maxBodyLen ends n plain
    | .unfinished => if ends then .closed :: reference maxBodyLen ends n [] else []

section Reference

variable {maxBodyLen : Nat} {ends : Bool} {plain rest : Bytes}

theorem reference_of_frame {m : Message} (h : front maxBodyLen plain = .frame m rest) (n : Nat) :
    reference maxBodyLen ends (n + 1) plain =
      .received m.bodyLen m :: reference maxBodyLen ends n rest := by
  simp only [reference, h]

theorem reference_of_bad {e : TransportError} (h : front maxBodyLen plain = .bad e) (n : Nat) :
    reference maxBodyLen ends (n + 1) plain = .failed e :: reference maxBodyLen ends n plain := by
  simp only [reference, h]

theorem reference_of_ends (h : front maxBodyLen plain = .unfinished) (hends : ends = true)
    (n : Nat) :
    reference maxBodyLen ends (n + 1) plain = .closed :: reference maxBodyLen ends n [] := by
  simp only [reference, h, if_pos hends]

/-- A receiver that waits reports nothing more. -/
theorem reference_of_waiting (h : front maxBodyLen plain = .unfinished) (hends : ends = false)
    (n : Nat) : reference maxBodyLen ends n plain = [] := by
  cases n with
  | zero => rfl
  | succ n => simp only [reference, h, hends, Bool.false_eq_true, ↓reduceIte]

/-- More calls give more reports behind the same ones. -/
theorem reference_mono (maxBodyLen : Nat) (ends : Bool) {n n' : Nat} (hle : n ≤ n')
    (plain : Bytes) :
    reference maxBodyLen ends n plain <+: reference maxBodyLen ends n' plain := by
  induction n generalizing n' plain with
  | zero => exact List.nil_prefix
  | succ n ih =>
    obtain ⟨n', rfl⟩ : ∃ k, n' = k + 1 := ⟨n' - 1, by omega⟩
    have hle' : n ≤ n' := by omega
    cases hfront : front maxBodyLen plain with
    | frame m rest =>
      rw [reference_of_frame hfront, reference_of_frame hfront]
      exact (List.prefix_cons_inj _).2 (ih hle' rest)
    | bad e =>
      rw [reference_of_bad hfront, reference_of_bad hfront]
      exact (List.prefix_cons_inj _).2 (ih hle' plain)
    | unfinished =>
      cases hends : ends with
      | true =>
        rw [reference_of_ends hfront rfl, reference_of_ends hfront rfl, ← hends]
        exact (List.prefix_cons_inj _).2 (ih hle' [])
      | false => rw [reference_of_waiting hfront rfl]; exact List.nil_prefix

end Reference

/-! ## A channel in step with the reference -/

/-- A channel over a schedule that still has to report what the reference reports of `plain`. -/
structure Receiver (maxBodyLen : Nat) (ends : Bool) (tail : Tail) (c : Channel Schedule)
    (plain : Bytes) : Prop where
  hears : c.Hears [] plain tail
  bound : c.maxBodyLen = maxBodyLen
  transient : c.stream.Transient
  ends_iff : ends = true ↔
    c.session.ended = true ∨ tail = .goodbye ∨ c.stream.closed = true

namespace Receiver

variable {maxBodyLen : Nat} {ends : Bool} {tail : Tail} {c d : Channel Schedule}
  {plain plain' : Bytes}

/-- Receiving keeps a channel in step, with what it leaves to be heard. -/
theorem of_advance (h : Receiver maxBodyLen ends tail c plain)
    (hadvance : Advance [] tail c plain d plain') {rest : Bytes} (hrest : d.Hears [] rest tail) :
    Receiver maxBodyLen ends tail d rest := by
  have hspends := Schedule.spends_of_reaches hadvance.reaches
  refine ⟨hrest, hadvance.maxBodyLen.trans h.bound, h.transient.of_spends hspends, ?_⟩
  rw [h.ends_iff, hspends.closed]
  constructor
  · rintro (hended | hother)
    · exact Or.inl (hadvance.stays hended)
    · exact Or.inr hother
  · rintro (hended | hother)
    · rcases hadvance.ended hended with hended | hbye | hseen
      · exact Or.inl hended
      · exact Or.inr (Or.inl hbye)
      · exact Or.inr (Or.inr (Schedule.closed_of_endSeen hseen))
    · exact Or.inr hother

/-- A channel that was blocked for good has reported all that the reference reports. -/
theorem reference_eq_nil (h : Receiver maxBodyLen ends tail c plain)
    (hopen : c.session.ended = false) (hnone : c.session.plaintext = [])
    (hfront : front maxBodyLen c.received = .unfinished) (harrivals : c.stream.arrivals = [])
    (hclosed : c.stream.closed = false) (n : Nat) : reference maxBodyLen ends n plain = [] := by
  have hahead : LosslessStream.ahead c.stream ++ [] = [] := by
    rw [List.append_nil]
    show c.stream.arrivals.flatMap Arrival.bytes = []
    rw [harrivals]
    rfl
  obtain ⟨rfl, hbye⟩ := h.hears.eq_received_of_open hopen hnone hahead
  refine reference_of_waiting hfront (Bool.eq_false_iff.2 fun hends => ?_) n
  rcases h.ends_iff.1 hends with hended | htail | hend
  · rw [hopen] at hended; cases hended
  · exact hbye htail
  · rw [hclosed] at hend; cases hend

/-- One call of `recv` reports what the reference reports next, or was blocked: then the schedule has
one stall less, or the reference has nothing more to report either. -/
theorem step (h : Receiver maxBodyLen ends tail c plain) (m : Message) :
    ∃ rest, Receiver maxBodyLen ends tail (c.recv m).2.1 rest ∧
      (c.recv m).2.1.stream.stalls ≤ c.stream.stalls ∧
      ((∃ r, report? (c.recv m).1 (c.recv m).2.2 = some r ∧
          ∀ n, reference maxBodyLen ends (n + 1) plain =
            r :: reference maxBodyLen ends n rest) ∨
        (report? (c.recv m).1 (c.recv m).2.2 = none ∧ rest = plain ∧
          ((c.recv m).2.1.stream.stalls < c.stream.stalls ∨
            ∀ n, reference maxBodyLen ends n plain = []))) := by
  obtain ⟨plain', hadvance, hanswers⟩ := recv_answers h.hears m
  obtain ⟨lost, hplain, hlost⟩ := hadvance.lost
  have hnil : lost = [] := hlost (Or.inr ⟨rfl, Schedule.endsHonestly⟩)
  obtain rfl : plain = plain' := by rw [hplain, hnil, List.append_nil]
  have hstalls := (Schedule.spends_of_reaches hadvance.reaches).stalls
  rw [h.bound] at hanswers
  generalize c.recv m = call at hadvance hanswers hstalls ⊢
  obtain ⟨r, d, m'⟩ := call
  dsimp only at hadvance hanswers hstalls ⊢
  cases hanswers with
  | received hfront hrest =>
    exact ⟨_, h.of_advance hadvance hrest, hstalls,
      Or.inl ⟨_, rfl, fun n => reference_of_frame hfront n⟩⟩
  | bad hfront hrest =>
    exact ⟨_, h.of_advance hadvance hrest, hstalls,
      Or.inl ⟨_, rfl, fun n => reference_of_bad hfront n⟩⟩
  | closed hfront hended hrest =>
    have hd := h.of_advance hadvance hrest
    have hends : ends = true := hd.ends_iff.2 (Or.inl hended)
    exact ⟨_, hd, hstalls, Or.inl ⟨_, rfl, fun n => reference_of_ends hfront hends n⟩⟩
  | empty hfront hnone hopen hkind hrefuses hrest =>
    have hd := h.of_advance hadvance hrest
    refine ⟨plain, hd, hstalls, Or.inr ⟨rfl, rfl, ?_⟩⟩
    rcases (Schedule.stalls_of_refuses h.transient hrefuses).2 hkind with hlt | ⟨harr, hclosed⟩
    · exact Or.inl hlt
    · exact Or.inr fun n => hd.reference_eq_nil hopen hnone hfront harr hclosed n
  | refused hblock hintr hrefuses _ =>
    rcases (Schedule.stalls_of_refuses h.transient hrefuses).1 with hkind | hkind
    · exact absurd hkind hblock
    · exact absurd hkind hintr

/-- The reports of a run of calls are the first reports of the reference, and all but as many as the
schedule has stalls. -/
theorem run (h : Receiver maxBodyLen ends tail c plain) (calls : List Message) :
    reports c calls <+: reference maxBodyLen ends calls.length plain ∧
      reference maxBodyLen ends (calls.length - c.stream.stalls) plain <+: reports c calls := by
  induction calls generalizing c plain with
  | nil =>
    refine ⟨List.nil_prefix, ?_⟩
    rw [List.length_nil, Nat.zero_sub]
    exact List.nil_prefix
  | cons m calls ih =>
    obtain ⟨rest, hd, hstalls, ⟨r, hreport, href⟩ | ⟨hreport, rfl, hblocked⟩⟩ := h.step m
    · obtain ⟨hfirst, hall⟩ := ih hd
      rw [reports, hreport, List.length_cons, href]
      refine ⟨(List.prefix_cons_inj r).2 hfirst, ?_⟩
      have hle : calls.length + 1 - c.stream.stalls ≤
          (calls.length - (c.recv m).2.1.stream.stalls) + 1 := by omega
      refine (reference_mono maxBodyLen ends hle plain).trans ?_
      rw [href]
      exact (List.prefix_cons_inj r).2 hall
    · obtain ⟨hfirst, hall⟩ := ih hd
      rw [reports, hreport, List.length_cons]
      refine ⟨hfirst.trans (reference_mono maxBodyLen ends (Nat.le_succ _) rest), ?_⟩
      rcases hblocked with hlt | hnil
      · have hle : calls.length + 1 - c.stream.stalls ≤
            calls.length - (c.recv m).2.1.stream.stalls := by omega
        exact (reference_mono maxBodyLen ends hle rest).trans hall
      · rw [hnil]
        exact List.nil_prefix

end Receiver

/-- However a stream of plaintext is cut into records and reads, and however often it blocks, the
reports of a channel that was just made are those of the reference on the whole stream: nothing else,
and all of them once the stalls are used up.  The stream is over if the session had ended before, if
the peer says goodbye, or if the bytes end. -/
theorem reports_new_reference (s : Session) (io : Schedule) (maxBodyLen : Nat) (plain : Bytes)
    (tail : Tail) (calls : List Message) (hhears : s.Hears io.ahead plain tail)
    (htransient : io.Transient) :
    reports (Channel.new s io maxBodyLen) calls <+:
        reference maxBodyLen (s.ended || tail = .goodbye || io.closed) calls.length plain ∧
      reference maxBodyLen (s.ended || tail = .goodbye || io.closed) (calls.length - io.stalls)
        plain <+: reports (Channel.new s io maxBodyLen) calls := by
  have hears : (Channel.new s io maxBodyLen).Hears [] plain tail := by
    refine ⟨plain, rfl, ?_⟩
    rw [List.append_nil]
    exact hhears
  refine Receiver.run ⟨hears, rfl, htransient, ?_⟩ calls
  simp only [Bool.or_eq_true, decide_eq_true_eq, or_assoc]
  rfl

/-- A frame in two records and a goodbye, whose first record is cut by an interrupted and by a blocked
read. -/
def cutFrame : Schedule :=
  let record := Session.Record.sealed .tls13 .client
  let wire := (record 0 .applicationData [0x53, 0x57, 1, 7, 0, 0]).encode ++
    ((record 1 .applicationData [0, 3, 1, 2, 3]).encode ++ (record 2 .alert [1, 0]).encode)
  { arrivals := putBack (wire.take 9) (.fault (.bare .interrupted) ::
      .fault (.bare .wouldBlock) :: putBack (wire.drop 9) [])
    closed := false, written := [], writes := [], modes := [] }

theorem reports_cutFrame :
    [.received 3 { header := { kind := 7, bodyLen := 3 }, body := [1, 2, 3] }, .closed, .closed] <+:
      reports (Channel.new (Session.established .tls13 .server) cutFrame 16)
        (List.replicate 4 (Message.new 0)) := by
  have hhears : (Session.established .tls13 .server).Hears cutFrame.ahead
      [0x53, 0x57, 1, 7, 0, 0, 0, 3, 1, 2, 3] .goodbye := by
    refine .live _ rfl rfl rfl rfl ?_
    simp only [cutFrame, Schedule.ahead, Schedule.flatMap_putBack, List.flatMap_cons,
      Arrival.bytes, List.nil_append, List.flatMap_nil, List.append_nil]
    rw [List.take_append_drop]
    exact .data (by decide) (.data (by decide) (.goodbye 2 1 []))
  have htransient : cutFrame.Transient := by
    intro e he
    simp only [cutFrame] at he
    rcases List.mem_cons.1 (Schedule.fault_mem_putBack he) with hfault | hmem
    · exact Or.inr (by rw [Arrival.fault.inj hfault]; rfl)
    · rcases List.mem_cons.1 hmem with hfault | hmem
      · exact Or.inl (by rw [Arrival.fault.inj hfault]; rfl)
      · cases Schedule.fault_mem_putBack hmem
  exact (reports_new_reference (Session.established .tls13 .server) cutFrame 16 _ .goodbye
    (List.replicate 4 (Message.new 0)) hhears htransient).2

end Channel

end PinnedLink
