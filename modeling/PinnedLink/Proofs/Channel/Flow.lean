import PinnedLink.Proofs.Channel.Receiving

/-!
# Messages on their way

`Flow out s received todo` says that what one end has said, `out`, carries exactly the messages `todo`
to the other end, whose session is `s` and whose buffer is `received`.  Every operation of either end
has one lemma here.  Only two change the messages on their way: a message that is said before the
goodbye goes behind them (`Flow.say`), and a call of `recv` that answers takes the first of them off
(`Flow.recv`).

A receiver that finds nothing, with nothing ahead of it, has had all of them (`Flow.recv`).
-/

namespace PinnedLink

open PinnedLink.Frame (Message)
open Session (Transcript Tail)

namespace Session.Speaking

/-- How all that an end has said leaves off. -/
def tail (out : Speaking) : Tail := if out.saidGoodbye then .goodbye else .next out.sealedCount

theorem tail_of_goodbye {out : Speaking} (h : out.saidGoodbye = true) : out.tail = .goodbye :=
  if_pos h

theorem tail_of_open {out : Speaking} (h : out.saidGoodbye = false) :
    out.tail = .next out.sealedCount := by
  rw [tail, h]
  rfl

theorem saidGoodbye_of_tail {out : Speaking} (h : out.tail = .goodbye) :
    out.saidGoodbye = true := by
  by_contra hsaid
  rw [tail_of_open (Bool.eq_false_iff.2 hsaid)] at h
  cases h

end Session.Speaking

namespace Channel

/-! ## The plaintext of several messages -/

/-- The frames of several messages, one behind the other. -/
def frames (todo : List Message) : Bytes := todo.flatMap Message.encode

@[simp] theorem frames_nil : frames [] = [] := rfl

@[simp] theorem frames_cons (m : Message) (todo : List Message) :
    frames (m :: todo) = m.encode ++ frames todo := rfl

@[simp] theorem frames_append (todo more : List Message) :
    frames (todo ++ more) = frames todo ++ frames more := List.flatMap_append

/-- If nothing can be made out at the front of the frames of messages, there are none. -/
theorem eq_nil_of_front_frames {maxBodyLen : Nat} {todo : List Message}
    (hvalid : ∀ m ∈ todo, m.validate = .ok ())
    (h : front maxBodyLen (frames todo) = .unfinished) : todo = [] := by
  cases todo with
  | nil => rfl
  | cons m todo =>
    rw [frames_cons, front_encode_append maxBodyLen (hvalid m List.mem_cons_self)] at h
    split at h <;> cases h

/-- A frame at the front of the frames of messages is the first of them. -/
theorem eq_cons_of_front_frames {maxBodyLen : Nat} {todo : List Message} {m : Message}
    {rest : Bytes} (hvalid : ∀ m ∈ todo, m.validate = .ok ())
    (h : front maxBodyLen (frames todo) = .frame m rest) :
    ∃ todo', todo = m :: todo' ∧ frames todo' = rest := by
  cases todo with
  | nil => cases h
  | cons first todo =>
    rw [frames_cons, front_encode_append maxBodyLen (hvalid first List.mem_cons_self)] at h
    split at h
    · cases h
    · cases h
      exact ⟨todo, rfl, rfl⟩

/-! ## Messages between two ends -/

/-- The message that a call of `recv` hands out. -/
def delivered? : Except TransportError RecvOutcome → Message → Option Message
  | .ok (.received _), m => some m
  | _, _ => none

/-- What one end has said carries the messages `todo` to the other end. -/
structure Flow (out : Session.Speaking) (s : Session) (received : Bytes) (todo : List Message) :
    Prop where
  version : s.version = out.version
  side : s.side.other = out.side
  failure : out.failure = none
  valid : ∀ m ∈ todo, m.validate = .ok ()
  /-- The other end knows of no goodbye that was not said. -/
  goodbye : s.peerClosed = true → out.saidGoodbye = true
  /-- Only an early end of the stream keeps anything back. -/
  carries : ∃ rest kept, s.Hears out.outbox rest out.tail ∧
    frames todo = received ++ rest ++ kept ∧ (s.sawEof = false → kept = [])

namespace Flow

variable {out : Session.Speaking} {s t : Session} {received : Bytes} {todo : List Message}

/-- What reaches the other end depends on its receiving half alone. -/
theorem congr (h : Flow out s received todo) (heq : t.listening = s.listening) :
    Flow out t received todo := by
  obtain ⟨rest, kept, hhears, htodo, hkept⟩ := h.carries
  have hclosed : t.peerClosed = s.peerClosed := congrArg Session.Listening.peerClosed heq
  have heof : t.sawEof = s.sawEof := congrArg Session.Listening.sawEof heq
  have hside : t.side = s.side := congrArg Session.Listening.side heq
  refine ⟨(congrArg Session.Listening.version heq).trans h.version, by rw [hside, h.side],
    h.failure, h.valid, by rw [hclosed]; exact h.goodbye, rest, kept, hhears.congr heq, htodo, ?_⟩
  rw [heof]
  exact hkept

/-- A receiver without a goodbye to go by has reached the end of its stream if it is over. -/
theorem sawEof_of_ended (h : Flow out s received todo) (hsaid : out.saidGoodbye = false)
    (hended : s.ended = true) : s.sawEof = true := by
  rw [Session.ended, Bool.or_eq_true] at hended
  rcases hended with hclosed | heof
  · have hbye := h.goodbye hclosed
    rw [hsaid] at hbye
    cases hbye
  · exact heof

/-- A message that is said before the goodbye goes behind the others. -/
theorem say (h : Flow out s received todo) (hsaid : out.saidGoodbye = false) {m : Message}
    (hvalid : m.validate = .ok ()) {count : Nat} {wire : Bytes}
    (hwire : Transcript out.version out.side out.sealedCount wire m.encode (.next count)) :
    Flow { out with sealedCount := count, outbox := out.outbox ++ wire } s received
      (todo ++ [m]) := by
  obtain ⟨rest, kept, hhears, htodo, hkept⟩ := h.carries
  rw [Session.Speaking.tail_of_open hsaid] at hhears
  rw [← h.version, ← h.side] at hwire
  refine ⟨h.version, h.side, h.failure, ?_, h.goodbye, ?_⟩
  · intro m' hm'
    rcases List.mem_append.1 hm' with hold | hnew
    · exact h.valid m' hold
    · rw [List.mem_singleton.1 hnew]
      exact hvalid
  · have htail : ({ out with
        sealedCount := count, outbox := out.outbox ++ wire } : Session.Speaking).tail =
          .next count := Session.Speaking.tail_of_open hsaid
    rw [htail, frames_append, htodo, frames_cons, frames_nil, List.append_nil]
    obtain ⟨rest', hrest', ⟨hended, rfl⟩ | ⟨hopen, rfl⟩⟩ := hhears.append hwire
    · refine ⟨rest', kept ++ m.encode, hrest', List.append_assoc _ _ _, fun heof => ?_⟩
      rw [h.sawEof_of_ended hsaid hended] at heof
      cases heof
    · rw [Session.ended, Bool.or_eq_false_iff] at hopen
      refine ⟨rest ++ m.encode, [], hrest', ?_, fun _ => rfl⟩
      rw [hkept hopen.2]
      simp only [List.append_assoc, List.append_nil]

/-- What is said behind the goodbye does not count. -/
theorem say_late (h : Flow out s received todo) (hsaid : out.saidGoodbye = true) (count : Nat)
    (wire : Bytes) :
    Flow { out with sealedCount := count, outbox := out.outbox ++ wire } s received todo := by
  obtain ⟨rest, kept, hhears, htodo, hkept⟩ := h.carries
  rw [Session.Speaking.tail_of_goodbye hsaid] at hhears
  have htail : ({ out with
      sealedCount := count, outbox := out.outbox ++ wire } : Session.Speaking).tail = .goodbye :=
    Session.Speaking.tail_of_goodbye hsaid
  refine ⟨h.version, h.side, h.failure, h.valid, h.goodbye, rest, kept, ?_, htodo, hkept⟩
  rw [htail]
  exact hhears.append_goodbye wire

/-- The goodbye keeps nothing back of what was said before. -/
theorem say_goodbye (h : Flow out s received todo) (hsaid : out.saidGoodbye = false) {wire : Bytes}
    (hwire : Transcript out.version out.side out.sealedCount wire [] .goodbye) :
    Flow { out with
        sealedCount := out.sealedCount + 1, outbox := out.outbox ++ wire, saidGoodbye := true }
      s received todo := by
  obtain ⟨rest, kept, hhears, htodo, hkept⟩ := h.carries
  rw [Session.Speaking.tail_of_open hsaid] at hhears
  rw [← h.version, ← h.side] at hwire
  obtain ⟨rest', hrest', hcases⟩ := hhears.append hwire
  have hsame : rest' = rest := by
    rcases hcases with ⟨-, hsame⟩ | ⟨-, hsame⟩
    · exact hsame
    · rw [hsame, List.append_nil]
  rw [hsame] at hrest'
  exact ⟨h.version, h.side, h.failure, h.valid, fun _ => rfl, rest, kept, hrest', htodo, hkept⟩

/-! ## Receiving from a flow -/

section Receiving

variable {σ : Type} [LosslessStream σ] {c d : Channel σ} {later plain plain' rest kept : Bytes}
  {todo' : List Message}

/-- What receiving leaves of the messages on their way, if it leaves them to be heard. -/
theorem of_advance
    (h : Flow { out with outbox := LosslessStream.ahead c.stream ++ later } c.session c.received
      todo)
    (hadvance : Advance later out.tail c plain d plain') (hvalid : ∀ m ∈ todo', m.validate = .ok ())
    (hhears : d.Hears later rest out.tail) (hframes : frames todo' = rest ++ kept)
    (hkept : d.session.sawEof = false → kept = []) :
    Flow { out with outbox := LosslessStream.ahead d.stream ++ later } d.session d.received
      todo' := by
  obtain ⟨rest', rfl, hrest'⟩ := hhears
  have hversion : d.session.version = c.session.version :=
    congrArg Session.Speaking.version hadvance.outward
  have hside : d.session.side = c.session.side := congrArg Session.Speaking.side hadvance.outward
  refine ⟨hversion.trans h.version, by rw [hside]; exact h.side, h.failure, hvalid, ?_,
    rest', kept, hrest', hframes, hkept⟩
  intro hclosed
  rcases hadvance.peerClosed hclosed with hpeer | hbye
  · exact h.goodbye hpeer
  · exact Session.Speaking.saidGoodbye_of_tail hbye

/-- A call of `recv` takes the first message off if it hands one out, and none otherwise.  There was no
message left if it finds nothing while nothing is ahead, or if it finds the flow closed in good
order. -/
theorem recv
    (h : Flow { out with outbox := LosslessStream.ahead c.stream ++ later } c.session c.received
      todo) (m : Message) :
    ∃ todo', Flow { out with outbox := LosslessStream.ahead (c.recv m).2.1.stream ++ later }
        (c.recv m).2.1.session (c.recv m).2.1.received todo' ∧
      (c.recv m).2.1.outward = c.outward ∧ (c.recv m).2.1.maxBodyLen = c.maxBodyLen ∧
      todo = (delivered? (c.recv m).1 (c.recv m).2.2).toList ++ todo' ∧
      ((c.recv m).1 = .ok .empty → LosslessStream.ahead c.stream ++ later = [] → todo = []) ∧
      ((c.recv m).1 = .ok .closed → (c.recv m).2.1.session.sawEof = false → todo = []) := by
  obtain ⟨rest, kept, hhears, htodo, hkept⟩ := h.carries
  have hears : c.Hears later (c.received ++ rest) out.tail := ⟨rest, rfl, hhears⟩
  obtain ⟨plain', hadvance, hanswers⟩ := recv_answers hears m
  obtain ⟨lost, hlost, hnolost⟩ := hadvance.lost
  rw [hlost, List.append_assoc] at htodo
  have hnone : (c.recv m).2.1.session.sawEof = false → lost ++ kept = [] := by
    intro heof
    have heof' : c.session.sawEof = false :=
      Bool.eq_false_iff.2 fun hseen => Bool.eq_false_iff.1 heof (hadvance.staysEof hseen)
    rw [hnolost (Or.inl heof), hkept heof', List.append_nil]
  have hahead := LosslessStream.ahead_of_reaches hadvance.reaches
  generalize lost ++ kept = gone at htodo hnone
  generalize c.recv m = call at hadvance hanswers hnone hahead ⊢
  obtain ⟨r, d, m'⟩ := call
  dsimp only at hadvance hanswers hnone hahead ⊢
  cases hanswers with
  | received hfront hrest =>
    have hframes := front_append_of_frame hfront gone
    rw [← htodo] at hframes
    obtain ⟨todo', rfl, htodo'⟩ := eq_cons_of_front_frames h.valid hframes
    exact ⟨todo', h.of_advance hadvance (fun m hm => h.valid m (List.mem_cons_of_mem _ hm)) hrest
      htodo' hnone, hadvance.outward, hadvance.maxBodyLen, rfl, fun he => (by cases he),
      fun he => (by cases he)⟩
  | bad hfront hrest =>
    exact ⟨todo, h.of_advance hadvance h.valid hrest htodo hnone, hadvance.outward,
      hadvance.maxBodyLen, rfl, fun he => (by cases he), fun he => (by cases he)⟩
  | closed hfront hended hrest =>
    have hall : d.session.sawEof = false → todo = [] := by
      intro heof
      rw [hnone heof, List.append_nil] at htodo
      rw [← htodo] at hfront
      exact eq_nil_of_front_frames h.valid hfront
    refine ⟨todo, h.of_advance hadvance h.valid hrest (List.nil_append (frames todo)).symm ?_,
      hadvance.outward, hadvance.maxBodyLen, rfl, fun he => (by cases he), fun _ => hall⟩
    intro heof
    rw [hall heof, frames_nil]
  | empty hfront hnothing hopen hkind hrefuses hrest =>
    refine ⟨todo, h.of_advance hadvance h.valid hrest htodo hnone, hadvance.outward,
      hadvance.maxBodyLen, rfl, fun _ hquiet => ?_, fun he => (by cases he)⟩
    obtain ⟨hstream, rfl⟩ := List.append_eq_nil_iff.1 hquiet
    rw [hstream, List.suffix_nil] at hahead
    obtain ⟨hplain, -⟩ := hrest.eq_received_of_open hopen hnothing
      (by rw [hahead, List.append_nil])
    rw [Session.ended, Bool.or_eq_false_iff] at hopen
    rw [← hplain] at hfront
    rw [hnone hopen.2, List.append_nil] at htodo
    rw [← htodo] at hfront
    exact eq_nil_of_front_frames h.valid hfront
  | refused _ _ _ hrest =>
    exact ⟨todo, h.of_advance hadvance h.valid hrest htodo hnone, hadvance.outward,
      hadvance.maxBodyLen, rfl, fun he => (by cases he), fun he => (by cases he)⟩

end Receiving

end Flow

end Channel

end PinnedLink
