import PinnedLink.Proofs.Channel.Act
import PinnedLink.Proofs.Channel.Queueing
import PinnedLink.Proofs.Channel.Rejection
import PinnedLink.Proofs.Session.Saying

/-!
# Whole frames or nothing

A message that is sent goes to the session whole or not at all, whatever the stream does
(`SendsWhole`), and no other operation hands plaintext to the session (`Act.run_adds`).  So over a run
the plaintext that the other end opens is the frames of the messages that were taken before the
channel said its last (`Act.runAll_said`), and each of them decodes to its message
(`takeFrame_encode_append`).  A channel whose session has failed takes no message, not even one that
it admits.
-/

namespace PinnedLink

open PinnedLink.Frame (Message)
open Session (Speaking)
open Schedule (putBack)

namespace Session.Speaking

/-- What is added behind something is added behind anything. -/
theorem Adds.behind {out out' : Speaking} {plain : Bytes} (h : out.Adds plain out')
    (start : Bytes) :
    ({ out with outbox := start ++ out.outbox } : Speaking).Adds plain
      { out' with outbox := start ++ out'.outbox } := by
  cases h with
  | nothing failure => exact .nothing failure
  | data h =>
    have hadds := @Adds.data { out with outbox := start ++ out.outbox } _ _ _ h
    simp only [List.append_assoc] at hadds
    exact hadds
  | alert level code failure =>
    have hadds := @Adds.alert { out with outbox := start ++ out.outbox } level code failure
    simp only [List.append_assoc] at hadds
    exact hadds

end Session.Speaking

namespace Channel

variable {σ : Type} [LosslessStream σ]

/-! ## What operations add to what was said -/

/-- What a session adds its channel adds. -/
theorem outward_adds {c : Channel σ} {s : Session} {plain : Bytes}
    (h : c.session.speaking.Adds plain s.speaking) :
    c.outward.Adds plain ({ c with session := s } : Channel σ).outward :=
  h.behind (LosslessStream.sent c.stream)

theorem outward_of_speaking {c : Channel σ} {s : Session} (h : s.speaking = c.session.speaking) :
    ({ c with session := s } : Channel σ).outward = c.outward :=
  congrArg (fun out : Speaking => { out with outbox := LosslessStream.sent c.stream ++ out.outbox })
    h

theorem readFrom_outward {c : Channel σ} {r : Except IoError Nat} {s : Session} {stream : σ}
    (h : c.session.readFrom c.stream = (r, s, stream)) :
    ({ c with session := s, stream } : Channel σ).outward = c.outward := by
  unfold Session.readFrom at h
  split at h
  · cases h
    rfl
  · split at h
    · cases h
      rfl
    · dsimp only at h
      split at h
      all_goals
        rename_i hread
        cases h
        simp only [outward, Session.speaking, LosslessStream.sent_of_read hread]

/-- A pull adds nothing, or the alert for what it refuses. -/
theorem pull_adds {c d : Channel σ} {r : Except TransportError Pull} (h : c.pull = (r, d)) :
    c.outward.Adds [] d.outward ∧ (∀ p, r = .ok p → d.outward = c.outward) := by
  cases pull_pulls h with
  | handed => exact ⟨.refl _, fun _ _ => rfl⟩
  | exhausted => exact ⟨.refl _, fun _ _ => rfl⟩
  | refused _ _ hread =>
    rw [readFrom_outward hread]
    exact ⟨.refl _, fun _ _ => rfl⟩
  | @opened n s t stream failure hnone hopen hread hreceive =>
    obtain ⟨hadds, hsame⟩ := Session.receive_adds s
    rw [hreceive] at hadds hsame
    rw [flush_outward, ← readFrom_outward hread]
    refine ⟨outward_adds (c := { c with session := s, stream }) hadds, fun _ hr => ?_⟩
    cases failure with
    | none => exact outward_of_speaking (c := { c with session := s, stream }) (hsame rfl)
    | some e => cases hr

/-- A call of `recv` adds nothing, or one alert. -/
theorem recv_adds (c : Channel σ) (m : Message) : c.outward.Adds [] (c.recv m).2.1.outward := by
  refine recv_induction m (motive := fun c _ d _ => c.outward.Adds [] d.outward)
    ?bad ?frame ?failed ?idle ?eof ?progress c
  case bad => exact fun c _ _ => .refl c.outward
  case frame => exact fun c _ _ _ => .refl c.outward
  case failed => exact fun c d _ _ hpull => (pull_adds hpull).1
  case idle => exact fun c d _ hpull => (pull_adds hpull).1
  case eof => exact fun c d _ hpull => (pull_adds hpull).1
  case progress =>
    intro c d _ f _ _ hpull ih
    rw [← (pull_adds hpull).2 _ rfl]
    exact ih

/-- A call of `recv` that does not fail adds nothing. -/
theorem recv_outward_of_ok (c : Channel σ) (m : Message) :
    ∀ outcome, (c.recv m).1 = .ok outcome → (c.recv m).2.1.outward = c.outward := by
  refine recv_induction m (motive := fun c r d _ => ∀ outcome, r = .ok outcome →
    d.outward = c.outward) ?bad ?frame ?failed ?idle ?eof ?progress c
  case bad => exact fun c e _ _ h => by cases h
  case frame => exact fun c _ _ _ _ _ => rfl
  case failed => exact fun c d e _ _ _ h => by cases h
  case idle => exact fun c d _ hpull _ _ => (pull_adds hpull).2 _ rfl
  case eof => exact fun c d _ hpull _ _ => (pull_adds hpull).2 _ rfl
  case progress =>
    exact fun c d r f m' _ hpull ih outcome h => (ih outcome h).trans ((pull_adds hpull).2 _ rfl)

/-! ## What operations give -/

/-- The message that an operation gives to the session of a channel. -/
def Act.gives? (c : Channel σ) : Act → Option Message
  | .send m | .trySend m => if c.Accepts m then some m else none
  | _ => none

omit [LosslessStream σ] in
/-- An operation that sends a message gives that message or none. -/
theorem Act.prefix_gives? (c : Channel σ) (m : Message) :
    ((Act.send m).gives? c).toList <+: [m] := by
  rw [gives?]
  split
  · exact List.prefix_rfl
  · exact List.nil_prefix

/-- The messages that a run gives to the session before the channel has said its last. -/
def Act.given (c : Channel σ) (own : Message) : List Act → List Message
  | [] => []
  | a :: acts =>
    (if c.session.saidGoodbye then [] else (a.gives? c).toList) ++
      given (a.run c own).1 (a.run c own).2 acts

/-- A message that is queued is given whole or not at all. -/
theorem queue_adds (c : Channel σ) (m : Message) :
    c.outward.Adds (frames ((Act.send m).gives? c).toList) (c.queue m).2.outward := by
  by_cases haccepts : c.Accepts m
  · obtain ⟨session, hsend, hqueue⟩ := queue_of_accepts haccepts
    rw [hqueue, Act.gives?, if_pos haccepts, Option.toList_some, frames_cons, frames_nil,
      List.append_nil]
    exact outward_adds (Session.send?_adds hsend).1
  · obtain ⟨e, hqueue⟩ := queue_of_not_accepts haccepts
    rw [hqueue, Act.gives?, if_neg haccepts]
    exact .refl _

/-- An operation adds the frame of the message that it gives, or nothing, or an alert. -/
theorem Act.run_adds (c : Channel σ) (own : Message) (a : Act) :
    c.outward.Adds (frames (a.gives? c).toList) (a.run c own).1.outward := by
  cases a with
  | send m =>
    rw [Act.run, send_outward]
    exact queue_adds c m
  | trySend m =>
    rw [Act.run, trySend_outward]
    exact queue_adds c m
  | flush =>
    rw [Act.run, flush_outward]
    exact .refl _
  | recv => exact recv_adds c own
  | shutdown =>
    rw [Act.run, shutdown_outward]
    exact outward_adds (Session.closeNotify_adds c.session)
  | own m => exact .refl _

/-- A run says the frames of the messages that it gives, behind what was said before. -/
theorem Act.runAll_said {c : Channel σ} {version : Session.Version} {side : Session.Side}
    {start : Bytes} {before : List Message} (h : c.outward.Said version side start (frames before))
    (own : Message) (acts : List Act) :
    (Act.runAll c own acts).1.outward.Said version side start
      (frames (before ++ Act.given c own acts)) := by
  induction acts generalizing c own before with
  | nil =>
    rw [Act.given, List.append_nil]
    exact h
  | cons a acts ih =>
    have hstep := h.adds (Act.run_adds c own a)
    rw [Act.given, ← List.append_assoc]
    have hframes : frames (before ++ if c.session.saidGoodbye then [] else (a.gives? c).toList) =
        frames before ++ if c.session.saidGoodbye then [] else frames (a.gives? c).toList := by
      rw [frames_append]
      split <;> rfl
    exact ih (hframes ▸ hstep) _

/-- The messages that a run gives are well formed. -/
theorem Act.valid_of_mem_given {c : Channel σ} {own m : Message} {acts : List Act}
    (h : m ∈ Act.given c own acts) : m.validate = .ok () := by
  induction acts generalizing c own with
  | nil => cases h
  | cons a acts ih =>
    rw [Act.given, List.mem_append] at h
    rcases h with h | h
    · split at h
      · cases h
      · cases a with
        | send m' | trySend m' =>
          rw [Act.gives?] at h
          split at h
          · rename_i haccepts
            rw [List.mem_singleton.1 h]
            exact haccepts.1.1
          · cases h
        | _ => cases h
    · exact ih h

/-- The frame of a message decodes to it, whatever follows and whatever message the caller brings. -/
theorem takeFrame_encode_append {maxBodyLen : Nat} {m : Message} (hvalid : m.validate = .ok ())
    (hle : m.bodyLen ≤ maxBodyLen) (rest : Bytes) (own : Message) :
    takeFrame maxBodyLen (m.encode ++ rest) own = (.ok (some m.bodyLen), rest, m) := by
  rw [takeFrame_eq, front_encode_append maxBodyLen hvalid, if_neg (Nat.not_lt.2 hle)]

/-! ## All or nothing -/

/-- What sending a message does to the session: nothing, or it takes the message whole. -/
structure SendsWhole (c : Channel σ) (m : Message) : Prop where
  /-- The lengths are judged first. -/
  mismatch : m.body.length ≠ m.bodyLen →
    c.send m = (.error (.malformedHeader (.lengthMismatch m.bodyLen m.body.length)), c) ∧
    c.trySend m = (.error (.malformedHeader (.lengthMismatch m.bodyLen m.body.length)), c)
  oversized : m.body.length = m.bodyLen → c.maxBodyLen < m.bodyLen →
    c.send m = (.error (.oversizedMessage m.bodyLen c.maxBodyLen), c) ∧
    c.trySend m = (.error (.oversizedMessage m.bodyLen c.maxBodyLen), c)
  /-- A session that has failed takes nothing more. -/
  refused : Admits c.maxBodyLen m → ∀ e, c.session.failure = some e →
    c.send m = (.error (.sendFailed (.session e)), c) ∧
    c.trySend m = (.error (.sendFailed (.session e)), c)
  /-- Any other session takes header and body, whatever the stream then takes, and nothing else of the
  channel changes. -/
  whole : c.Accepts m → ∃ session, c.session.send? (m.header.encode ++ m.body) = .ok session ∧
    ((c.send m).2.outward = ({ c with session } : Channel σ).outward ∧
      (c.send m).2.inward = c.inward) ∧
    (c.trySend m).2.outward = ({ c with session } : Channel σ).outward ∧
      (c.trySend m).2.inward = c.inward

theorem sendsWhole (c : Channel σ) (m : Message) : SendsWhole c m where
  mismatch h := send_of_queue_error (queue_of_mismatch h)
  oversized h hlarge := send_of_queue_error (queue_of_oversized h hlarge)
  refused h _ he := send_of_queue_error (queue_of_failure h he)
  whole h := by
    obtain ⟨session, hsend, hqueue⟩ := queue_of_accepts h
    have hinward : (c.queue m).2.inward = c.inward := by
      rw [hqueue]
      exact inward_eq_iff.2 ⟨(Session.send?_adds hsend).2, rfl, rfl, rfl⟩
    refine ⟨session, hsend, ⟨?_, (send_inward c m).trans hinward⟩, ?_,
      (trySend_inward c m).trans hinward⟩
    · rw [send_outward, hqueue]
    · rw [trySend_outward, hqueue]

/-- A channel sends a message whole or not at all.  So whatever is done with a channel, of all that it
has put out the other end opens just the frames of the messages that were given to its session, a part
of them if a part has arrived, and each frame decodes to its message where it is within the bound. -/
theorem gives_whole_frames :
    (∀ (c : Channel σ) (m : Message), SendsWhole c m) ∧
    ∀ (version : Session.Version) (side : Session.Side) (stream : σ) (maxBodyLen : Nat)
      (own : Message) (acts : List Act),
      let c := Channel.new (Session.established version side) stream maxBodyLen
      (∃ wire, (Act.runAll c own acts).1.outward.outbox = LosslessStream.sent stream ++ wire ∧
        ∀ arrived ahead, arrived ++ ahead = wire →
          ∃ left, frames (Act.given c own acts) = Session.opened version side arrived ++ left ∧
            (ahead = [] → left = [])) ∧
      ∀ m ∈ Act.given c own acts, ∀ bound, m.bodyLen ≤ bound → ∀ rest mine,
        takeFrame bound (m.encode ++ rest) mine = (.ok (some m.bodyLen), rest, m) := by
  refine ⟨sendsWhole, fun version side stream maxBodyLen own acts => ⟨?_, ?_⟩⟩
  · have hfresh : (Channel.new (Session.established version side) stream
        maxBodyLen).outward.Said version side (LosslessStream.sent stream) (frames []) :=
      ⟨rfl, rfl, 0, [], [], rfl, .nil 0, Or.inl ⟨rfl, rfl, rfl⟩⟩
    exact (Act.runAll_said hfresh own acts).opens
  · exact fun m hm bound hle rest mine =>
      takeFrame_encode_append (Act.valid_of_mem_given hm) hle rest mine

/-- A channel that has received bytes that cannot become a record. -/
def afterGarbage : Channel Schedule :=
  ((new (.established .tls13 .server) (bringing (putBack garbage [])) 16).recv (.new 0)).2.1

theorem failure_afterGarbage :
    afterGarbage.session.failure = some garbled ∧ afterGarbage.maxBodyLen = 16 := by
  let s := Session.established .tls13 .server
  let c := new s (bringing (putBack garbage [])) 16
  have hread : c.stream.read (s.nextRoom - s.inbox.length) = (.ok garbage, bringing []) :=
    Schedule.read_putBack rfl (List.cons_ne_nil _ _) (by decide)
  obtain ⟨t, ht, hfailure, -⟩ := Session.openRecords_of_rejection (e := garbled)
    (s := { s with
      inboxRoom := s.nextRoom, inbox := s.inbox ++ garbage, sawEof := garbage.isEmpty }) rfl
  have hpull : c.pull = (.error (.recvFailed (.session garbled)),
      (flush { c with session := t, stream := bringing [] }).2) := pull_of_read rfl rfl rfl hread ht
  have hafter : afterGarbage = (flush { c with session := t, stream := bringing [] }).2 := by
    have hfront : front c.maxBodyLen c.received = .unfinished := rfl
    show (c.recv (.new 0)).2.1 = _
    rw [recv_eq, hfront, hpull]
  have hinward := flush_inward { c with session := t, stream := bringing [] }
  rw [← hafter] at hinward
  exact ⟨(congrArg (fun i => i.session.failure) hinward).trans hfailure,
    congrArg Inward.maxBodyLen hinward⟩

/-- A message whose lengths agree and are within the bound, and that a channel refuses all the same:
its session has failed. -/
theorem admitted_and_refused :
    Admits afterGarbage.maxBodyLen ping ∧ afterGarbage.session.send? ping.encode = .error garbled ∧
      afterGarbage.send ping = (.error (.sendFailed (.session garbled)), afterGarbage) ∧
      afterGarbage.trySend ping = (.error (.sendFailed (.session garbled)), afterGarbage) := by
  obtain ⟨hfailure, hmax⟩ := failure_afterGarbage
  have hadmits : Admits afterGarbage.maxBodyLen ping := by
    rw [hmax]
    decide
  exact ⟨hadmits, by rw [Session.send?, hfailure],
    send_of_queue_error (queue_of_failure hadmits hfailure)⟩

end Channel

end PinnedLink
