import PinnedLink.Proofs.Channel.Whole

/-!
# What a channel has put on its stream

`Spoken` keeps account of one end of a connection by itself: `wire` is all that the stream has ever taken
of it, whoever has read it since, and with what still waits for the stream it carries the plaintext that
the end was given.  Every operation puts what its stream takes behind `wire` and the frame that it gives
behind the plaintext (`Spoken.act`).

So the other end opens a part of that plaintext (`Spoken.opened_prefix`), and all of it once nothing waits
for the stream (`Spoken.opened_eq`).
-/

namespace PinnedLink

open PinnedLink.Frame (Message)
open Session (Speaking Version Side opened)
open ByteStream (Reaches)
open LosslessStream (sent since)

/-- What is added goes behind whatever was said. -/
theorem Session.Speaking.Adds.rebase {out out' : Speaking} {plain : Bytes} (h : out.Adds plain out') :
    ∃ more, out'.outbox = out.outbox ++ more ∧ ∀ start,
      ({ out with outbox := start } : Speaking).Adds plain { out' with outbox := start ++ more } := by
  cases h with
  | nothing failure =>
    refine ⟨[], (List.append_nil _).symm, fun start => ?_⟩
    rw [List.append_nil]
    exact .nothing failure
  | @data count wire _ h =>
    refine ⟨wire, rfl, fun start => ?_⟩
    exact @Adds.data { out with outbox := start } _ _ _ h
  | alert level code failure => exact ⟨_, rfl, fun start => .alert level code failure⟩

namespace Channel

variable {σ : Type}

/-! ## What an operation does to the stream -/

section Reaching

variable [ByteStream σ]

theorem drainBlocking_reaches (c : Channel σ) : Reaches c.stream c.drainBlocking.2.stream := by
  have hwait : Reaches c.stream (ByteStream.setBlocking c.stream true).2 := .setBlocking .refl true
  rcases drainBlocking_snd c with h | h
  · rw [h]
    exact hwait
  · have hflush := flush_reaches { c with stream := (ByteStream.setBlocking c.stream true).2 }
    rw [h]
    exact .setBlocking (hwait.trans hflush) false

theorem send_reaches (c : Channel σ) (m : Message) : Reaches c.stream (c.send m).2.stream := by
  have hflush := flush_reaches (c.queue m).2
  rw [stream_queue] at hflush
  rcases send_snd c m with h | h | h
  · rw [h, stream_queue]
    exact .refl
  · rw [h]
    exact hflush
  · rw [h]
    exact hflush.trans (drainBlocking_reaches _)

theorem trySend_reaches (c : Channel σ) (m : Message) : Reaches c.stream (c.trySend m).2.stream := by
  have hflush := flush_reaches (c.queue m).2
  rw [stream_queue] at hflush
  rcases trySend_snd c m with h | h
  · rw [h, stream_queue]
    exact .refl
  · rw [h]
    exact hflush

theorem readFrom_reaches (s : Session) (io : σ) : Reaches io (s.readFrom io).2.2 := by
  unfold Session.readFrom
  split
  · exact .refl
  · split
    · exact .refl
    · dsimp only
      split
      · rename_i hread
        exact .of_read hread
      · rename_i hread
        exact .of_read hread

theorem pull_reaches {c d : Channel σ} {r : Except TransportError Pull} (h : c.pull = (r, d)) :
    Reaches c.stream d.stream := by
  have hreads := readFrom_reaches c.session c.stream
  cases pull_pulls h with
  | handed => exact .refl
  | exhausted => exact .refl
  | refused _ _ hread =>
    rw [hread] at hreads
    exact hreads
  | @opened n s t stream failure _ _ hread _ =>
    have hflush := flush_reaches { c with session := t, stream }
    rw [hread] at hreads
    exact hreads.trans hflush

theorem recv_reaches (c : Channel σ) (m : Message) : Reaches c.stream (c.recv m).2.1.stream := by
  refine recv_induction m (motive := fun c _ d _ => Reaches c.stream d.stream)
    ?bad ?frame ?failed ?idle ?eof ?progress c
  case bad => exact fun _ _ _ => .refl
  case frame => exact fun _ _ _ _ => .refl
  case failed => exact fun _ _ _ _ hpull => pull_reaches hpull
  case idle => exact fun _ _ _ hpull => pull_reaches hpull
  case eof => exact fun c d _ hpull => pull_reaches (d := d) hpull
  case progress => exact fun _ _ _ _ _ _ hpull ih => (pull_reaches hpull).trans ih

theorem Act.run_reaches (c : Channel σ) (own : Message) (a : Act) :
    Reaches c.stream (a.run c own).1.stream := by
  cases a with
  | send m => exact send_reaches c m
  | trySend m => exact trySend_reaches c m
  | flush => exact flush_reaches c
  | recv => exact recv_reaches c own
  | shutdown => exact flush_reaches { c with session := c.session.closeNotify }
  | own m => exact .refl

end Reaching

/-! ## What has been said on a stream -/

variable [LosslessStream σ] {c d : Channel σ} {version : Version} {side : Side} {wire plain : Bytes}

/-- A channel with nothing left for its stream has nothing left either once an operation has added
nothing. -/
theorem drained_of_outward_eq (hdrained : c.session.outbox = []) (hreaches : Reaches c.stream d.stream)
    (hsame : d.outward = c.outward) : d.session.outbox = [] := by
  have houtbox : sent d.stream ++ d.session.outbox = sent c.stream ++ c.session.outbox :=
    congrArg Speaking.outbox hsame
  rw [LosslessStream.sent_eq_append_since (LosslessStream.sent_of_reaches hreaches), hdrained,
    List.append_assoc] at houtbox
  exact (List.append_eq_nil_iff.1 (List.append_cancel_left houtbox)).2

/-- All that the stream has taken of a channel is `wire`, and with what still waits for the stream it
carries the plaintext `plain`, and then nothing or an alert. -/
def Spoken (c : Channel σ) (version : Version) (side : Side) (wire plain : Bytes) : Prop :=
  ({ c.session.speaking with outbox := wire ++ c.session.outbox } : Speaking).Said version side []
    plain

namespace Spoken

omit [LosslessStream σ] in
/-- A channel that was just made has said nothing. -/
theorem new (version : Version) (side : Side) (stream : σ) (maxBodyLen : Nat) :
    (Channel.new (.established version side) stream maxBodyLen).Spoken version side [] [] :=
  ⟨rfl, rfl, 0, [], [], rfl, .nil 0, .inl ⟨rfl, rfl, rfl⟩⟩

/-- What is added goes behind what was said, as far as the stream takes it. -/
theorem adds (h : c.Spoken version side wire plain) {more : Bytes}
    (hadds : c.outward.Adds more d.outward) (hreaches : Reaches c.stream d.stream) :
    d.Spoken version side (wire ++ since c.stream d.stream)
      (plain ++ if c.session.saidGoodbye then [] else more) := by
  obtain ⟨behind, houtbox, hrebased⟩ := hadds.rebase
  have hsent := LosslessStream.sent_eq_append_since (LosslessStream.sent_of_reaches hreaches)
  have hmoved : c.session.outbox ++ behind = since c.stream d.stream ++ d.session.outbox := by
    simp only [outward, hsent, List.append_assoc] at houtbox
    exact List.append_cancel_left houtbox.symm
  have hsaid := Session.Speaking.Said.adds h (hrebased (wire ++ c.session.outbox))
  rw [List.append_assoc, hmoved, ← List.append_assoc] at hsaid
  exact hsaid

/-- An operation puts the frame of the message that it gives behind what was said. -/
theorem act (h : c.Spoken version side wire plain) (own : Message) (a : Act) :
    (a.run c own).1.Spoken version side (wire ++ since c.stream (a.run c own).1.stream)
      (plain ++ if c.session.saidGoodbye then [] else frames (a.gives? c).toList) :=
  h.adds (Act.run_adds c own a) (Act.run_reaches c own a)

omit [LosslessStream σ] in
/-- The other end opens a part of what was said. -/
theorem opened_prefix (h : c.Spoken version side wire plain) : opened version side wire <+: plain := by
  obtain ⟨all, hall, hopens⟩ := Session.Speaking.Said.opens h
  obtain ⟨left, hplain, -⟩ := hopens wire c.session.outbox hall
  exact ⟨left, hplain.symm⟩

omit [LosslessStream σ] in
/-- Once nothing waits for the stream, the other end opens all of it. -/
theorem opened_eq (h : c.Spoken version side wire plain) (hdrained : c.session.outbox = []) :
    opened version side wire = plain := by
  obtain ⟨all, hall, hopens⟩ := Session.Speaking.Said.opens h
  obtain ⟨left, hplain, hleft⟩ := hopens wire c.session.outbox hall
  rw [hplain, hleft hdrained, List.append_nil]

end Spoken

end Channel

end PinnedLink
