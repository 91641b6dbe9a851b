import PinnedLink.Proofs.Echo.Returning

/-!
# Conversations

A conversation of a caller and a listener is a list of turns in any order: either of them takes a step,
or the connection drifts, so that the next calls move more or fewer bytes, have to wait or fail.  The
`Minutes` of a meeting record, from the steps themselves, what its listener has received, sent back and
put on the connection, and what its caller has received.

`Minutes.Agree` ties what both have done to what is on its way between them.  It holds when they begin
and each turn keeps it (`Agree.turn`), so it holds after any conversation (`Agree.run`), and the minutes
are then those of a faithful echo (`Minutes.Faithful`, `Agree.faithful`).
-/

namespace PinnedLink.Echo

open PinnedLink.Frame (Message)
open Channel (Talk frames)
open LosslessStream (sent since)
open Session (opened)
open Transport (Surroundings secured secured_runs)

variable {σ : Type} [LosslessDuplex σ]

/-- What happens next. -/
inductive Turn (σ : Type) [LosslessStream σ] where
  | caller
  | listener
  | drift (d : Drift σ)

/-- A meeting with what its listener has received and sent back, the bytes that it has put on the
connection, and what its caller has received. -/
structure Minutes (σ : Type) where
  meeting : Meeting σ
  heard : List Message
  returned : List Message
  wire : Bytes
  answers : List Message

namespace Minutes

/-- Nothing has been said yet. -/
def blank (m : Meeting σ) : Minutes σ :=
  { meeting := m, heard := [], returned := [], wire := [], answers := [] }

/-- The minutes after a turn. -/
def turn (μ : Minutes σ) : Turn σ → Minutes σ
  | .caller =>
    let m := μ.meeting.callerStep
    { μ with
      meeting := m
      answers := μ.answers ++ (μ.meeting.caller.received? m.caller).toList }
  | .listener =>
    let m := μ.meeting.listenerStep
    { μ with
      meeting := m
      heard := μ.heard ++ (μ.meeting.listener.received? m.listener).toList
      returned := μ.returned ++ (μ.meeting.listener.returned? m.listener).toList
      wire := μ.wire ++ since (Duplex.flip μ.meeting.view) (Duplex.flip m.view) }
  | .drift d => { μ with meeting := { μ.meeting with view := d.change μ.meeting.view } }

/-- The minutes after a conversation. -/
def run (μ : Minutes σ) (turns : List (Turn σ)) : Minutes σ := turns.foldl turn μ

variable {μ : Minutes σ} {version : Session.Version} {texts : List String}

/-- What both sides have done is what is on its way between them. -/
structure Agree (version : Session.Version) (texts : List String) (μ : Minutes σ) : Prop where
  echoed : μ.meeting.listener.echoed = μ.returned.length
  printed : μ.answers = μ.meeting.caller.printed.map carrying
  wrote : μ.meeting.listener.Wrote version μ.wire μ.heard μ.returned
  talk : ∃ a b up down, Talk a b μ.meeting.view up down ∧
    μ.meeting.caller.At texts a (μ.heard ++ up) ∧
    μ.meeting.listener.At b μ.heard (μ.answers ++ down) μ.returned

/-- The bytes that the minutes record of a step of the listener are what the step puts on the
connection. -/
theorem listenerStep_wrote {m : Meeting σ} {b : Channel σ} {wire : Bytes}
    {heard replied returned : List Message} (hat : m.listener.At b heard replied returned)
    (h : m.listener.Wrote version wire heard returned) :
    m.listenerStep.listener.Wrote version
      (wire ++ since (Duplex.flip m.view) (Duplex.flip m.listenerStep.view))
      (heard ++ (m.listener.received? m.listenerStep.listener).toList)
      (returned ++ (m.listener.returned? m.listenerStep.listener).toList) := by
  have hleaves : sent (Duplex.flip m.listenerStep.view) = sent (m.listenerStep.listener.transport.leaves
      ((m.listener.inView (Duplex.flip m.view)).step (Wire.mk (Duplex.flip m.view))).2) :=
    (LosslessDuplex.sent_flip _).trans (LosslessDuplex.ahead_flip _)
  rw [LosslessStream.since_congr hleaves]
  exact Listener.step_wrote rfl hat h

theorem Agree.turn (h : μ.Agree version texts) (next : Turn σ) :
    (μ.turn next).Agree version texts := by
  obtain ⟨a, b, up, down, htalk, hcaller, hlistener⟩ := h.talk
  cases next with
  | caller =>
    obtain ⟨hprinted, a', up', down', htalk', hcaller', hreplied⟩ :=
      Caller.step_keeps htalk hcaller (h.printed ▸ rfl) hlistener.prefix_replied
    rw [← h.printed] at hprinted hreplied
    refine ⟨h.echoed, hprinted, h.wrote, a', b, up', down', htalk', hcaller', ?_⟩
    exact hreplied ▸ hlistener
  | listener =>
    obtain ⟨hechoed, b', up', down', htalk', hasked, hlistener'⟩ :=
      Listener.step_keeps rfl htalk.flip hlistener h.echoed rfl
    refine ⟨hechoed, h.printed, listenerStep_wrote hlistener h.wrote, a, b', up', down', htalk'.flip, ?_, hlistener'⟩
    exact hasked ▸ hcaller
  | drift d =>
    exact ⟨h.echoed, h.printed, h.wrote, a, b, up, down,
      htalk.congr (d.sent_change _) (d.ahead_change _), hcaller, hlistener⟩

theorem Agree.run (h : μ.Agree version texts) (turns : List (Turn σ)) :
    (μ.run turns).Agree version texts := by
  induction turns generalizing μ with
  | nil => exact h
  | cons next turns ih => exact ih (h.turn next)

/-! ## What the minutes say -/

/-- The lines of a caller are the first of its texts. -/
theorem Agree.prefix_printed (h : μ.Agree version texts) : μ.meeting.caller.printed <+: texts := by
  obtain ⟨a, b, up, down, -, hcaller, -⟩ := h.talk
  cases hcaller with
  | sending _ _ htexts _ => exact htexts ▸ List.prefix_append _ _
  | awaiting _ _ _ htexts _ => exact htexts ▸ List.prefix_append _ _
  | finished _ _ htexts _ => exact htexts ▸ List.prefix_refl _
  | failed _ _ _ htexts _ => exact htexts

/-- A listener has received the first of the texts. -/
theorem Agree.prefix_heard (h : μ.Agree version texts) : μ.heard <+: texts.map carrying := by
  obtain ⟨a, b, up, down, -, hcaller, -⟩ := h.talk
  refine (List.prefix_append μ.heard up).trans ?_
  cases hcaller with
  | sending _ _ htexts hasked =>
    rw [hasked, htexts, List.map_append]
    exact List.prefix_append _ _
  | awaiting text _ _ htexts hasked =>
    have hmap := (Caller.prefix_of_texts htexts).map carrying
    rw [List.map_append] at hmap
    exact hasked ▸ hmap
  | finished _ _ htexts hasked => exact hasked ▸ htexts ▸ List.prefix_refl _
  | failed _ _ _ _ hasked => exact hasked

/-- A listener has sent back what it has received, except for the message in hand. -/
theorem Agree.heard_returned (h : μ.Agree version texts) :
    μ.heard = μ.returned ∨ μ.heard = μ.returned ++ [μ.meeting.listener.message] ∧
      μ.meeting.listener.stage ≠ .asking ∧ μ.meeting.listener.stage ≠ .finished := by
  obtain ⟨a, b, up, down, -, -, hlistener⟩ := h.talk
  cases hlistener with
  | asking _ _ _ hreturned => exact .inl hreturned.symm
  | holding hstage _ hheard hreturned =>
    refine .inr ⟨hreturned ▸ hheard, ?_⟩
    rw [hstage]
    decide
  | finished _ _ _ hreturned => exact .inl hreturned.symm
  | failed e hstage _ _ hheard =>
    refine hheard.imp_right fun hheard => ⟨hheard, ?_⟩
    rw [hstage]
    exact ⟨nofun, nofun⟩

/-- A caller receives what its listener has received, in order. -/
theorem Agree.prefix_answers (h : μ.Agree version texts) : μ.answers <+: μ.heard := by
  obtain ⟨a, b, up, down, -, -, hlistener⟩ := h.talk
  exact (List.prefix_append _ _).trans hlistener.prefix_replied

/-- A caller that has finished has printed all its texts, and they are what its listener has
received. -/
theorem Agree.of_finished (h : μ.Agree version texts) (hstage : μ.meeting.caller.stage = .finished) :
    μ.meeting.caller.printed = texts ∧ μ.heard = texts.map carrying := by
  obtain ⟨a, b, up, down, -, hcaller, hlistener⟩ := h.talk
  cases hcaller with
  | finished _ _ htexts _ =>
    have hanswers : μ.answers = texts.map carrying := by rw [h.printed, ← htexts]
    have hlen := h.prefix_answers.length_le
    exact ⟨htexts.symm, h.prefix_heard.eq_of_length_le (hanswers ▸ hlen)⟩
  | sending hother _ _ _ => cases hstage.symm.trans hother
  | awaiting _ hother _ _ _ => cases hstage.symm.trans hother
  | failed _ hother _ _ _ => cases hstage.symm.trans hother

omit [LosslessDuplex σ] in
/-- The first texts of a list as the lines that they are printed as. -/
theorem output_eq_join {c : Caller σ} (h : c.printed <+: texts) :
    c.output = String.join ((texts.take c.printed.length).map fun text => text ++ "\n") := by
  rw [Caller.output, ← List.prefix_iff_eq_take.1 h]

/-- The minutes are those of a faithful echo of the texts. -/
structure Faithful (version : Session.Version) (texts : List String) (μ : Minutes σ) : Prop where
  /-- The caller has printed the first of its texts, one a line. -/
  printed : ∃ n, μ.meeting.caller.output =
    String.join ((texts.take n).map fun text => text ++ "\n")
  /-- The listener has received the messages of the first texts. -/
  heard : μ.heard <+: texts.map carrying
  /-- It has sent back what it has received, except for the message in hand. -/
  returned : μ.heard = μ.returned ∨ μ.heard = μ.returned ++ [μ.meeting.listener.message] ∧
    μ.meeting.listener.stage ≠ .asking ∧ μ.meeting.listener.stage ≠ .finished
  echoed : μ.meeting.listener.echoed = μ.returned.length
  /-- What it has put on the connection opens to the frames of what it has sent back, and then at most
  to a part of the frame in hand. -/
  carried : frames μ.returned <+: opened version .server μ.wire ∧
    opened version .server μ.wire <+: frames μ.heard
  /-- The caller has received what the listener has, in order, and printed the texts that it carries. -/
  answers : μ.answers <+: μ.heard
  shown : μ.answers = μ.meeting.caller.printed.map carrying
  /-- A caller that has finished has printed all its texts, and a listener that has finished as well
  reports their number. -/
  finished : μ.meeting.caller.stage = .finished →
    μ.meeting.caller.output = String.join (texts.map fun text => text ++ "\n") ∧
      (μ.meeting.listener.stage = .finished →
        μ.meeting.listener.report = s!"Peer closed after {texts.length} message(s)")

theorem Agree.faithful (h : μ.Agree version texts) : μ.Faithful version texts where
  printed := ⟨_, output_eq_join h.prefix_printed⟩
  heard := h.prefix_heard
  returned := h.heard_returned
  echoed := h.echoed
  carried := by
    refine h.wrote.opened ?_
    rcases h.heard_returned with hall | ⟨hhand, -⟩
    · exact hall ▸ List.prefix_rfl
    · exact hhand ▸ List.prefix_append _ _
  answers := h.prefix_answers
  shown := h.printed
  finished := by
    intro hfinished
    obtain ⟨hprinted, hheard⟩ := h.of_finished hfinished
    refine ⟨by rw [Caller.output, hprinted], fun hover => ?_⟩
    have hreturned : μ.heard = μ.returned :=
      h.heard_returned.resolve_right fun hhand => hhand.2.2 hover
    have hlen : μ.meeting.listener.echoed = texts.length := by
      rw [h.echoed, ← hreturned, hheard, List.length_map]
    unfold Listener.report
    rw [hlen]

/-! ## From the handshake on -/

/-- A caller and a listener that have just shaken hands agree. -/
theorem Agree.start (caller listener : Transport σ) (version : Session.Version)
    (aroundCaller aroundListener : Surroundings σ) (texts : List String) :
    (blank (.start (secured caller version .client aroundCaller)
      (secured listener version .server aroundListener) texts)).Agree version texts :=
  { echoed := rfl
    printed := rfl
    wrote := .working rfl rfl (.new version .server aroundListener.stream _)
    talk := ⟨_, _, [], [], Talk.fresh version _ _ _ _,
      .sending rfl (secured_runs caller version .client aroundCaller) rfl rfl,
      .asking rfl (secured_runs listener version .server aroundListener) rfl rfl⟩ }

/-- After a handshake, whatever the bounds of the two transports and the chunks in which the connection
carries its bytes, and in whatever order they take their turns, the echo is faithful. -/
theorem faithful_of_secured (caller listener : Transport σ) (version : Session.Version)
    (aroundCaller aroundListener : Surroundings σ) (texts : List String) (turns : List (Turn σ)) :
    ((blank (.start (secured caller version .client aroundCaller)
      (secured listener version .server aroundListener) texts)).run turns).Faithful version texts :=
  ((Agree.start caller listener version aroundCaller aroundListener texts).run turns).faithful

end Minutes

end PinnedLink.Echo
