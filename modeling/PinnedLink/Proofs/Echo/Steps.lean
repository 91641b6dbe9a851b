import PinnedLink.Proofs.Transport.Talking

/-!
# Steps of a caller and of a listener

A caller and a listener are the two ends of a talk.  `heard` are the messages that the listener has
received so far and `replied` those that it has handed over to be sent back, so `heard ++ up` is what
the caller has asked and `replied` is what it has been answered followed by what is on its way to it.

`Caller.At` and `Listener.At` say what either of them has done when it is at a stage.  A step of the
caller keeps `heard` and `replied` and its own `At` (`Caller.step_keeps`); a step of the listener keeps
what it has been asked (`Listener.step_keeps`).  The caller has at most one question open, and that is
why the answer that it receives is the answer to that question.
-/

namespace PinnedLink.Echo

open PinnedLink.Frame (Message)
open Channel (Talk)
open Transport (Sends Receives)

/-! ## Texts as messages -/

/-- The message that carries a text. -/
def carrying (text : String) : Message :=
  { header := { kind := textKind, bodyLen := UInt32.ofNat (Text.utf8 text).length }
    body := Text.utf8 text }

theorem eq_carrying {text : String} {m : Message}
    (h : Message.withBody textKind (Text.utf8 text) = .ok m) : m = carrying text := by
  unfold Message.withBody at h
  split at h
  · cases h
    rfl
  · cases h

/-- An answer that carries a text is printed as that text. -/
theorem lossy_carrying (text : String) : Text.lossy (carrying text).body = text :=
  Text.lossy_utf8 text

variable {σ : Type} [LosslessDuplex σ] {a b : Channel σ} {view : σ} {wire : Wire σ}
  {texts : List String} {heard replied up down : List Message}

/-! ## The caller -/

namespace Caller

variable {c : Caller σ}

/-! What a caller does at each stage, with its view of the connection. -/

theorem step_of_done (h : c.stage = .sending) (hpending : c.pending = []) :
    (c.inView view).step wire = (c.inView view).stop .finished wire := by
  simp only [step, inView, h, hpending]

theorem step_of_sending (h : c.stage = .sending) {text : String} {pending : List String}
    (hpending : c.pending = text :: pending) :
    (c.inView view).step wire =
      ({ c.inView view with pending } : Caller σ).sendText text wire := by
  simp only [step, inView, h, hpending]

theorem step_of_awaiting {text : String} (h : c.stage = .awaiting text) :
    (c.inView view).step wire = (c.inView view).ask text wire := by
  simp only [step, inView, h]

theorem step_of_finished (h : c.stage = .finished) :
    (c.inView view).step wire = (c.inView view, wire) := by
  simp only [step, inView, h]

theorem step_of_failed {why : Failure} (h : c.stage = .failed why) :
    (c.inView view).step wire = (c.inView view, wire) := by
  simp only [step, inView, h]

/-- The message that a caller has received by a step that leaves it as `after`: it goes on to its next
text only once it has an answer. -/
def received? (c after : Caller σ) : Option Message :=
  match c.stage, after.stage with
  | .awaiting _, .sending => some after.reply
  | _, _ => none

omit [LosslessDuplex σ] in
/-- A caller that waited for no answer, or does not go on to its next text, has received nothing. -/
theorem append_received? {after : Caller σ}
    (h : (∀ text, c.stage ≠ .awaiting text) ∨ after.stage ≠ .sending) (answers : List Message) :
    answers ++ (c.received? after).toList = answers := by
  unfold received?
  split
  · rename_i hbefore hafter
    exact absurd hafter (h.resolve_left fun hnot => hnot _ hbefore)
  · exact List.append_nil answers

theorem stage_stop (c : Caller σ) (stage : Stage) (wire : Wire σ) :
    (c.stop stage wire).1.stage = stage := rfl

/-- Where a caller is that was given texts, with its end of the talk and what it has asked so far. -/
inductive At (texts : List String) (a : Channel σ) (asked : List Message) (c : Caller σ) : Prop
  | sending (stage : c.stage = .sending) (runs : c.transport.Runs a)
    (htexts : texts = c.printed ++ c.pending) (hasked : asked = c.printed.map carrying)
  | awaiting (text : String) (stage : c.stage = .awaiting text) (runs : c.transport.Runs a)
    (htexts : texts = c.printed ++ text :: c.pending)
    (hasked : asked = c.printed.map carrying ++ [carrying text])
  | finished (stage : c.stage = .finished) (gone : c.transport.channel = none)
    (htexts : texts = c.printed) (hasked : asked = c.printed.map carrying)
  | failed (why : Failure) (stage : c.stage = .failed why) (gone : c.transport.channel = none)
    (htexts : c.printed <+: texts) (hasked : asked <+: texts.map carrying)

/-- What a caller and its wire are like after a step that leaves it answered this, when the listener
has received and handed over that. -/
def Keeps (texts : List String) (b : Channel σ) (heard replied answered : List Message)
    (r : Caller σ × Wire σ) : Prop :=
  answered = r.1.printed.map carrying ∧
    ∃ a up down, Talk a b (r.1.transport.leaves r.2) up down ∧ r.1.At texts a (heard ++ up) ∧
      replied = answered ++ down

theorem stop_keeps {stage : Stage} (has : c.transport.Has b up down)
    (hreplied : replied = c.printed.map carrying ++ down)
    (hat : ∀ (a : Channel σ) (t : Transport σ), t.channel = none →
      ({ c with transport := t, stage } : Caller σ).At texts a (heard ++ up)) :
    Keeps texts b heard replied (c.printed.map carrying) (c.stop stage wire) := by
  obtain ⟨hgone, a, htalk⟩ := has.close wire
  exact ⟨rfl, a, up, down, htalk, hat a _ hgone, hreplied⟩

/-- A caller that fails has asked some of its texts, in order. -/
theorem fail_keeps {why : Failure} {text : String} (has : c.transport.Has b up down)
    (hreplied : replied = c.printed.map carrying ++ down) (htexts : c.printed ++ [text] <+: texts)
    (hasked : heard ++ up <+: c.printed.map carrying ++ [carrying text]) :
    Keeps texts b heard replied (c.printed.map carrying) (c.stop (.failed why) wire) := by
  refine stop_keeps has hreplied fun a t hgone => .failed why rfl hgone ?_ ?_
  · exact (List.prefix_append _ _).trans htexts
  · have hmap : (c.printed ++ [text]).map carrying <+: texts.map carrying := htexts.map carrying
    rw [List.map_append, List.map_singleton] at hmap
    exact hasked.trans hmap

omit [LosslessDuplex σ] in
/-- The text in hand is one of the texts. -/
theorem prefix_of_texts {text : String} (h : texts = c.printed ++ text :: c.pending) :
    c.printed ++ [text] <+: texts :=
  ⟨c.pending, by rw [h, List.append_assoc, List.singleton_append]⟩

theorem sendText_keeps {text : String} (live : c.transport.Live b up down)
    (hreplied : replied = c.printed.map carrying ++ down)
    (htexts : texts = c.printed ++ text :: c.pending)
    (hasked : heard ++ up = c.printed.map carrying) :
    Keeps texts b heard replied (c.printed.map carrying) (c.sendText text wire) := by
  unfold sendText
  cases hm : Message.withBody textKind (Text.utf8 text) with
  | error e =>
    refine fail_keeps live.has hreplied (prefix_of_texts htexts) ?_
    rw [hasked]
    exact List.prefix_append _ _
  | ok m =>
    obtain rfl := eq_carrying hm
    have hsends := live.send (carrying text)
    dsimp only
    generalize c.transport.send (carrying text) = r at hsends ⊢
    obtain ⟨outcome, t⟩ := r
    cases hsends with
    | sent live =>
      obtain ⟨a, runs, htalk⟩ := live.runs wire
      refine ⟨rfl, a, up ++ [carrying text], down, htalk, .awaiting text rfl runs htexts ?_, hreplied⟩
      rw [← List.append_assoc, hasked]
    | failed hmore has =>
      refine fail_keeps (c := { c with transport := t }) has hreplied (prefix_of_texts htexts) ?_
      rw [← List.append_assoc, hasked]
      exact (List.prefix_append_right_inj _).2 hmore

theorem ask_keeps {text : String} (hstage : c.stage = .awaiting text)
    (live : c.transport.Live b up down) (hreplied : replied = c.printed.map carrying ++ down)
    (hheard : replied <+: heard) (htexts : texts = c.printed ++ text :: c.pending)
    (hasked : heard ++ up = c.printed.map carrying ++ [carrying text]) :
    Keeps texts b heard replied (c.printed.map carrying ++ (c.received? (c.ask text wire).1).toList)
      (c.ask text wire) := by
  have hfail : ∀ (t : Transport σ) (reply : Message) (why : Failure), t.Has b up down →
      Keeps texts b heard replied (c.printed.map carrying)
        (({ c with transport := t, reply } : Caller σ).stop (.failed why) wire) := by
    intro t reply why has
    exact fail_keeps (c := { c with transport := t, reply }) has hreplied (prefix_of_texts htexts)
      (hasked ▸ List.prefix_refl _)
  have hreceives := live.recv c.reply
  unfold ask
  generalize c.transport.recv c.reply = r at hreceives ⊢
  obtain ⟨outcome, t, reply⟩ := r
  cases hreceives with
  | empty live =>
    obtain ⟨a, runs, htalk⟩ := live.runs wire
    rw [append_received? (.inr (by dsimp only; rw [hstage]; nofun))]
    exact ⟨rfl, a, up, down, htalk, .awaiting text hstage runs htexts hasked, hreplied⟩
  | @received n _ _ left hdown live =>
    obtain ⟨a, runs, htalk⟩ := live.runs wire
    -- What is on its way to the caller answers its one open question.
    have hone : reply :: left <+: [carrying text] := by
      rw [← List.prefix_append_right_inj (c.printed.map carrying), ← hdown, ← hreplied, ← hasked]
      exact hheard.trans (List.prefix_append _ _)
    obtain ⟨rfl, hleft⟩ := List.cons_prefix_cons.1 hone
    obtain rfl := List.prefix_nil.1 hleft
    have hprinted : (c.printed ++ [Text.lossy (carrying text).body]).map carrying =
        c.printed.map carrying ++ [carrying text] := by
      rw [lossy_carrying, List.map_append, List.map_singleton]
    simp only [received?, hstage, Option.toList_some]
    refine ⟨hprinted.symm, a, up, [], htalk, .sending rfl runs ?_ ?_, ?_⟩
    all_goals dsimp only at hdown ⊢
    · rw [lossy_carrying, List.append_assoc, List.singleton_append, htexts]
    · rw [hasked, hprinted]
    · rw [hreplied, hdown, List.append_nil]
  | closed live =>
    rw [append_received? (.inr (by rw [stage_stop]; nofun))]
    exact hfail t reply _ live.has
  | failed has =>
    rw [append_received? (.inr (by rw [stage_stop]; nofun))]
    exact hfail t reply _ has

/-- A step of a caller, with its view of the connection. -/
theorem step_keeps (htalk : Talk a b view up down) (hat : c.At texts a (heard ++ up))
    (hreplied : replied = c.printed.map carrying ++ down) (hheard : replied <+: heard) :
    Keeps texts b heard replied
      (c.printed.map carrying ++ (c.received? ((c.inView view).step (Wire.mk view)).1).toList)
      ((c.inView view).step (Wire.mk view)) := by
  cases hat with
  | sending hstage runs htexts hasked =>
    rw [append_received? (.inl (by rw [hstage]; nofun))]
    cases hpending : c.pending with
    | nil =>
      rw [step_of_done hstage hpending]
      rw [hpending, List.append_nil] at htexts
      exact stop_keeps (c := c.inView view) (runs.live htalk).has hreplied fun _ t hgone =>
        .finished rfl hgone htexts hasked
    | cons text pending =>
      rw [step_of_sending hstage hpending]
      rw [hpending] at htexts
      exact sendText_keeps (c := { c.inView view with pending }) (runs.live htalk) hreplied htexts
        hasked
  | awaiting text hstage runs htexts hasked =>
    rw [step_of_awaiting hstage]
    exact ask_keeps (c := c.inView view) hstage (runs.live htalk) hreplied hheard htexts hasked
  | finished hstage gone htexts hasked =>
    rw [append_received? (.inl (by rw [hstage]; nofun)), step_of_finished hstage]
    have hleaves := Transport.leaves_withView_of_gone gone view (Wire.mk view)
    exact ⟨rfl, a, up, down, hleaves.symm ▸ htalk,
      .finished hstage (Transport.channel_withView_of_gone gone view) htexts hasked, hreplied⟩
  | failed why hstage gone htexts hasked =>
    rw [append_received? (.inl (by rw [hstage]; nofun)), step_of_failed hstage]
    have hleaves := Transport.leaves_withView_of_gone gone view (Wire.mk view)
    exact ⟨rfl, a, up, down, hleaves.symm ▸ htalk,
      .failed why hstage (Transport.channel_withView_of_gone gone view) htexts hasked, hreplied⟩

end Caller

/-! ## The listener -/

namespace Listener

variable {l : Listener σ} {asked answered returned : List Message}

/-! What a listener does at each stage, with its view of the connection. -/

theorem step_of_asking (h : l.stage = .asking) :
    (l.inView view).step wire = (l.inView view).ask wire := by
  simp only [step, inView, h]

theorem step_of_holding (h : l.stage = .holding) :
    (l.inView view).step wire = (l.inView view).reply wire := by
  simp only [step, inView, h]

/-- A listener that has ended does not move. -/
theorem step_of_ended (hasking : l.stage ≠ .asking) (hholding : l.stage ≠ .holding) :
    (l.inView view).step wire = (l.inView view, wire) := by
  rw [step]
  split
  · rename_i hstage
    exact absurd hstage hasking
  · rename_i hstage
    exact absurd hstage hholding
  · rfl
  · rfl

/-- The message that a listener has received by a step that leaves it as `after`: it stops asking once
it holds one. -/
def received? (l after : Listener σ) : Option Message :=
  match l.stage, after.stage with
  | .asking, .holding => some after.message
  | _, _ => none

/-- The message that a listener has sent back by a step that leaves it as `after`: it asks again once
the one in hand has gone. -/
def returned? (l after : Listener σ) : Option Message :=
  match l.stage, after.stage with
  | .holding, .asking => some l.message
  | _, _ => none

omit [LosslessDuplex σ] in
/-- A listener that was not asking, or holds nothing now, has received nothing. -/
theorem append_received? {after : Listener σ} (h : l.stage ≠ .asking ∨ after.stage ≠ .holding)
    (heard : List Message) : heard ++ (l.received? after).toList = heard := by
  unfold received?
  split
  · rename_i hbefore hafter
    exact absurd hafter (h.resolve_left (absurd hbefore))
  · exact List.append_nil heard

omit [LosslessDuplex σ] in
/-- A listener that held nothing, or does not ask again, has sent nothing back. -/
theorem append_returned? {after : Listener σ} (h : l.stage ≠ .holding ∨ after.stage ≠ .asking)
    (returned : List Message) : returned ++ (l.returned? after).toList = returned := by
  unfold returned?
  split
  · rename_i hbefore hafter
    exact absurd hafter (h.resolve_left (absurd hbefore))
  · exact List.append_nil returned

theorem stage_stop (l : Listener σ) (stage : Stage) (wire : Wire σ) :
    (l.stop stage wire).1.stage = stage := rfl

/-- Where a listener is, with its end of the talk, when it has received, handed over and sent back
these messages. -/
inductive At (b : Channel σ) (heard replied returned : List Message) (l : Listener σ) : Prop
  | asking (stage : l.stage = .asking) (runs : l.transport.Runs b) (hreplied : replied = heard)
    (hreturned : returned = heard)
  | holding (stage : l.stage = .holding) (runs : l.transport.Runs b)
    (hheard : heard = replied ++ [l.message]) (hreturned : returned = replied)
  | finished (stage : l.stage = .finished) (gone : l.transport.channel = none)
    (hreplied : replied = heard) (hreturned : returned = heard)
  | failed (e : TransportError) (stage : l.stage = .failed e) (gone : l.transport.channel = none)
    (hreplied : replied <+: heard) (hreturned : heard = returned ∨ heard = returned ++ [l.message])

omit [LosslessDuplex σ] in
/-- A listener hands over what it has received, in order, and at most that. -/
theorem At.prefix_replied (h : l.At b heard replied returned) : replied <+: heard := by
  cases h with
  | asking _ _ hreplied _ => exact hreplied ▸ List.prefix_refl _
  | holding _ _ hheard _ => exact hheard ▸ List.prefix_append _ _
  | finished _ _ hreplied _ => exact hreplied ▸ List.prefix_refl _
  | failed _ _ _ hreplied _ => exact hreplied

/-- What a listener and its wire are like after a step that leaves it with these messages received and
sent back, when the caller has asked this and has been answered that. -/
def Keeps (a : Channel σ) (asked answered heard returned : List Message)
    (r : Listener σ × Wire σ) : Prop :=
  r.1.echoed = returned.length ∧
    ∃ b up down, Talk b a (r.1.transport.leaves r.2) down up ∧ asked = heard ++ up ∧
      r.1.At b heard (answered ++ down) returned

theorem stop_keeps {stage : Stage} (has : l.transport.Has a down up)
    (hechoed : l.echoed = returned.length) (hasked : asked = heard ++ up)
    (hat : ∀ (b : Channel σ) (t : Transport σ), t.channel = none →
      ({ l with transport := t, stage } : Listener σ).At b heard (answered ++ down) returned) :
    Keeps a asked answered heard returned (l.stop stage wire) := by
  obtain ⟨hgone, b, htalk⟩ := has.close wire
  exact ⟨hechoed, b, up, down, htalk, hasked, hat b _ hgone⟩

theorem ask_keeps (hstage : l.stage = .asking) (live : l.transport.Live a down up)
    (hechoed : l.echoed = heard.length) (hasked : asked = heard ++ up)
    (hreplied : answered ++ down = heard) :
    Keeps a asked answered (heard ++ (l.received? (l.ask wire).1).toList) heard (l.ask wire) := by
  have hreceives := live.recv l.message
  unfold ask
  generalize l.transport.recv l.message = r at hreceives ⊢
  obtain ⟨outcome, t, message⟩ := r
  cases hreceives with
  | empty live =>
    obtain ⟨b, runs, htalk⟩ := live.runs wire
    rw [append_received? (.inr (by dsimp only; rw [hstage]; nofun))]
    exact ⟨hechoed, b, up, down, htalk, hasked, .asking hstage runs hreplied rfl⟩
  | @received _ _ _ left hup live =>
    obtain ⟨b, runs, htalk⟩ := live.runs wire
    simp only [received?, hstage, Option.toList_some]
    refine ⟨hechoed, b, left, down, htalk, ?_, .holding rfl runs ?_ hreplied.symm⟩
    · rw [hasked, hup]
      exact List.append_cons _ _ _
    · rw [hreplied]
  | closed live =>
    rw [append_received? (.inr (by rw [stage_stop]; nofun))]
    exact stop_keeps live.has hechoed hasked fun _ _ hgone => .finished rfl hgone hreplied rfl
  | @failed e _ _ has =>
    rw [append_received? (.inr (by rw [stage_stop]; nofun))]
    exact stop_keeps has hechoed hasked fun _ _ hgone =>
      .failed e rfl hgone (hreplied ▸ List.prefix_refl _) (.inl rfl)

theorem reply_keeps (hstage : l.stage = .holding) (live : l.transport.Live a down up)
    (hechoed : l.echoed = returned.length) (hasked : asked = heard ++ up)
    (hheard : heard = answered ++ down ++ [l.message]) (hreturned : returned = answered ++ down) :
    Keeps a asked answered heard (returned ++ (l.returned? (l.reply wire).1).toList)
      (l.reply wire) := by
  have hsends := live.send l.message
  unfold reply
  generalize l.transport.send l.message = r at hsends ⊢
  obtain ⟨outcome, t⟩ := r
  cases hsends with
  | sent live =>
    obtain ⟨b, runs, htalk⟩ := live.runs wire
    simp only [returned?, hstage, Option.toList_some]
    refine ⟨?_, b, up, down ++ [l.message], htalk, hasked, .asking rfl runs ?_ ?_⟩
    · rw [List.length_append, hechoed]
      rfl
    · rw [hheard, List.append_assoc]
    · rw [hheard, hreturned]
  | @failed e _ more hmore has =>
    rw [append_returned? (.inr (by rw [stage_stop]; nofun))]
    refine stop_keeps has hechoed hasked fun _ _ hgone => .failed e rfl hgone ?_ (.inr ?_)
    · rw [hheard, ← List.append_assoc]
      exact (List.prefix_append_right_inj _).2 hmore
    · rw [hheard, hreturned]

/-- A listener that has ended has received and sent back what it had. -/
theorem idle_keeps (hasking : l.stage ≠ .asking) (hholding : l.stage ≠ .holding)
    (gone : l.transport.channel = none) (hechoed : l.echoed = returned.length)
    (htalk : Talk b a view down up) (hasked : asked = heard ++ up)
    (hat : (l.inView view).At b heard (answered ++ down) returned) :
    Keeps a asked answered (heard ++ (l.received? (l.inView view)).toList)
      (returned ++ (l.returned? (l.inView view)).toList) (l.inView view, Wire.mk view) := by
  rw [append_received? (.inl hasking), append_returned? (.inl hholding)]
  have hleaves := Transport.leaves_withView_of_gone gone view (Wire.mk view)
  exact ⟨hechoed, b, up, down, hleaves.symm ▸ htalk, hasked, hat⟩

/-- A step of a listener, with its view of the connection. -/
theorem step_keeps {r : Listener σ × Wire σ} (hr : (l.inView view).step (Wire.mk view) = r)
    (htalk : Talk b a view down up) (hat : l.At b heard (answered ++ down) returned)
    (hechoed : l.echoed = returned.length) (hasked : asked = heard ++ up) :
    Keeps a asked answered (heard ++ (l.received? r.1).toList)
      (returned ++ (l.returned? r.1).toList) r := by
  cases hat with
  | asking hstage runs hreplied hreturned =>
    rw [step_of_asking hstage] at hr
    subst hr hreturned
    rw [append_returned? (.inl (by rw [hstage]; decide))]
    exact ask_keeps hstage (runs.live htalk) hechoed hasked hreplied
  | holding hstage runs hheard hreturned =>
    rw [step_of_holding hstage] at hr
    subst hr
    rw [append_received? (.inl (by rw [hstage]; decide))]
    exact reply_keeps hstage (runs.live htalk) hechoed hasked hheard hreturned
  | finished hstage gone hreplied hreturned =>
    have hasking : l.stage ≠ .asking := by rw [hstage]; decide
    have hholding : l.stage ≠ .holding := by rw [hstage]; decide
    rw [step_of_ended hasking hholding] at hr
    subst hr
    exact idle_keeps hasking hholding gone hechoed htalk hasked
      (.finished hstage (Transport.channel_withView_of_gone gone view) hreplied hreturned)
  | failed e hstage gone hreplied hreturned =>
    have hasking : l.stage ≠ .asking := by rw [hstage]; nofun
    have hholding : l.stage ≠ .holding := by rw [hstage]; nofun
    rw [step_of_ended hasking hholding] at hr
    subst hr
    exact idle_keeps hasking hholding gone hechoed htalk hasked
      (.failed e hstage (Transport.channel_withView_of_gone gone view) hreplied hreturned)

end Listener

end PinnedLink.Echo
