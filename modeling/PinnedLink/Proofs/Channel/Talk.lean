import PinnedLink.Proofs.Channel.Act
import PinnedLink.Proofs.Stream.Duplex

/-!
# Two channels over one connection

`Talk a b view up down` says that two channels share a connection, which the first of them sees as
`view`, and that the messages `up` are on their way from the first to the second and `down` the other
way.  The streams of the two channels themselves do not count: the one that acts is given its view of
the connection, and leaves the other one its own.

An operation of either end puts the message that it offers behind those on their way out, and takes the
message that it hands out off those on their way in (`Talk.act`, `Talk.flip`).  An end that has gone is
one that does not act any more.
-/

namespace PinnedLink.Channel

open PinnedLink.Frame (Message)

variable {σ : Type} [LosslessDuplex σ]

/-- A channel over another state of its stream. -/
def viewing (c : Channel σ) (view : σ) : Channel σ := { c with stream := view }

/-- Two channels over one connection, with messages on their way. -/
structure Talk (a b : Channel σ) (view : σ) (up down : List Message) : Prop where
  up : Flow (a.viewing view).outward b.session b.received up
  down : Flow (b.viewing (Duplex.flip view)).outward a.session a.received down

namespace Talk

variable {a b : Channel σ} {view : σ} {up down : List Message}

/-- What is on its way depends on the bytes of the connection alone. -/
theorem congr (h : Talk a b view up down) {view' : σ}
    (hsent : LosslessStream.sent view' = LosslessStream.sent view)
    (hahead : LosslessStream.ahead view' = LosslessStream.ahead view) : Talk a b view' up down := by
  have hup : (a.viewing view').outward = (a.viewing view).outward := by
    simp only [viewing, outward, hsent]
  have hdown : (b.viewing (Duplex.flip view')).outward = (b.viewing (Duplex.flip view)).outward := by
    simp only [viewing, outward, LosslessDuplex.sent_flip, hahead]
  exact ⟨hup ▸ h.up, hdown ▸ h.down⟩

/-- The same talk, seen from the other end. -/
theorem flip (h : Talk a b view up down) : Talk b a (Duplex.flip view) down up := by
  refine ⟨h.down, ?_⟩
  have hsame : (a.viewing (Duplex.flip (Duplex.flip view))).outward = (a.viewing view).outward := by
    simp only [viewing, outward, LosslessDuplex.sent_flip, LosslessDuplex.ahead_flip]
  exact hsame ▸ h.up

/-- An operation of the first end. -/
theorem act (h : Talk a b view up down) (what : Act) (own : Message) :
    ∃ left, down = (what.receipt? (a.viewing view) own).toList ++ left ∧
      Talk (what.run (a.viewing view) own).1 b (what.run (a.viewing view) own).1.stream
        (up ++ if a.session.saidGoodbye then [] else (what.offer? a.maxBodyLen).toList) left ∧
      (what.run (a.viewing view) own).1.session.saidGoodbye =
        (a.session.saidGoodbye || what.isShutdown) := by
  have hin : Flow { b.session.speaking with
      outbox := LosslessStream.ahead (a.viewing view).stream ++ b.session.outbox }
      (a.viewing view).session (a.viewing view).received down := by
    have hdown := h.down
    simp only [viewing, outward, LosslessDuplex.sent_flip] at hdown ⊢
    exact hdown
  have hdoes : what.Does (a.viewing view) own _ _ _ _ _ _ _ := what.does h.up hin
  obtain ⟨left, hleft, hincoming⟩ := hdoes.incoming
  refine ⟨left, hleft, ⟨hdoes.outgoing, ?_⟩, hdoes.saidGoodbye⟩
  simp only [viewing, outward, LosslessDuplex.sent_flip]
  exact hincoming

/-- A send. -/
theorem send (h : Talk a b a.stream up down) (hspeaks : a.session.saidGoodbye = false)
    (m : Message) :
    Talk (a.send m).2 b (a.send m).2.stream
        (up ++ ((Act.send m).offer? a.maxBodyLen).toList) down ∧
      (a.send m).2.session.saidGoodbye = false := by
  obtain ⟨left, hleft, hsent, hsaid⟩ := h.act (.send m) (.new 0)
  have hdown : down = left := hleft
  rw [hspeaks, if_neg Bool.false_ne_true, ← hdown] at hsent
  exact ⟨hsent, hsaid.trans ((Bool.or_false _).trans hspeaks)⟩

/-- A receive. -/
theorem recv (h : Talk a b a.stream up down) (own : Message) :
    ∃ left, down = (delivered? (a.recv own).1 (a.recv own).2.2).toList ++ left ∧
      Talk (a.recv own).2.1 b (a.recv own).2.1.stream up left ∧
      (a.recv own).2.1.session.saidGoodbye = a.session.saidGoodbye := by
  obtain ⟨left, hleft, htaken, hsaid⟩ := h.act .recv own
  have hoffer : Act.recv.offer? a.maxBodyLen = none := rfl
  rw [hoffer, Option.toList_none, ite_self, List.append_nil] at htaken
  exact ⟨left, hleft, htaken, hsaid.trans (Bool.or_false _)⟩

/-- A shutdown. -/
theorem shutdown (h : Talk a b a.stream up down) : Talk a.shutdown b a.shutdown.stream up down := by
  obtain ⟨left, hleft, hshut, -⟩ := h.act .shutdown (.new 0)
  have hdown : down = left := hleft
  have hoffer : Act.shutdown.offer? a.maxBodyLen = none := rfl
  rw [hoffer, Option.toList_none, ite_self, List.append_nil, ← hdown] at hshut
  exact hshut

/-- Over a fresh connection nothing is on its way between sessions that have just been established. -/
theorem fresh (version : Session.Version) (s t : σ) (maxUp maxDown : Nat) :
    Talk (new (.established version .client) s maxUp) (new (.established version .server) t maxDown)
      Duplex.fresh [] [] := by
  have hflow : ∀ (side : Session.Side) (c d : Channel σ) (view : σ),
      c.session = .established version side → d.session = .established version side.other →
      d.received = [] → LosslessStream.sent view = [] →
      Flow (c.viewing view).outward d.session d.received [] := by
    intro side c d view hc hd hreceived hsent
    have hout : (c.viewing view).outward = (Session.established version side).speaking := by
      simp only [viewing, outward, hc, hsent]
      rfl
    have hhears : (Session.established version side.other).Hears [] [] (.next 0) :=
      .live [] rfl rfl rfl rfl (.nil 0)
    rw [hout, hd, hreceived]
    exact
      { version := rfl
        side := by cases side <;> rfl
        failure := rfl
        valid := fun _ hm => by cases hm
        goodbye := fun hclosed => by cases hclosed
        carries := ⟨[], [], hhears, rfl, fun _ => rfl⟩ }
  have hback : LosslessStream.sent (Duplex.flip (Duplex.fresh : σ)) = [] := by
    rw [LosslessDuplex.sent_flip, LosslessDuplex.ahead_fresh]
  exact ⟨hflow .client _ _ _ rfl rfl rfl LosslessDuplex.sent_fresh,
    hflow .server _ _ _ rfl rfl rfl hback⟩

end Talk

end PinnedLink.Channel
