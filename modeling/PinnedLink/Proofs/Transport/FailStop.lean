import PinnedLink.Proofs.Channel.Failure
import PinnedLink.Proofs.Transport.Lifecycle

/-!
# A failure ends the use of a session

Once a use of the session has failed, the transport refuses every use of it until it is brought up
again.  It holds on to the failed session, untouched, until the next `init` or `close`, and all that
the session can still say then is what it had pending, and a goodbye if it has not ended its direction
yet.

`Op.use_of_live` and `Op.use_of_down` say once what the uses of a session do to a transport,
`apply_of_down` what every operation leaves of a transport that is down, and `state_apply_of_up` what
takes a transport down.
-/

namespace PinnedLink

open PinnedLink.Frame (Message)
open ByteStream (Wrote)

namespace Transport

variable {ν σ : Type}

theorem live?_of_down {t : Transport σ} (hdown : t.state ≠ .established) : t.live? = none :=
  if_neg hdown

theorem bind_of_up [Network ν σ] {t : Transport σ} (hup : t.state = .established) (net : ν) :
    t.bind net = (.error .alreadyInitialized, t, net) := if_pos hup

/-! ## What is left of a session -/

/-- The operation gives up what the transport holds. -/
def Op.givesUp : Op ν σ → Bool
  | .init _ _ => true
  | .close _ => true
  | _ => false

/-- What the stream does by itself while an operation goes on. -/
def Op.drifting : Op ν σ → σ → σ
  | .drift change => change
  | _ => id

/-- What the stream does by itself during a run. -/
def drifts (ops : List (Op ν σ)) (stream : σ) : σ :=
  ops.foldl (fun stream op => op.drifting stream) stream

/-- What is left of the session `c` of a transport that stays down: all of it on the stream that is
still its own, until it is given up, and then nothing. -/
def remains (ops : List (Op ν σ)) (c : Channel σ) : Option (Channel σ) :=
  if ops.any Op.givesUp then none else some { c with stream := drifts ops c.stream }

theorem remains_cons (op : Op ν σ) (ops : List (Op ν σ)) (c : Channel σ) :
    remains (op :: ops) c = (remains [op] c).bind (remains ops) := by
  unfold remains
  simp only [List.any_cons, List.any_nil, Bool.or_false, Bool.or_eq_true, drifts, List.foldl_cons,
    List.foldl_nil]
  by_cases hop : op.givesUp = true
  · simp [hop]
  · simp [hop]

/-! ## The uses of a session -/

/-- The failure that an operation reports. -/
def failureOf? {α : Type} : Except TransportError α → Option TransportError
  | .ok _ => none
  | .error e => some e

theorem failureOf?_eq_some {α : Type} {r : Except TransportError α} {e : TransportError} :
    failureOf? r = some e ↔ r = .error e := by
  cases r with
  | ok a => exact ⟨nofun, nofun⟩
  | error e' => exact ⟨fun h => congrArg _ (Option.some.inj h), fun h => by cases h; rfl⟩

/-- The transport with what a use of its session has left. -/
def afterUse (t : Transport σ) : Option TransportError × Channel σ → Transport σ
  | (none, c) => { t with channel := some c }
  | (some _, c) => { t with channel := some c, state := .failed }

theorem settle_eq_afterUse (t : Transport σ) {α : Type} (result : Except TransportError α)
    (c : Channel σ) : t.settle result c = t.afterUse (failureOf? result, c) := by
  cases result <;> rfl

variable [ByteStream σ]

/-- The failure that a use of the session reports.  Other operations do not use it. -/
def Op.failure? (t : Transport σ) : Op ν σ → Option TransportError
  | .send m => failureOf? (t.send m).1
  | .trySend m => failureOf? (t.trySend m).1
  | .flush => failureOf? t.flush.1
  | .recv m => failureOf? (t.recv m).1
  | _ => none

/-- What a use of the session does to the channel: the failure that it reports, and what it leaves. -/
def Op.use? : Op ν σ → Option (Channel σ → Option TransportError × Channel σ)
  | .send m => some fun c => (failureOf? (c.send m).1, (c.send m).2)
  | .trySend m => some fun c => (failureOf? (c.trySend m).1, (c.trySend m).2)
  | .flush => some fun c => (failureOf? c.flush.1, c.flush.2)
  | .recv m => some fun c => (failureOf? (c.recv m).1, (c.recv m).2.1)
  | _ => none

variable {t : Transport σ} {c : Channel σ} {op : Op ν σ}
  {use : Channel σ → Option TransportError × Channel σ}

/-- A channel reports many failures, but never that the transport is not established. -/
theorem Op.use_error (huse : op.use? = some use) {e : TransportError} (h : (use c).1 = some e) :
    e ≠ .notEstablished := by
  cases op with
  | send m => cases huse; exact Channel.send_error (failureOf?_eq_some.1 h)
  | trySend m => cases huse; exact Channel.trySend_error (failureOf?_eq_some.1 h)
  | flush =>
    cases huse
    obtain ⟨cause, rfl⟩ := Channel.flush_error (failureOf?_eq_some.1 h)
    exact TransportError.noConfusion
  | recv m => cases huse; exact Channel.recv_error (failureOf?_eq_some.1 h)
  | set setting value => cases huse
  | bind net => cases huse
  | init role net => cases huse
  | close net => cases huse
  | drift change => cases huse

variable [Network ν σ]

/-- While the transport is established, a use of its session is one of the channel. -/
theorem Op.use_of_live (huse : op.use? = some use) (hlive : t.live? = some c) :
    op.failure? t = (use c).1 ∧ op.apply t = t.afterUse (use c) := by
  cases op with
  | send m =>
    cases huse
    simp only [Op.failure?, Op.apply, Transport.send, hlive, settle_eq_afterUse, and_self]
  | trySend m =>
    cases huse
    simp only [Op.failure?, Op.apply, Transport.trySend, hlive, settle_eq_afterUse, and_self]
  | flush =>
    cases huse
    simp only [Op.failure?, Op.apply, Transport.flush, hlive, settle_eq_afterUse, and_self]
  | recv m =>
    cases huse
    simp only [Op.failure?, Op.apply, Transport.recv, hlive, settle_eq_afterUse, and_self]
  | set setting value => cases huse
  | bind net => cases huse
  | init role net => cases huse
  | close net => cases huse
  | drift change => cases huse

/-- While it is not, the transport refuses every use and stays as it is. -/
theorem Op.use_of_down (huse : op.use? = some use) (hdown : t.live? = none) :
    op.failure? t = some .notEstablished ∧ op.apply t = t := by
  cases op with
  | send m => simp only [Op.failure?, Op.apply, Transport.send, hdown, failureOf?, and_self]
  | trySend m => simp only [Op.failure?, Op.apply, Transport.trySend, hdown, failureOf?, and_self]
  | flush => simp only [Op.failure?, Op.apply, Transport.flush, hdown, failureOf?, and_self]
  | recv m => simp only [Op.failure?, Op.apply, Transport.recv, hdown, failureOf?, and_self]
  | set setting value => cases huse
  | bind net => cases huse
  | init role net => cases huse
  | close net => cases huse
  | drift change => cases huse

/-! ## A transport that is down -/

/-- Every use of the session is refused and changes nothing, the message of the caller included. -/
structure Refusing (t : Transport σ) : Prop where
  send (m : Message) : t.send m = (.error .notEstablished, t)
  trySend (m : Message) : t.trySend m = (.error .notEstablished, t)
  flush : t.flush = (.error .notEstablished, t)
  recv (m : Message) : t.recv m = (.error .notEstablished, t, m)

theorem Refusing.of_down (hdown : t.state ≠ .established) : Refusing t where
  send m := by rw [Transport.send, live?_of_down hdown]
  trySend m := by rw [Transport.trySend, live?_of_down hdown]
  flush := by rw [Transport.flush, live?_of_down hdown]
  recv m := by rw [Transport.recv, live?_of_down hdown]

/-- The operation brings nothing up: it is no `init`, or one that fails. -/
def Op.LeavesDown (t : Transport σ) : Op ν σ → Prop
  | .init role net => ∃ e, (t.init role net).1 = .error e
  | _ => True

/-- No operation of a run brings the transport up. -/
def StaysDown (t : Transport σ) : List (Op ν σ) → Prop
  | [] => True
  | op :: ops => op.LeavesDown t ∧ StaysDown (op.apply t) ops

theorem init_of_down (hdown : t.state ≠ .established) {role : Role} {net : ν} {e : TransportError}
    (h : (t.init role net).1 = .error e) :
    (t.init role net).2.1.state = .failed ∧ (t.init role net).2.1.channel = none := by
  unfold Transport.init at h ⊢
  rw [if_neg hdown] at h ⊢
  dsimp only at h ⊢
  split at h
  · cases h
  · refine ⟨rfl, ?_⟩
    show (t.release net).1.channel = none
    rw [release_fst]

theorem use_apply_of_down (hdown : t.state ≠ .established) (huse : op.use? = some use) :
    op.apply t = t :=
  (Op.use_of_down huse (live?_of_down hdown)).2

/-- Nothing but `init` brings a transport up, and nothing touches the session that it holds before it
gives it up. -/
theorem apply_of_down (hdown : t.state ≠ .established) (hleaves : op.LeavesDown t) :
    (op.apply t).state ≠ .established ∧ (op.apply t).channel = t.channel.bind (remains [op]) := by
  have hkept : t.channel = t.channel.bind fun c => some { c with stream := c.stream } :=
    (Option.bind_fun_some t.channel).symm
  cases op with
  | set setting value =>
    show (t.set setting value).2.state ≠ .established ∧ (t.set setting value).2.channel = _
    unfold Transport.set
    rw [if_neg hdown]
    split
    · exact ⟨hdown, hkept⟩
    · exact ⟨hdown, hkept⟩
  | bind net =>
    show (t.bind net).2.1.state ≠ .established ∧ (t.bind net).2.1.channel = _
    unfold Transport.bind
    rw [if_neg hdown]
    exact ⟨hdown, hkept⟩
  | init role net =>
    obtain ⟨e, he⟩ := hleaves
    obtain ⟨hstate, hchannel⟩ := init_of_down hdown he
    refine ⟨fun hup => ?_, hchannel.trans (Option.bind_fun_none t.channel).symm⟩
    cases hstate.symm.trans hup
  | close net =>
    show (t.close net).1.state ≠ .established ∧ (t.close net).1.channel = _
    rw [close_fst]
    refine ⟨?_, (Option.bind_fun_none t.channel).symm⟩
    show (if t.channel.isSome then .closed else t.state) ≠ TransportState.established
    split
    · exact TransportState.noConfusion
    · exact hdown
  | drift change => exact ⟨hdown, Option.map_eq_bind⟩
  | send m => rw [use_apply_of_down hdown rfl]; exact ⟨hdown, hkept⟩
  | trySend m => rw [use_apply_of_down hdown rfl]; exact ⟨hdown, hkept⟩
  | flush => rw [use_apply_of_down hdown rfl]; exact ⟨hdown, hkept⟩
  | recv m => rw [use_apply_of_down hdown rfl]; exact ⟨hdown, hkept⟩

theorem run_of_down (hdown : t.state ≠ .established) {ops : List (Op ν σ)} (h : StaysDown t ops) :
    (t.run ops).state ≠ .established ∧ (t.run ops).channel = t.channel.bind (remains ops) := by
  induction ops generalizing t with
  | nil => exact ⟨hdown, (Option.bind_fun_some t.channel).symm⟩
  | cons op ops ih =>
    obtain ⟨hstate, hchannel⟩ := apply_of_down hdown h.1
    obtain ⟨hlast, hleft⟩ := ih hstate h.2
    refine ⟨hlast, hleft.trans ?_⟩
    rw [hchannel, Option.bind_assoc]
    exact congrArg t.channel.bind (funext fun c => (remains_cons op ops c).symm)

/-! ## A failure, and what ends a session that is up -/

/-- A failure of the session takes the transport down and leaves it the channel. -/
theorem apply_of_failure {e : TransportError} (hfail : op.failure? t = some e)
    (he : e ≠ .notEstablished) :
    (op.apply t).state = .failed ∧ ∃ c, (op.apply t).channel = some c := by
  cases huse : op.use? with
  | none => cases op <;> first | cases hfail | cases huse
  | some use =>
    cases hlive : t.live? with
    | none =>
      rw [(Op.use_of_down huse hlive).1] at hfail
      exact absurd (Option.some.inj hfail).symm he
    | some d =>
      obtain ⟨hfailure, happly⟩ := Op.use_of_live huse hlive
      rcases hresult : use d with ⟨_ | e', c⟩
      · rw [hfailure, hresult] at hfail
        cases hfail
      · rw [happly, hresult]
        exact ⟨rfl, c, rfl⟩

theorem init_of_up (hup : t.state = .established) (role : Role) (net : ν) :
    t.init role net = (.error .alreadyInitialized, t, net) := if_pos hup

/-- A use of the session of an established transport takes it down exactly if it fails. -/
theorem state_use_of_up (h : Lifecycle t) (hup : t.state = .established)
    (huse : op.use? = some use) :
    (op.apply t).state ≠ .established ↔ ∃ e, op.failure? t = some e ∧ e ≠ .notEstablished := by
  obtain ⟨c, hchannel⟩ := Option.isSome_iff_exists.1 (h.established hup).1
  have hlive : t.live? = some c := (if_pos hup).trans hchannel
  obtain ⟨hfailure, happly⟩ := Op.use_of_live huse hlive
  rw [hfailure, happly]
  rcases hresult : use c with ⟨_ | e, d⟩
  · exact iff_of_false (not_not_intro hup) fun ⟨e, he, _⟩ => by cases he
  · have hcause : e ≠ .notEstablished := Op.use_error huse (congrArg Prod.fst hresult)
    exact iff_of_true TransportState.noConfusion ⟨e, rfl, hcause⟩

/-- Nothing but a failure of the session or `close` takes an established transport down. -/
theorem state_apply_of_up (h : Lifecycle t) (hup : t.state = .established) (op : Op ν σ) :
    (op.apply t).state ≠ .established ↔
      (∃ e, op.failure? t = some e ∧ e ≠ .notEstablished) ∨ ∃ net, op = .close net := by
  have hstays {op : Op ν σ} (hstate : (op.apply t).state = .established)
      (hsilent : op.failure? t = none) (hopen : ∀ net, op ≠ .close net) :
      (op.apply t).state ≠ .established ↔
        (∃ e, op.failure? t = some e ∧ e ≠ .notEstablished) ∨ ∃ net, op = .close net := by
    refine iff_of_false (not_not_intro hstate) ?_
    rintro (⟨e, he, -⟩ | ⟨net, hclose⟩)
    · cases hsilent.symm.trans he
    · exact hopen net hclose
  have huses {op : Op ν σ} {use : Channel σ → Option TransportError × Channel σ}
      (huse : op.use? = some use) (hopen : ∀ net, op ≠ .close net) :
      (op.apply t).state ≠ .established ↔
        (∃ e, op.failure? t = some e ∧ e ≠ .notEstablished) ∨ ∃ net, op = .close net := by
    rw [state_use_of_up h hup huse, or_iff_left]
    exact fun ⟨net, hclose⟩ => hopen net hclose
  cases op with
  | set setting value =>
    refine hstays ?_ rfl nofun
    show (t.set setting value).2.state = _
    rw [Transport.set, if_pos hup]
    exact hup
  | bind net => exact hstays (by rw [Op.apply, bind_of_up hup]; exact hup) rfl nofun
  | init role net => exact hstays (by rw [Op.apply, init_of_up hup]; exact hup) rfl nofun
  | drift change => exact hstays hup rfl nofun
  | close net =>
    refine iff_of_true ?_ (Or.inr ⟨net, rfl⟩)
    rw [Op.apply, close_fst, if_pos (h.established hup).1]
    exact TransportState.noConfusion
  | send m => exact huses rfl nofun
  | trySend m => exact huses rfl nofun
  | flush => exact huses rfl nofun
  | recv m => exact huses rfl nofun

/-! ## Giving a session up -/

/-- All that giving up the channel `c` of the transport `t` does is to shut it down: its stream goes
back to the network with the front of what the session had pending, and of its goodbye, written to
it, and everything else is as if there had been no channel. -/
structure Parting (ν : Type) [Network ν σ] (t : Transport σ) (c : Channel σ) : Prop where
  init (role : Role) (net : ν) :
    t.init role net = { t with channel := none }.init role (Network.retire net c.shutdown.stream)
  close (net : ν) :
    (t.close net).2 = ({ t with channel := none }.close (Network.retire net c.shutdown.stream)).2
  wrote : ∃ written, Wrote c.stream written c.shutdown.stream ∧
    written <+: c.session.outbox ++ c.session.farewell

theorem release_of_channel (h : t.channel = some c) (net : ν) :
    t.release net = { t with channel := none }.release (Network.retire net c.shutdown.stream) := by
  unfold release
  rw [h]

theorem Parting.of_down (hdown : t.state ≠ .established) (h : t.channel = some c) :
    Parting ν t c where
  init role net := by
    rw [Transport.init, Transport.init, if_neg hdown, if_neg hdown, release_of_channel h]
  close net := by
    simp only [Transport.close, release_of_channel h]
  wrote := c.shutdown_wrote

/-- Once a use of the session has failed, every run that does not bring the transport up again finds
it refusing every use; what it still holds of the session is all that the failure left, until the
first `init` or `close` gives it up, and then nothing, for good.  And only such a failure or `close`
takes an established transport down. -/
theorem run_new_fail_stop (identity : IdentityPem) (config : Config) (ops : List (Op ν σ)) :
    let t : Transport σ := (Transport.new identity config).run ops
    (∀ (op : Op ν σ) (e : TransportError), op.failure? t = some e → e ≠ .notEstablished →
      (op.apply t).state = .failed ∧ ∃ c, (op.apply t).channel = some c ∧
        ∀ later : List (Op ν σ), StaysDown (op.apply t) later →
          let u := (op.apply t).run later
          Refusing u ∧ u.channel = remains later c ∧ ∀ d, u.channel = some d → Parting ν u d) ∧
    (t.state = .established →
      (∀ op : Op ν σ, (op.apply t).state ≠ .established ↔
        (∃ e, op.failure? t = some e ∧ e ≠ .notEstablished) ∨ ∃ net, op = .close net) ∧
      ∀ net : ν, t.bind net = (.error .alreadyInitialized, t, net) ∧
        ∀ role, t.init role net = (.error .alreadyInitialized, t, net)) := by
  intro t
  refine ⟨fun op e hfail he => ?_, fun hup => ⟨?_, fun net => ⟨?_, fun role => ?_⟩⟩⟩
  · obtain ⟨hstate, c, hchannel⟩ := apply_of_failure hfail he
    have hdown : (op.apply t).state ≠ .established := by
      rw [hstate]
      exact TransportState.noConfusion
    refine ⟨hstate, c, hchannel, fun later hlater => ?_⟩
    obtain ⟨hlast, hleft⟩ := run_of_down hdown hlater
    rw [hchannel] at hleft
    exact ⟨.of_down hlast, hleft, fun d => .of_down hlast⟩
  · exact state_apply_of_up ((Lifecycle.new identity config).run ops).1 hup
  · exact bind_of_up hup net
  · exact init_of_up hup role net

end Transport

end PinnedLink
