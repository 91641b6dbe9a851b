import PinnedLink.Proofs.Network.Alike
import PinnedLink.Proofs.Transport.FailStop

/-!
# Bringing a transport up again

Whatever a transport has been through, an `init` that it does not refuse depends on its settings, its
identity and its listener, and on what the network answers from then on.  `init_eq_outcome` says so:
of the transport nothing else is left in what `init` comes to.  So a new transport with the same
settings, identity and listener comes to the same, on any network that behaves alike.
-/

namespace PinnedLink

namespace Established

variable {ν σ : Type} [Network ν σ] [ByteStream σ]

/-- A session that is up is made by a plan, a stream that was opened for it and what the other side
answered over it, and by nothing else; its channel is new. -/
inductive Made (role : Role) (config : Config) (identity : IdentityPem) (socket : Socket) (net : ν) :
    Established σ → Prop
  | intro {plan : Plan} {opened shaken settled : σ} {socket' : Socket} {net₁ net₂ : ν}
    {session : Session} {peer : PeerInfo}
    (hplan : Plan.make role config identity = .ok plan)
    (hopen : openStream role config socket net = (.ok opened, socket', net₁))
    (hshake : Network.shakeHands net₁ plan.opening opened = (.ok (session, peer), shaken, net₂))
    (hsettle : ByteStream.setBlocking shaken false = (.ok (), settled)) :
    Made role config identity socket net
      { context := plan.context, channel := .new session settled config.maxBodyLen.toNat, peer }

variable {role : Role} {config : Config} {identity : IdentityPem} {socket socket' : Socket}
  {net net' : ν} {e : Established σ}

theorem made_of_attempt
    (h : attempt role config identity socket net = (.ok e, socket', net')) :
    Made role config identity socket net e := by
  unfold attempt at h
  rcases hplan : Plan.make role config identity with cause | plan
  · rw [hplan] at h
    cases h
  rw [hplan] at h
  dsimp only at h
  rcases hopen : openStream role config socket net with ⟨cause | opened, socket₁, net₁⟩
  · rw [hopen] at h
    cases h
  rw [hopen] at h
  unfold secure at h
  dsimp only at h
  rcases hshake : Network.shakeHands net₁ plan.opening opened with
    ⟨cause | ⟨session, peer⟩, shaken, net₂⟩
  · rw [hshake] at h
    cases h
  rw [hshake] at h
  dsimp only at h
  rcases hsettle : ByteStream.setBlocking shaken false with ⟨cause | _, settled⟩
  · rw [hsettle] at h
    cases h
  rw [hsettle] at h
  cases h
  exact .intro hplan hopen hshake hsettle

theorem made_of_establish
    (h : establish role config identity socket net = (.ok e, socket', net')) :
    Made role config identity socket net e := by
  unfold establish at h
  rcases hattempt : attempt role config identity socket net with ⟨cause | e', socket₁, net₁⟩
  · rw [hattempt] at h
    cases h
  · rw [hattempt] at h
    cases h
    exact made_of_attempt hattempt

end Established

namespace Transport

variable {ν ν' σ : Type}

/-- A new transport that listens already, if there is a listener. -/
def listening (identity : IdentityPem) (config : Config) (listener : Option SocketAddress) :
    Transport σ :=
  { Transport.new identity config with socket := { listener, connection := none } }

/-- What bringing up a session makes of a transport with an identity and settings. -/
def outcome (identity : IdentityPem) (config : Config) (role : Role) :
    Except TransportError (Established σ) × Socket × ν →
      Except TransportError Unit × Transport σ × ν
  | (.ok e, socket, net) =>
    (.ok (),
      { config, identity, socket, role := some role, state := .established,
        context := some e.context, channel := some e.channel, peer := some e.peer }, net)
  | (.error e, socket, net) =>
    (.error e,
      { config, identity, socket, role := some role, state := .failed,
        context := none, channel := none, peer := none }, net)

theorem identity_outcome (identity : IdentityPem) (config : Config) (role : Role)
    (p : Except TransportError (Established σ) × Socket × ν) :
    (outcome identity config role p).2.1.identity = identity := by
  obtain ⟨e | e, socket, net⟩ := p
  · rfl
  · rfl

theorem outcome_alike {same : ν → ν' → Prop} (identity : IdentityPem) (config : Config)
    (role : Role) {p : Except TransportError (Established σ) × Socket × ν}
    {q : Except TransportError (Established σ) × Socket × ν'} (h : SameOutcome same p q) :
    SameOutcome same (outcome identity config role p) (outcome identity config role q) := by
  obtain ⟨r, socket, m, m', rfl, rfl, hstate⟩ := h.exists_eq
  cases r with
  | ok e => exact ⟨rfl, rfl, hstate⟩
  | error e => exact ⟨rfl, rfl, hstate⟩

variable [ByteStream σ] [Network ν σ] {t : Transport σ}

/-- Of a transport that is not established, `init` reads its settings, its identity and its listener,
and what giving up its session leaves of the network. -/
theorem init_eq_outcome (hdown : t.state ≠ .established) (role : Role) (net : ν) :
    t.init role net = outcome t.identity t.config role
      (Established.establish role t.config t.identity
        { listener := t.socket.listener, connection := none } (t.release net).2) := by
  rw [Transport.init, if_neg hdown]
  dsimp only
  rw [release_fst]
  dsimp only
  rcases Established.establish role t.config t.identity
      { listener := t.socket.listener, connection := none } (t.release net).2 with
    ⟨e | e, socket, net'⟩
  · rfl
  · rfl

/-! ## The identity of a transport -/

theorem identity_apply (op : Op ν σ) : (op.apply t).identity = t.identity := by
  cases huse : op.use? with
  | some use =>
    cases hlive : t.live? with
    | none => rw [(Op.use_of_down huse hlive).2]
    | some c =>
      rw [(Op.use_of_live huse hlive).2]
      rcases use c with ⟨_ | e, d⟩
      · rfl
      · rfl
  | none =>
    cases op with
    | set setting value =>
      show (t.set setting value).2.identity = t.identity
      unfold Transport.set
      split
      · rfl
      · split
        · rfl
        · rfl
    | bind net =>
      show (t.bind net).2.1.identity = t.identity
      unfold Transport.bind
      split
      · rfl
      · rfl
    | init role net =>
      show (t.init role net).2.1.identity = t.identity
      by_cases hup : t.state = .established
      · rw [init_of_up hup]
      · rw [init_eq_outcome hup]
        rw [identity_outcome]
    | close net =>
      show (t.close net).1.identity = t.identity
      rw [close_fst]
    | drift change => rfl
    | send m => cases huse
    | trySend m => cases huse
    | flush => cases huse
    | recv m => cases huse

theorem identity_run (ops : List (Op ν σ)) : (t.run ops).identity = t.identity := by
  induction ops generalizing t with
  | nil => rfl
  | cons op ops ih => exact (ih (t := op.apply t)).trans (identity_apply op)

/-! ## Bringing up again -/

/-- An `init` that a transport does not refuse comes to the same as that of a new transport with its
settings, identity and listener, on the network that giving up the old session leaves and on every
network that behaves alike.  If it succeeds, all that the transport has comes from its settings and
from what was answered to this attempt; if it fails, nothing is left but the role and the failure. -/
theorem init_run_new [Network ν' σ] (identity : IdentityPem) (config : Config)
    (ops : List (Op ν σ)) :
    let t : Transport σ := (Transport.new identity config).run ops
    t.state ≠ .established → ∀ (role : Role) (net : ν),
      let anew : Transport σ := listening identity t.config t.socket.listener
      let cleared := (t.release net).2
      t.init role net = anew.init role cleared ∧
      (∀ (same : ν → ν' → Prop) (net' : ν'), Network.Alike same → same cleared net' →
        SameOutcome same (t.init role net) (anew.init role net')) ∧
      match t.init role net with
      | (.ok (), u, _) => ∃ e, Established.Made role t.config identity anew.socket cleared e ∧
          u.context = some e.context ∧ u.channel = some e.channel ∧ u.peer = some e.peer
      | (.error _, u, _) =>
          u = { Transport.new identity t.config with role := some role, state := .failed } := by
  intro t hdown role net anew cleared
  have hidentity : t.identity = identity := identity_run ops
  have hinit := init_eq_outcome hdown role net
  rw [hidentity] at hinit
  have hanew : anew.state ≠ .established := TransportState.noConfusion
  refine ⟨hinit.trans (init_eq_outcome hanew role cleared).symm, fun same net' alike h => ?_, ?_⟩
  · rw [hinit, init_eq_outcome hanew role net']
    exact outcome_alike identity t.config role
      (Established.establish_alike alike h role t.config identity anew.socket)
  · rw [hinit]
    rcases hestablish : Established.establish role t.config identity
        { listener := t.socket.listener, connection := none } cleared with ⟨e | e, socket, net'⟩
    · have hsocket := Established.establish_error hestablish
      rw [hsocket]
      rfl
    · exact ⟨e, Established.made_of_establish hestablish, rfl, rfl, rfl⟩

end Transport

end PinnedLink
