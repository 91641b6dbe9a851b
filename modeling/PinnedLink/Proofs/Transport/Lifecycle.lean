import PinnedLink.Transport.Basic

/-!
# The life of a transport

What a transport has of session, connection and listener goes with its state.  `Lifecycle` says how,
and each operation keeps it, whatever the network, the other side and the stream under the channel
answer: `Lifecycle.init` from what bringing up a session leaves of the socket
(`Established.establish_ok`, `Established.establish_error`), `Lifecycle.close` from what closing
leaves, and the operations on the channel from `Lifecycle.settle`.
-/

namespace PinnedLink

open PinnedLink.Frame (Message)

/-! ## Sockets -/

namespace Socket

variable {ν σ : Type} [Network ν σ]

@[simp] theorem closeStream_fst (s : Socket) (net : ν) :
    (s.closeStream net).1 = { s with connection := none } := by
  obtain ⟨listener, connection⟩ := s
  cases connection <;> rfl

@[simp] theorem close_fst (s : Socket) (net : ν) : (s.close net).1 = unused := by
  obtain ⟨listener, connection⟩ := s
  cases connection <;> cases listener <;> rfl

theorem connection_bind (s : Socket) (net : ν) (host : String) (port : UInt16) :
    (s.bind net host port).2.1.connection = s.connection := by
  unfold bind
  split
  · split <;> rfl
  · split <;> rfl

/-- A socket that has accepted its peer is connected and does not listen. -/
theorem accept_ok {s t : Socket} {net net' : ν} {stream : σ}
    (h : s.accept net = (.ok stream, t, net')) :
    t.connection.isSome = true ∧ t.listener = none := by
  unfold accept at h
  split at h
  · cases h
  · split at h
    · cases h
      exact ⟨rfl, rfl⟩
    · cases h

/-- A socket that has connected is connected. -/
theorem connect_ok {s t : Socket} {net net' : ν} {host : String} {port : UInt16} {stream : σ}
    (h : s.connect net host port = (.ok stream, t, net')) : t.connection.isSome = true := by
  unfold connect at h
  split at h
  · cases h
    rfl
  · cases h

end Socket

/-! ## Bringing up a session -/

namespace Established

variable {ν σ : Type} [Network ν σ]

/-- A stream that was opened belongs to a connected socket, which listens no more if it accepted. -/
theorem openStream_ok {role : Role} {config : Config} {socket socket' : Socket} {net net' : ν}
    {stream : σ} (h : openStream role config socket net = (.ok stream, socket', net')) :
    socket'.connection.isSome = true ∧ (role = .acceptor → socket'.listener = none) := by
  cases role with
  | initiator => exact ⟨Socket.connect_ok h, fun hrole => by cases hrole⟩
  | acceptor =>
    unfold openStream at h
    dsimp only at h
    split at h
    · cases h
    · obtain ⟨hconnection, hlistener⟩ := Socket.accept_ok h
      exact ⟨hconnection, fun _ => hlistener⟩

variable [ByteStream σ]

/-- A session that is up has a connected socket, which listens no more if it accepted. -/
theorem establish_ok {role : Role} {config : Config} {identity : IdentityPem}
    {socket socket' : Socket} {net net' : ν} {e : Established σ}
    (h : establish role config identity socket net = (.ok e, socket', net')) :
    socket'.connection.isSome = true ∧ (role = .acceptor → socket'.listener = none) := by
  unfold establish at h
  split at h
  · rename_i hattempt
    cases h
    unfold attempt at hattempt
    split at hattempt
    · cases hattempt
    · split at hattempt
      · cases hattempt
      · rename_i hopen
        obtain ⟨-, rfl, -⟩ : _ ∧ _ = socket' ∧ _ := by
          simpa only [Prod.mk.injEq] using hattempt
        exact openStream_ok hopen
  · cases h

/-- A session that could not be brought up leaves a socket that has nothing. -/
theorem establish_error {role : Role} {config : Config} {identity : IdentityPem}
    {socket socket' : Socket} {net net' : ν} {e : TransportError}
    (h : establish role config identity socket net = (.error e, socket', net')) :
    socket' = .unused := by
  unfold establish at h
  split at h
  · cases h
  · rename_i socket'' net'' _
    have hclose := Socket.close_fst socket'' net''
    dsimp only at h
    cases h
    exact hclose

end Established

namespace Transport

variable {ν σ : Type}

/-! ## What goes together -/

/-- What a transport has, and the state that goes with it. -/
structure Lifecycle (t : Transport σ) : Prop where
  context_iff : t.channel.isSome ↔ t.context.isSome
  connection_iff : t.channel.isSome ↔ t.socket.connection.isSome
  established : t.state = .established → t.channel.isSome ∧ t.peer.isSome ∧ t.role.isSome
  channel : t.channel.isSome → t.state = .established ∨ t.state = .failed
  uninitialized : t.state = .uninitialized ↔ t.role = none
  acceptor : t.state = .established → t.role = some .acceptor → t.socket.listener = none

/-- What closing the transport `t` leaves of it. -/
structure Closed (t u : Transport σ) : Prop where
  channel : u.channel = none
  context : u.context = none
  socket : u.socket = .unused
  state : u.state = if t.channel.isSome then .closed else t.state

namespace Lifecycle

variable {t : Transport σ}

/-- A transport that has nothing may be in any state but established. -/
theorem of_nothing (hchannel : t.channel = none) (hcontext : t.context = none)
    (hsocket : t.socket = .unused) (hdown : t.state ≠ .established)
    (hrole : t.state = .uninitialized ↔ t.role = none) : Lifecycle t where
  context_iff := by simp [hchannel, hcontext]
  connection_iff := by simp [hchannel, hsocket, Socket.unused]
  established hup := absurd hup hdown
  channel hsome := by
    rw [hchannel] at hsome
    cases hsome
  uninitialized := hrole
  acceptor hup := absurd hup hdown

/-- A transport that is established has everything. -/
theorem of_up (hup : t.state = .established) (hchannel : t.channel.isSome)
    (hcontext : t.context.isSome) (hconnection : t.socket.connection.isSome)
    (hpeer : t.peer.isSome) (hrole : t.role.isSome)
    (hlistener : t.role = some .acceptor → t.socket.listener = none) : Lifecycle t where
  context_iff := iff_of_true hchannel hcontext
  connection_iff := iff_of_true hchannel hconnection
  established _ := ⟨hchannel, hpeer, hrole⟩
  channel _ := Or.inl hup
  uninitialized := by
    have hnever : t.state ≠ .uninitialized := by
      rw [hup]
      exact TransportState.noConfusion
    exact iff_of_false hnever (Option.isSome_iff_ne_none.1 hrole)
  acceptor _ := hlistener

/-- A transport that was never brought up. -/
theorem new (identity : IdentityPem) (config : Config) :
    Lifecycle (Transport.new identity config : Transport σ) :=
  of_nothing rfl rfl rfl TransportState.noConfusion (iff_of_true rfl rfl)

/-- A transport that something tried to bring up has a role. -/
theorem role_ne_none (h : Lifecycle t) (hstate : t.state ≠ .uninitialized) : t.role ≠ none := by
  intro hnone
  exact hstate (h.uninitialized.2 hnone)

end Lifecycle

theorem channel_of_live? {t : Transport σ} {c : Channel σ} (h : t.live? = some c) :
    t.state = .established ∧ t.channel = some c := by
  unfold live? at h
  split at h
  · exact ⟨‹_›, h⟩
  · cases h

/-- What an operation keeps: the life of a transport, its role unless it is brought up, and its
settings while it is established. -/
structure Keeps (init : Bool) (t u : Transport σ) : Prop where
  lifecycle : Lifecycle u
  role : u.role = none ↔ t.role = none ∧ init = false
  config : t.state = .established → u.config = t.config

theorem Keeps.refl {t : Transport σ} (h : Lifecycle t) : Keeps false t t :=
  ⟨h, ⟨fun hrole => ⟨hrole, rfl⟩, And.left⟩, fun _ => rfl⟩

/-! ## Operations -/

section Operations

variable {t : Transport σ}

/-- An operation on the channel keeps the transport up, or fails it and keeps what it has. -/
theorem Lifecycle.settle (h : Lifecycle t) {α : Type} (result : Except TransportError α)
    {c : Channel σ} (hlive : t.live? = some c) (d : Channel σ) :
    Keeps false t (t.settle result d) := by
  obtain ⟨hstate, hchannel⟩ := channel_of_live? hlive
  have hsome : t.channel.isSome := by rw [hchannel]; rfl
  have hcontext := h.context_iff.1 hsome
  have hconnection := h.connection_iff.1 hsome
  obtain ⟨-, hpeer, hrole⟩ := h.established hstate
  cases result with
  | ok a =>
    have hafter : Lifecycle (t.settle (.ok a : Except TransportError α) d) :=
      .of_up hstate rfl hcontext hconnection hpeer hrole (h.acceptor hstate)
    exact ⟨hafter, (Keeps.refl h).role, fun _ => rfl⟩
  | error e =>
    have hafter : Lifecycle (t.settle (.error e : Except TransportError α) d) :=
      { context_iff := iff_of_true rfl hcontext
        connection_iff := iff_of_true rfl hconnection
        established := fun hup => by cases hup
        channel := fun _ => Or.inr rfl
        uninitialized :=
          iff_of_false TransportState.noConfusion (Option.isSome_iff_ne_none.1 hrole)
        acceptor := fun hup => by cases hup }
    exact ⟨hafter, (Keeps.refl h).role, fun _ => rfl⟩

/-- What the stream does by itself changes nothing else. -/
theorem Lifecycle.drift (h : Lifecycle t) (change : σ → σ) :
    Keeps false t { t with channel := t.channel.map fun c => { c with stream := change c.stream } } := by
  refine ⟨⟨?_, ?_, ?_, ?_, h.uninitialized, h.acceptor⟩, (Keeps.refl h).role, fun _ => rfl⟩
  · rw [Option.isSome_map]
    exact h.context_iff
  · rw [Option.isSome_map]
    exact h.connection_iff
  · rw [Option.isSome_map]
    exact h.established
  · rw [Option.isSome_map]
    exact h.channel

theorem Lifecycle.set (h : Lifecycle t) (setting : Setting) (value : String) :
    Keeps false t (t.set setting value).2 := by
  unfold Transport.set
  split
  · exact .refl h
  · rename_i hdown
    split
    · exact ⟨⟨h.context_iff, h.connection_iff, h.established, h.channel, h.uninitialized, h.acceptor⟩,
        (Keeps.refl h).role, fun hup => absurd hup hdown⟩
    · exact .refl h

theorem Lifecycle.bind [Network ν σ] (h : Lifecycle t) (net : ν) : Keeps false t (t.bind net).2.1 := by
  unfold Transport.bind
  split
  · exact .refl h
  · rename_i hdown
    have hconnection := Socket.connection_bind t.socket net t.config.host t.config.port
    refine ⟨⟨h.context_iff, ?_, h.established, h.channel, h.uninitialized,
      fun hup => absurd hup hdown⟩, (Keeps.refl h).role, fun _ => rfl⟩
    show t.channel.isSome ↔ (t.socket.bind net t.config.host t.config.port).2.1.connection.isSome
    rw [hconnection]
    exact h.connection_iff

end Operations

/-! ## Everything that can happen -/

/-- What can happen to a transport.  Every operation that turns to the network finds it in a state of
its own. -/
inductive Op (ν σ : Type) where
  | set (setting : Setting) (value : String)
  | bind (net : ν)
  | init (role : Role) (net : ν)
  | send (m : Message)
  | trySend (m : Message)
  | flush
  | recv (m : Message)
  | close (net : ν)
  /-- The stream under the channel changes by itself. -/
  | drift (change : σ → σ)

namespace Op

/-- The operation tries to bring up a session. -/
def isInit : Op ν σ → Bool
  | .init _ _ => true
  | _ => false

end Op

variable [ByteStream σ]

/-- The transport after an operation. -/
def Op.apply [Network ν σ] (t : Transport σ) : Op ν σ → Transport σ
  | .set setting value => (t.set setting value).2
  | .bind net => (t.bind net).2.1
  | .init role net => (t.init role net).2.1
  | .send m => (t.send m).2
  | .trySend m => (t.trySend m).2
  | .flush => t.flush.2
  | .recv m => (t.recv m).2.1
  | .close net => (t.close net).1
  | .drift change =>
    { t with channel := t.channel.map fun c => { c with stream := change c.stream } }

/-- The transport after several operations. -/
def run [Network ν σ] (t : Transport σ) (ops : List (Op ν σ)) : Transport σ :=
  ops.foldl Op.apply t

section Operations

variable {t : Transport σ}

/-! ## Use -/

theorem Lifecycle.send (h : Lifecycle t) (m : Message) : Keeps false t (t.send m).2 := by
  unfold Transport.send
  split
  · exact .refl h
  · rename_i hlive
    exact h.settle _ hlive _

theorem Lifecycle.trySend (h : Lifecycle t) (m : Message) : Keeps false t (t.trySend m).2 := by
  unfold Transport.trySend
  split
  · exact .refl h
  · rename_i hlive
    exact h.settle _ hlive _

theorem Lifecycle.flush (h : Lifecycle t) : Keeps false t t.flush.2 := by
  unfold Transport.flush
  split
  · exact .refl h
  · rename_i hlive
    exact h.settle _ hlive _

theorem Lifecycle.recv (h : Lifecycle t) (m : Message) : Keeps false t (t.recv m).2.1 := by
  unfold Transport.recv
  split
  · exact .refl h
  · rename_i hlive
    exact h.settle _ hlive _

variable [Network ν σ]

/-! ## Giving up and bringing up -/

theorem release_fst (t : Transport σ) (net : ν) :
    (t.release net).1 =
      { t with channel := none, context := none, socket := { t.socket with connection := none } } := by
  simp only [release, Socket.closeStream_fst]

theorem close_fst (t : Transport σ) (net : ν) :
    (t.close net).1 =
      { t with
        channel := none
        context := none
        socket := .unused
        state := if t.channel.isSome then .closed else t.state } := by
  simp only [close, release_fst, Socket.close_fst]

/-- Closing a transport that has nothing does nothing. -/
theorem close_eq_self (hchannel : t.channel = none) (hcontext : t.context = none)
    (hsocket : t.socket = .unused) (net : ν) : t.close net = (t, net) := by
  obtain ⟨config, identity, role, state, socket, context, channel, peer⟩ := t
  dsimp only at hchannel hcontext hsocket
  subst hchannel hcontext hsocket
  rfl

theorem Lifecycle.close (h : Lifecycle t) (net : ν) : Keeps false t (t.close net).1 := by
  rw [close_fst]
  refine ⟨.of_nothing rfl rfl rfl ?_ ?_, (Keeps.refl h).role, fun _ => rfl⟩
  · show (if t.channel.isSome then .closed else t.state) ≠ TransportState.established
    split
    · exact TransportState.noConfusion
    · rename_i hnone
      intro hup
      exact hnone (h.established hup).1
  · show (if t.channel.isSome then .closed else t.state) = .uninitialized ↔ t.role = none
    split
    · rename_i hsome
      have hstate : t.state ≠ .uninitialized := by
        intro hnever
        rcases h.channel hsome with hup | hfailed
        · rw [hnever] at hup; cases hup
        · rw [hnever] at hfailed; cases hfailed
      exact iff_of_false TransportState.noConfusion (h.role_ne_none hstate)
    · exact h.uninitialized

theorem Lifecycle.init (h : Lifecycle t) (role : Role) (net : ν) :
    Keeps true t (t.init role net).2.1 := by
  unfold Transport.init
  split
  · rename_i hup
    have hrole : t.role ≠ none := by
      apply h.role_ne_none
      rw [hup]
      exact TransportState.noConfusion
    exact ⟨h, iff_of_false hrole fun hnone => hrole hnone.1, fun _ => rfl⟩
  · rename_i hdown
    have hrole : some role = none ↔ t.role = none ∧ true = false := by simp
    dsimp only
    rw [release_fst]
    split
    · rename_i hestablish
      obtain ⟨hconnection, hlistener⟩ := Established.establish_ok hestablish
      refine ⟨.of_up rfl rfl rfl hconnection rfl rfl ?_, hrole, fun hup => absurd hup hdown⟩
      intro hacceptor
      exact hlistener (Option.some.inj hacceptor)
    · rename_i hestablish
      have hsocket := Established.establish_error hestablish
      refine ⟨.of_nothing rfl rfl hsocket ?_ ?_, hrole, fun hup => absurd hup hdown⟩
      · exact TransportState.noConfusion
      · exact iff_of_false TransportState.noConfusion (Option.some_ne_none role)

/-! ## Runs -/

/-- Every operation keeps the life of a transport. -/
theorem Lifecycle.apply (h : Lifecycle t) (op : Op ν σ) : Keeps op.isInit t (op.apply t) := by
  cases op with
  | set setting value => exact h.set setting value
  | bind net => exact h.bind net
  | init role net => exact h.init role net
  | send m => exact h.send m
  | trySend m => exact h.trySend m
  | flush => exact h.flush
  | recv m => exact h.recv m
  | close net => exact h.close net
  | drift change => exact h.drift change

theorem Lifecycle.run (h : Lifecycle t) (ops : List (Op ν σ)) :
    Lifecycle (t.run ops) ∧
      ((t.run ops).role = none ↔ t.role = none ∧ ∀ op ∈ ops, op.isInit = false) := by
  induction ops generalizing t with
  | nil => exact ⟨h, by simp [Transport.run]⟩
  | cons op ops ih =>
    have hkeeps := h.apply op
    obtain ⟨hlast, hrole⟩ := ih hkeeps.lifecycle
    refine ⟨hlast, ?_⟩
    rw [Transport.run, List.foldl_cons, ← Transport.run, hrole, hkeeps.role, and_assoc,
      List.forall_mem_cons]

end Operations

/-- In every state that a new transport can reach, what it has goes with its state; it is
uninitialized until something tries to bring it up, and never again; its settings stay while it is
established; and closing it leaves nothing to close again. -/
theorem run_new_lifecycle [Network ν σ] (identity : IdentityPem) (config : Config)
    (ops : List (Op ν σ)) :
    let t : Transport σ := (Transport.new identity config).run ops
    Lifecycle t ∧ (t.role = none ↔ ∀ op ∈ ops, op.isInit = false) ∧
      (∀ op : Op ν σ, (op.apply t).state = .uninitialized → t.state = .uninitialized) ∧
      (t.state = .established → ∀ op : Op ν σ, (op.apply t).config = t.config) ∧
      ∀ net : ν, Closed t (t.close net).1 ∧
        ∀ net' : ν, (t.close net).1.close net' = ((t.close net).1, net') := by
  intro t
  obtain ⟨hlife, hrole⟩ := (Lifecycle.new identity config).run ops
  refine ⟨hlife, ?_, fun op hnever => ?_, fun hup op => (hlife.apply op).config hup, fun net => ?_⟩
  · rw [hrole]
    exact and_iff_right rfl
  · have hkeeps := hlife.apply op
    exact hlife.uninitialized.2 (hkeeps.role.1 (hkeeps.lifecycle.uninitialized.1 hnever)).1
  · have hclosed : Closed t (t.close net).1 := by
      rw [close_fst]
      exact ⟨rfl, rfl, rfl, rfl⟩
    exact ⟨hclosed, close_eq_self hclosed.channel hclosed.context hclosed.socket⟩

end Transport

end PinnedLink
