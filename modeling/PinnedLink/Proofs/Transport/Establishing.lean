import PinnedLink.Proofs.Network.Recorded
import PinnedLink.Proofs.Transport.Lifecycle

/-!
# Bringing up a session, stage by stage

What a party relies on before it turns to the network is a parameter here (`Toolkit`), since a
provider of cryptography may refuse the versions or the configuration that it is asked for.
`Established.establish` is `establishWith` with the toolkit that never does (`establish_eq`).

`Fails` lists what can go wrong, one stage after the other: with each way to fail go the error, the
calls of the network up to then, and what the socket holds.  Behind a failure at any stage the socket
is closed, and all that the network has given is given back; a failure that comes before the stream
has asked the network for nothing (`establish_stages`).
-/

namespace PinnedLink

/-! ## Preparing -/

@[simp] theorem mapError_ok {ε ε' α : Type} (f : ε → ε') (a : α) :
    (Except.ok a : Except ε α).mapError f = .ok a := rfl

@[simp] theorem mapError_error {ε ε' α : Type} (f : ε → ε') (e : ε) :
    (Except.error e : Except ε α).mapError f = .error (f e) := rfl

/-- What a party relies on to prepare itself. -/
structure Toolkit where
  /-- A context for some versions. -/
  create : VersionPolicy → Except ContextCause CryptoContext
  decoders : Decoders
  /-- Reads the name of a server. -/
  serverName? : String → Option Host
  /-- Starts a session. -/
  start : Opening → Except ContextCause Unit

namespace Toolkit

/-- The toolkit that is used. -/
def standard : Toolkit :=
  { create := fun versions => .ok (.fresh versions)
    decoders := .standard
    serverName? := Host.parse?
    start := fun _ => .ok () }

variable (kit : Toolkit)

/-- Makes a context and loads identity and trust. -/
def load (config : Config) (identity : IdentityPem) : Except TransportError CryptoContext := do
  let context ← (kit.create config.versions).mapError .contextCreationFailed
  let context ← (CryptoContext.ofCall
    (context.loadIdentityWith kit.decoders identity.cert identity.key)).mapError .identity
  match config.trustedPeerPem with
  | none => return context
  | some pem =>
    (CryptoContext.ofCall
      (context.trustPeerPemWith kit.decoders (Text.utf8 pem))).mapError .identity

/-- What a role brings to its handshake. -/
def opening (role : Role) (config : Config) (context : CryptoContext) :
    Except TransportError Opening :=
  match role with
  | .initiator =>
    match kit.serverName? config.host with
    | none => .error (.contextCreationFailed (.invalidServerName config.host))
    | some name => context.clientConfig.map (.client name)
  | .acceptor => context.serverConfig.map .server

/-- Prepares a party. -/
def prepare (role : Role) (config : Config) (identity : IdentityPem) :
    Except TransportError Plan := do
  let context ← kit.load config identity
  let opening ← kit.opening role config context
  (kit.start opening).mapError .contextCreationFailed
  return { context, opening }

end Toolkit

/-- The standard toolkit prepares the plan of the party. -/
theorem Plan.make_eq (role : Role) (config : Config) (identity : IdentityPem) :
    Plan.make role config identity = Toolkit.standard.prepare role config identity := by
  have hload : loadContext config identity = Toolkit.standard.load config identity := by
    unfold loadContext Toolkit.load CryptoContext.assemble CryptoContext.loadIdentity
    simp only [Toolkit.standard, mapError_ok, bind, Except.bind]
    rcases CryptoContext.ofCall ((CryptoContext.fresh config.versions).loadIdentityWith .standard
      identity.cert identity.key) with e | c
    · rfl
    · cases config.trustedPeerPem with
      | none => rfl
      | some pem =>
        simp only [Option.map_some, CryptoContext.trustPeerPem, mapError_ok]
        cases CryptoContext.ofCall (c.trustPeerPemWith .standard (Text.utf8 pem)) <;> rfl
  have hopening (context : CryptoContext) :
      openingFor role config context = Toolkit.standard.opening role config context := rfl
  unfold make Toolkit.prepare
  rw [hload]
  simp only [hopening, Toolkit.standard, mapError_ok]
  rfl

/-- The stages of bringing up a session. -/
inductive Stage where
  | context
  | identity
  | trust
  | serverName
  | session
  | connect
  | bind
  | accept
  | handshake
  | nonBlocking
deriving DecidableEq, Repr

/-- The stage comes before the stream. -/
def Stage.isPreparation : Stage → Bool
  | .context | .identity | .trust | .serverName | .session => true
  | _ => false

/-- How preparing a party fails: the first stage that does not succeed, and its error. -/
inductive Unprepared (kit : Toolkit) (role : Role) (config : Config) (identity : IdentityPem) :
    Stage → TransportError → Prop
  | context {cause : ContextCause} (h : kit.create config.versions = .error cause) :
    Unprepared kit role config identity .context (.contextCreationFailed cause)
  | identity {context : CryptoContext} {e : LoadError}
    (hcreate : kit.create config.versions = .ok context)
    (h : kit.decoders.readIdentity identity.cert identity.key = .error e) :
    Unprepared kit role config identity .identity (.identity e)
  | trust {context : CryptoContext} {i : Identity} {pem : String} {cause : CertificateCause}
    (hcreate : kit.create config.versions = .ok context)
    (hidentity : kit.decoders.readIdentity identity.cert identity.key = .ok i)
    (hpem : config.trustedPeerPem = some pem)
    (h : kit.decoders.readChain (Text.utf8 pem) = .error cause) :
    Unprepared kit role config identity .trust (.identity (.badCertificate cause))
  | serverName {context : CryptoContext} (hload : kit.load config identity = .ok context)
    (hrole : role = .initiator) (h : kit.serverName? config.host = none) :
    Unprepared kit role config identity .serverName
      (.contextCreationFailed (.invalidServerName config.host))
  | session {context : CryptoContext} {opening : Opening} {cause : ContextCause}
    (hload : kit.load config identity = .ok context)
    (hopening : kit.opening role config context = .ok opening)
    (h : kit.start opening = .error cause) :
    Unprepared kit role config identity .session (.contextCreationFailed cause)

section Preparing

variable {kit : Toolkit} {role : Role} {config : Config} {identity : IdentityPem}

/-- Loading fails at one of its stages, or leaves a context with an identity. -/
theorem load_cases (kit : Toolkit) (role : Role) (config : Config) (identity : IdentityPem) :
    (∃ stage e, kit.load config identity = .error e ∧
        Unprepared kit role config identity stage e) ∨
      ∃ context i, kit.load config identity = .ok context ∧ context.requireIdentity = .ok i := by
  unfold Toolkit.load
  simp only [CryptoContext.loadIdentityWith, CryptoContext.trustPeerPemWith]
  cases hcreate : kit.create config.versions with
  | error cause => exact Or.inl ⟨_, _, rfl, .context hcreate⟩
  | ok context =>
    cases hidentity : kit.decoders.readIdentity identity.cert identity.key with
    | error e => exact Or.inl ⟨_, _, rfl, .identity hcreate hidentity⟩
    | ok i =>
      cases hpem : config.trustedPeerPem with
      | none => exact Or.inr ⟨_, i, rfl, rfl⟩
      | some pem =>
        cases htrust : kit.decoders.readChain (Text.utf8 pem) with
        | error cause =>
          refine Or.inl ⟨_, _, ?_, .trust hcreate hidentity hpem htrust⟩
          simp only [mapError_ok, mapError_error, CryptoContext.ofCall, bind, Except.bind, htrust]
        | ok certs =>
          let trusting := { context.installIdentity i with added := context.added ++ certs }
          refine Or.inr ⟨trusting, i, ?_, rfl⟩
          simp only [mapError_ok, CryptoContext.ofCall, bind, Except.bind, htrust]
          rfl

/-- Only the name of a server can be refused behind loading. -/
theorem opening_cases (role : Role) {context : CryptoContext} {i : Identity}
    (hidentity : context.requireIdentity = .ok i) :
    (role = .initiator ∧ kit.serverName? config.host = none ∧
        kit.opening role config context =
          .error (.contextCreationFailed (.invalidServerName config.host))) ∨
      ∃ opening, kit.opening role config context = .ok opening := by
  unfold Toolkit.opening CryptoContext.clientConfig CryptoContext.serverConfig
  rw [hidentity]
  cases role with
  | initiator =>
    cases hname : kit.serverName? config.host with
    | none => exact Or.inl ⟨rfl, rfl, rfl⟩
    | some name => exact Or.inr ⟨_, rfl⟩
  | acceptor => exact Or.inr ⟨_, rfl⟩

/-- A party is prepared, or preparing it fails at one of its stages. -/
theorem prepare_cases (kit : Toolkit) (role : Role) (config : Config) (identity : IdentityPem) :
    (∃ stage e, kit.prepare role config identity = .error e ∧
        Unprepared kit role config identity stage e) ∨
      ∃ plan, kit.prepare role config identity = .ok plan := by
  unfold Toolkit.prepare
  obtain ⟨stage, e, hload, hunprepared⟩ | ⟨context, i, hload, hidentity⟩ :=
    load_cases kit role config identity
  · rw [hload]
    exact Or.inl ⟨stage, e, rfl, hunprepared⟩
  rw [hload]
  obtain ⟨hrole, hname, hopening⟩ | ⟨opening, hopening⟩ := opening_cases role hidentity
  · refine Or.inl ⟨_, _, ?_, .serverName hload hrole hname⟩
    simp only [bind, Except.bind, hopening]
  · cases hstart : kit.start opening with
    | error cause =>
      refine Or.inl ⟨_, _, ?_, .session hload hopening hstart⟩
      simp only [bind, Except.bind, hopening, hstart, mapError_error]
    | ok _ =>
      refine Or.inr ⟨{ context, opening }, ?_⟩
      simp only [bind, Except.bind, hopening, hstart, mapError_ok]
      rfl

/-- A stage that fails is what preparing the party fails with. -/
theorem prepare_of_unprepared {stage : Stage} {e : TransportError}
    (h : Unprepared kit role config identity stage e) :
    kit.prepare role config identity = .error e := by
  unfold Toolkit.prepare
  cases h with
  | context h => simp only [Toolkit.load, h, mapError_error, bind, Except.bind]
  | identity hcreate h =>
    simp only [Toolkit.load, CryptoContext.loadIdentityWith, hcreate, h, CryptoContext.ofCall,
      mapError_ok, mapError_error, bind, Except.bind]
  | trust hcreate hidentity hpem h =>
    simp only [Toolkit.load, CryptoContext.loadIdentityWith, CryptoContext.trustPeerPemWith, hcreate,
      hidentity, hpem, h, CryptoContext.ofCall, mapError_ok, mapError_error, bind, Except.bind]
  | serverName hload hrole h =>
    subst hrole
    simp only [hload, Toolkit.opening, h, bind, Except.bind]
  | session hload hopening h =>
    simp only [hload, hopening, h, mapError_error, bind, Except.bind]

end Preparing

/-! ## Opening a stream -/

/-- A socket that listens at an address, behind the calls by which it does. -/
inductive Listens (config : Config) (socket : Socket) : List NetworkCall → SocketAddress → Prop
  | already {address : SocketAddress} (h : socket.listener = some address) (bound : SocketAddress) :
    Listens config socket [.localAddress address (.ok bound)] address
  | anew {address : SocketAddress} (h : socket.listener = none) :
    Listens config socket [.listen config.host config.port (.ok address)] address

/-- How a role opens its stream: the calls of the network, whether it fails and at which stage, and
what the socket then holds. -/
inductive Opens (config : Config) (socket : Socket) :
    Role → List NetworkCall → Except (Stage × TransportError) Unit → Socket → Prop
  | unconnected (e : IoError) :
    Opens config socket .initiator [.connect config.host config.port (.error e)]
      (.error (.connect, .connectFailed (Socket.place config.host config.port) e)) socket
  | connected (connection : Connection) :
    Opens config socket .initiator [.connect config.host config.port (.ok connection)] (.ok ())
      { socket with connection := some connection }
  | unbound (e : IoError) (h : socket.listener = none) :
    Opens config socket .acceptor [.listen config.host config.port (.error e)]
      (.error (.bind, .bindFailed (Socket.place config.host config.port) e)) socket
  | unnamed {address : SocketAddress} (e : IoError) (h : socket.listener = some address) :
    Opens config socket .acceptor [.localAddress address (.error e)]
      (.error (.bind, .bindFailed (Socket.place config.host config.port) e)) socket
  | unaccepted {calls : List NetworkCall} {address : SocketAddress}
    (h : Listens config socket calls address) (e : IoError) :
    Opens config socket .acceptor (calls ++ [.accept address (.error e)])
      (.error (.accept, .acceptFailed e)) { socket with listener := some address }
  | accepted {calls : List NetworkCall} {address : SocketAddress}
    (h : Listens config socket calls address) (connection : Connection) :
    Opens config socket .acceptor (calls ++ [.accept address (.ok connection), .unlisten address])
      (.ok ()) { listener := none, connection := some connection }

section Opening

variable {ν σ : Type} [Network ν σ] {config : Config} {socket socket' : Socket}
  {net net' : Recorded ν}

/-- Binding leaves a socket that listens, or what the socket was if the network refuses. -/
theorem bind_listens {r : Except TransportError SocketAddress}
    (h : socket.bind net config.host config.port = (r, socket', net')) :
    ∃ calls, net'.calls = net.calls ++ calls ∧
      ((∃ e, r = .error e ∧ Opens config socket .acceptor calls (.error (.bind, e)) socket') ∨
        ∃ address bound, Listens config socket calls address ∧ r = .ok bound ∧
          socket' = { socket with listener := some address }) := by
  unfold Socket.bind at h
  split at h
  · rename_i address hlistener
    split at h
    · rename_i bound net'' hname
      cases h
      refine ⟨_, Recorded.calls_localAddress hname,
        Or.inr ⟨address, bound, .already hlistener bound, rfl, ?_⟩⟩
      rw [← hlistener]
    · rename_i e net'' hname
      cases h
      exact ⟨_, Recorded.calls_localAddress hname, Or.inl ⟨_, rfl, .unnamed e hlistener⟩⟩
  · rename_i hfree
    split at h
    · rename_i address net'' hlisten
      cases h
      exact ⟨_, Recorded.calls_listen hlisten, Or.inr ⟨address, _, .anew hfree, rfl, rfl⟩⟩
    · rename_i e net'' hlisten
      cases h
      exact ⟨_, Recorded.calls_listen hlisten, Or.inl ⟨_, rfl, .unbound e hfree⟩⟩

/-- Opening a stream goes one of the ways of `Opens`, and no call was made of a stream that it
opens. -/
theorem openStream_opens {role : Role} {r : Except TransportError (Logged σ)}
    (h : Established.openStream role config socket net = (r, socket', net')) :
    ∃ calls, net'.calls = net.calls ++ calls ∧
      ((∃ stage e, r = .error e ∧ Opens config socket role calls (.error (stage, e)) socket') ∨
        ∃ stream, r = .ok stream ∧ stream.calls = [] ∧
          Opens config socket role calls (.ok ()) socket') := by
  unfold Established.openStream at h
  cases role with
  | initiator =>
    dsimp only at h
    unfold Socket.connect at h
    split at h
    · rename_i connection stream net'' hconnect
      cases h
      obtain ⟨hcalls, hunused⟩ := Recorded.calls_connect hconnect
      exact ⟨_, hcalls, Or.inr ⟨stream, rfl, hunused _ rfl, .connected connection⟩⟩
    · rename_i e net'' hconnect
      cases h
      exact ⟨_, (Recorded.calls_connect hconnect).1, Or.inl ⟨_, _, rfl, .unconnected e⟩⟩
  | acceptor =>
    dsimp only at h
    rcases hbind : socket.bind net config.host config.port with ⟨bound, listening, there⟩
    rw [hbind] at h
    obtain ⟨calls, hcalls, ⟨e, rfl, hopens⟩ | ⟨address, bound, hlistens, rfl, rfl⟩⟩ :=
      bind_listens hbind
    · cases h
      exact ⟨calls, hcalls, Or.inl ⟨_, _, rfl, hopens⟩⟩
    · unfold Socket.accept at h
      dsimp only at h
      split at h
      · rename_i connection stream net'' haccept
        cases h
        obtain ⟨haccepted, hunused⟩ := Recorded.calls_accept haccept
        refine ⟨_, ?_, Or.inr ⟨stream, rfl, hunused _ rfl, .accepted hlistens connection⟩⟩
        rw [Recorded.calls_unlisten, haccepted, hcalls]
        simp only [List.append_assoc, List.cons_append, List.nil_append]
        rfl
      · rename_i e net'' haccept
        cases h
        refine ⟨_, ?_, Or.inl ⟨_, _, rfl, .unaccepted hlistens e⟩⟩
        rw [(Recorded.calls_accept haccept).1, hcalls, List.append_assoc]
        rfl

end Opening

/-! ## Securing the stream -/

/-- How the handshake over a stream goes, and the change of mode behind it. -/
inductive Secures : List NetworkCall → Except (Stage × TransportError) Unit → Prop
  | refused (cause : HandshakeCause) :
    Secures [.shakeHands (.error cause), .retire []]
      (.error (.handshake, .handshakeFailed cause))
  | stillBlocking (e : IoError) :
    Secures [.shakeHands (.ok ()), .retire [.setBlocking false (.error e)]]
      (.error (.nonBlocking, .handshakeFailed (.stillBlocking e)))
  | secured : Secures [.shakeHands (.ok ())] (.ok ())

/-- Securing a stream goes one of the ways of `Secures`, and a session that is up has the bound of its
configuration and a stream that was told not to wait and does not. -/
theorem secure_secures {ν σ : Type} [Network ν σ] [ByteStream σ] {plan : Plan} {config : Config}
    {stream : Logged σ} {net net' : Recorded ν} {r : Except TransportError (Established (Logged σ))}
    (hunused : stream.calls = []) (h : Established.secure plan config stream net = (r, net')) :
    ∃ calls, net'.calls = net.calls ++ calls ∧
      ((∃ stage e, r = .error e ∧ Secures calls (.error (stage, e))) ∨
        ∃ established, r = .ok established ∧ Secures calls (.ok ()) ∧
          established.channel.maxBodyLen = config.maxBodyLen.toNat ∧
          established.channel.stream.calls = [.setBlocking false (.ok ())]) := by
  unfold Established.secure at h
  split at h
  · rename_i cause after net'' hhandshake
    cases h
    obtain ⟨hcalls, hkept⟩ := Recorded.calls_shakeHands hhandshake
    refine ⟨_, ?_, Or.inl ⟨_, _, rfl, .refused cause⟩⟩
    rw [Recorded.calls_retire, hcalls, hkept, hunused, List.append_assoc]
    rfl
  · rename_i session peer after net'' hhandshake
    obtain ⟨hcalls, hkept⟩ := Recorded.calls_shakeHands hhandshake
    split at h
    · rename_i e blocked hmode
      cases h
      have hmodes := Logged.calls_setBlocking hmode
      refine ⟨_, ?_, Or.inl ⟨_, _, rfl, .stillBlocking e⟩⟩
      rw [Recorded.calls_retire, hcalls, hmodes, hkept, hunused, List.append_assoc]
      rfl
    · rename_i free hmode
      cases h
      have hmodes := Logged.calls_setBlocking hmode
      rw [hkept, hunused] at hmodes
      exact ⟨_, hcalls, Or.inr ⟨_, rfl, .secured, rfl, hmodes⟩⟩

/-! ## All stages -/

namespace Established

variable {ν σ : Type} [Network ν σ] [ByteStream σ]

/-- Goes through the stages that are left once a party is prepared, or not. -/
def attemptWith (prepared : Except TransportError Plan) (role : Role) (config : Config)
    (socket : Socket) (net : ν) : Except TransportError (Established σ) × Socket × ν :=
  match prepared with
  | .error e => (.error e, socket, net)
  | .ok plan =>
    match openStream role config socket net with
    | (.error e, socket, net) => (.error e, socket, net)
    | (.ok stream, socket, net) =>
      let (result, net) := secure plan config stream net
      (result, socket, net)

/-- Brings up a session with a toolkit, or closes the socket. -/
def establishWith (kit : Toolkit) (role : Role) (config : Config) (identity : IdentityPem)
    (socket : Socket) (net : ν) : Except TransportError (Established σ) × Socket × ν :=
  match attemptWith (kit.prepare role config identity) role config socket net with
  | (.ok established, socket, net) => (.ok established, socket, net)
  | (.error e, socket, net) =>
    let (socket, net) := socket.close net
    (.error e, socket, net)

theorem establish_eq (role : Role) (config : Config) (identity : IdentityPem) (socket : Socket)
    (net : ν) : establish role config identity socket net =
      establishWith .standard role config identity socket net := by
  unfold establish establishWith attempt attemptWith
  rewrite [Plan.make_eq]
  rfl

end Established

/-- How bringing up a session fails: the stage that fails and its error, the calls of the network up to
then, and what the socket then holds. -/
inductive Fails (kit : Toolkit) (role : Role) (config : Config) (identity : IdentityPem)
    (socket : Socket) : Stage → TransportError → List NetworkCall → Socket → Prop
  | unprepared {stage : Stage} {e : TransportError}
    (h : Unprepared kit role config identity stage e) :
    Fails kit role config identity socket stage e [] socket
  | unopened {plan : Plan} {stage : Stage} {e : TransportError} {calls : List NetworkCall}
    {held : Socket} (hplan : kit.prepare role config identity = .ok plan)
    (h : Opens config socket role calls (.error (stage, e)) held) :
    Fails kit role config identity socket stage e calls held
  | unsecured {plan : Plan} {stage : Stage} {e : TransportError} {calls more : List NetworkCall}
    {held : Socket} (hplan : kit.prepare role config identity = .ok plan)
    (hopens : Opens config socket role calls (.ok ()) held)
    (h : Secures more (.error (stage, e))) :
    Fails kit role config identity socket stage e (calls ++ more) held

/-- How bringing up a session succeeds: every stage does. -/
inductive Succeeds (kit : Toolkit) (role : Role) (config : Config) (identity : IdentityPem)
    (socket : Socket) : List NetworkCall → Socket → Prop
  | intro {plan : Plan} {calls more : List NetworkCall} {held : Socket}
    (hplan : kit.prepare role config identity = .ok plan)
    (hopens : Opens config socket role calls (.ok ()) held) (hsecures : Secures more (.ok ())) :
    Succeeds kit role config identity socket (calls ++ more) held

section Stages

variable {ν σ : Type} [Network ν σ] [ByteStream σ] {kit : Toolkit} {role : Role} {config : Config}
  {identity : IdentityPem} {socket : Socket}

/-- An attempt fails at one of its stages, or all of them succeed. -/
theorem attempt_stages {r : Except TransportError (Established (Logged σ))} {socket' : Socket}
    {net net' : Recorded ν}
    (h : Established.attemptWith (kit.prepare role config identity) role config socket net =
      (r, socket', net')) :
    ∃ calls, net'.calls = net.calls ++ calls ∧
      ((∃ stage e, r = .error e ∧ Fails kit role config identity socket stage e calls socket') ∨
        ∃ established, r = .ok established ∧
          Succeeds kit role config identity socket calls socket' ∧
          established.channel.maxBodyLen = config.maxBodyLen.toNat ∧
          established.channel.stream.calls = [.setBlocking false (.ok ())]) := by
  unfold Established.attemptWith at h
  obtain ⟨stage, e, hprepare, hunprepared⟩ | ⟨plan, hplan⟩ := prepare_cases kit role config identity
  · rw [hprepare] at h
    cases h
    exact ⟨[], (List.append_nil _).symm, Or.inl ⟨stage, e, rfl, .unprepared hunprepared⟩⟩
  rw [hplan] at h
  dsimp only at h
  rcases hopen : Established.openStream role config socket net with ⟨opened, held, there⟩
  rw [hopen] at h
  obtain ⟨calls, hcalls, ⟨stage, e, rfl, hopens⟩ | ⟨stream, rfl, hunused, hopens⟩⟩ :=
    openStream_opens hopen
  · cases h
    exact ⟨calls, hcalls, Or.inl ⟨stage, e, rfl, .unopened hplan hopens⟩⟩
  dsimp only at h
  rcases hsecure : Established.secure plan config stream there with ⟨secured, after⟩
  rw [hsecure] at h
  cases h
  obtain ⟨more, hmore, ⟨stage, e, rfl, hsecures⟩ | ⟨established, rfl, hsecures, hup⟩⟩ :=
    secure_secures hunused hsecure
  · refine ⟨calls ++ more, ?_, Or.inl ⟨stage, e, rfl, .unsecured hplan hopens hsecures⟩⟩
    rw [hmore, hcalls, List.append_assoc]
  · refine ⟨calls ++ more, ?_, Or.inr ⟨established, rfl, .intro hplan hopens hsecures, hup⟩⟩
    rw [hmore, hcalls, List.append_assoc]

end Stages

/-! ## What is left behind -/

/-- What the network has given a socket in several calls is held, or was given back. -/
structure Holds (socket : Socket) (calls : List NetworkCall) (held : Socket) : Prop where
  connections : ∀ call ∈ calls, ∀ connection, call.connection? = some connection →
    held.connection = some connection
  listeners : ∀ address,
    socket.listener = some address ∨ (∃ call ∈ calls, call.address? = some address) →
      held.listener = some address ∨ .unlisten address ∈ calls
  /-- An older connection is only dropped for a newer one. -/
  older : ∀ connection, socket.connection = some connection →
    held.connection = some connection ∨ ∃ call ∈ calls, call.connection?.isSome = true

/-- What the network has given a socket in several calls was given back. -/
structure GivesBack (socket : Socket) (calls : List NetworkCall) : Prop where
  connections : ∀ call ∈ calls, ∀ connection, call.connection? = some connection →
    .hangUp connection ∈ calls
  listeners : ∀ address,
    socket.listener = some address ∨ (∃ call ∈ calls, call.address? = some address) →
      .unlisten address ∈ calls
  older : ∀ connection, socket.connection = some connection →
    .hangUp connection ∈ calls ∨ ∃ call ∈ calls, call.connection?.isSome = true

section Holding

variable {config : Config} {role : Role} {socket held : Socket} {calls more : List NetworkCall}

theorem Opens.holds {r : Except (Stage × TransportError) Unit}
    (h : Opens config socket role calls r held) : Holds socket calls held := by
  cases h with
  | unconnected e => constructor <;> simp [NetworkCall.connection?, NetworkCall.address?]
  | connected connection => constructor <;> simp [NetworkCall.connection?, NetworkCall.address?]
  | unbound e hfree => constructor <;> simp [NetworkCall.connection?, NetworkCall.address?]
  | unnamed e hlistens => constructor <;> simp [NetworkCall.connection?, NetworkCall.address?]
  | unaccepted hlistens e =>
    cases hlistens <;> constructor <;> simp_all [NetworkCall.connection?, NetworkCall.address?]
  | accepted hlistens connection =>
    cases hlistens <;> constructor <;> simp_all [NetworkCall.connection?, NetworkCall.address?]

/-- Calls by which the network gives nothing change nothing. -/
theorem Holds.append (h : Holds socket calls held)
    (hmore : ∀ call ∈ more, call.connection? = none ∧ call.address? = none) :
    Holds socket (calls ++ more) held where
  connections call hcall connection hgiven := by
    obtain hcall | hcall := List.mem_append.1 hcall
    · exact h.connections call hcall connection hgiven
    · rw [(hmore call hcall).1] at hgiven
      cases hgiven
  listeners address hlistens := by
    have hbefore : socket.listener = some address ∨
        ∃ call ∈ calls, call.address? = some address := by
      refine hlistens.imp_right fun ⟨call, hcall, hgiven⟩ => ?_
      obtain hcall | hcall := List.mem_append.1 hcall
      · exact ⟨call, hcall, hgiven⟩
      · rw [(hmore call hcall).2] at hgiven
        cases hgiven
    exact (h.listeners address hbefore).imp_right (List.mem_append_left _)
  older connection holder :=
    (h.older connection holder).imp_right fun ⟨call, hcall, hgiven⟩ =>
      ⟨call, List.mem_append_left _ hcall, hgiven⟩

/-- Closing the socket gives back what it holds. -/
theorem Holds.close (h : Holds socket calls held) : GivesBack socket (calls ++ held.closing) := by
  have hall : Holds socket (calls ++ held.closing) held :=
    h.append fun call hcall => (Socket.closing_asks_nothing hcall).2
  refine ⟨fun call hcall connection hgiven => ?_, fun address hlistens => ?_,
    fun connection holder => ?_⟩
  · have hheld := hall.connections call hcall connection hgiven
    exact List.mem_append_right _ (Socket.hangUp_mem_closing hheld)
  · refine (hall.listeners address hlistens).elim (fun hheld => ?_) id
    exact List.mem_append_right _ (Socket.unlisten_mem_closing hheld)
  · refine (hall.older connection holder).imp_left fun hheld => ?_
    exact List.mem_append_right _ (Socket.hangUp_mem_closing hheld)

/-- Securing a stream gives nothing of the network, and takes the stream back if it fails. -/
theorem Secures.gives_nothing {r : Except (Stage × TransportError) Unit} (h : Secures more r) :
    ∀ call ∈ more, call.connection? = none ∧ call.address? = none := by
  cases h <;> simp [NetworkCall.connection?, NetworkCall.address?]

theorem Secures.retires {stage : Stage} {e : TransportError} (h : Secures more (.error (stage, e))) :
    stage.isPreparation = false ∧ ∃ used, .retire used ∈ more := by
  cases h <;> exact ⟨rfl, _, List.mem_cons_of_mem _ (List.mem_singleton_self _)⟩

/-- Where no stream is opened, the network has given none. -/
theorem Opens.no_stream {stage : Stage} {e : TransportError}
    (h : Opens config socket role calls (.error (stage, e)) held) :
    stage.isPreparation = false ∧ ∀ call ∈ calls, call.connection? = none := by
  cases h with
  | unconnected e => simp [Stage.isPreparation, NetworkCall.connection?]
  | unbound e hfree => simp [Stage.isPreparation, NetworkCall.connection?]
  | unnamed e hlistens => simp [Stage.isPreparation, NetworkCall.connection?]
  | unaccepted hlistens e => cases hlistens <;> simp [Stage.isPreparation, NetworkCall.connection?]

/-- A stream that is opened was not refused, and an acceptor listens no more. -/
theorem Opens.of_ok (h : Opens config socket role calls (.ok ()) held) :
    held.connection.isSome = true ∧ (role = .acceptor → held.listener = none) ∧
      ∀ call ∈ calls, call.refused = false := by
  cases h with
  | connected connection => simp [NetworkCall.refused]
  | accepted hlistens connection => cases hlistens <;> simp [NetworkCall.refused]

end Holding

section Outcome

variable {kit : Toolkit} {role : Role} {config : Config} {identity : IdentityPem}
  {socket held : Socket} {calls : List NetworkCall} {stage : Stage} {e : TransportError}

/-- What the network has given until a stage fails is held by the socket, apart from the stream, which
was taken back; and before the stream nothing was asked of it. -/
theorem Fails.holds (h : Fails kit role config identity socket stage e calls held) :
    Holds socket calls held ∧
      ((∃ call ∈ calls, call.connection?.isSome = true) → ∃ used, .retire used ∈ calls) ∧
      (stage.isPreparation = true → calls = []) := by
  cases h with
  | unprepared h =>
    refine ⟨⟨by simp, fun address hlistens => ?_, fun connection holder => Or.inl holder⟩, by simp,
      fun _ => rfl⟩
    simpa using hlistens
  | unopened hplan h =>
    obtain ⟨hlater, hnone⟩ := h.no_stream
    refine ⟨h.holds, ?_, fun hprepared => ?_⟩
    · rintro ⟨call, hcall, hgiven⟩
      rw [hnone call hcall] at hgiven
      cases hgiven
    · rw [hlater] at hprepared
      cases hprepared
  | unsecured hplan hopens h =>
    obtain ⟨hlater, used, hretired⟩ := h.retires
    refine ⟨hopens.holds.append h.gives_nothing, fun _ => ⟨used, ?_⟩, fun hprepared => ?_⟩
    · exact List.mem_append_right _ hretired
    · rw [hlater] at hprepared
      cases hprepared

/-- A session was not brought up: the error `e` of the stage `stage` was returned behind the calls
`calls`, and `socket'` is what is left of the socket. -/
structure LeavesNothing (kit : Toolkit) (role : Role) (config : Config) (identity : IdentityPem)
    (socket : Socket) (calls : List NetworkCall) (stage : Stage) (e : TransportError)
    (socket' : Socket) : Prop where
  unused : socket' = .unused
  /-- The stage has failed with the error, and the socket was closed then. -/
  failed : ∃ asked held, Fails kit role config identity socket stage e asked held ∧
    calls = asked ++ held.closing
  /-- Before the stream, nothing is asked of the network. -/
  quiet : stage.isPreparation = true → ∀ call ∈ calls, call.reachesOut = false
  givesBack : GivesBack socket calls
  retires : (∃ call ∈ calls, call.connection?.isSome = true) → ∃ used, .retire used ∈ calls

theorem Fails.leavesNothing (h : Fails kit role config identity socket stage e calls held) :
    LeavesNothing kit role config identity socket (calls ++ held.closing) stage e .unused := by
  obtain ⟨hholds, hretires, hquiet⟩ := h.holds
  refine ⟨rfl, ⟨calls, held, h, rfl⟩, fun hstage => ?_, hholds.close, ?_⟩
  · rw [hquiet hstage, List.nil_append]
    exact fun call hcall => (Socket.closing_asks_nothing hcall).1
  · rintro ⟨call, hcall, hgiven⟩
    obtain hcall | hcall := List.mem_append.1 hcall
    · obtain ⟨used, hretired⟩ := hretires ⟨call, hcall, hgiven⟩
      exact ⟨used, List.mem_append_left _ hretired⟩
    · rw [(Socket.closing_asks_nothing hcall).2.1] at hgiven
      cases hgiven

/-- A session was brought up behind the calls `calls`, and `socket'` is what the socket then holds. -/
structure BringsUp {σ : Type} (kit : Toolkit) (role : Role) (config : Config)
    (identity : IdentityPem) (socket : Socket) (calls : List NetworkCall)
    (established : Established (Logged σ)) (socket' : Socket) : Prop where
  succeeded : Succeeds kit role config identity socket calls socket'
  /-- The network has refused nothing. -/
  granted : ∀ call ∈ calls, call.refused = false
  connected : socket'.connection.isSome = true
  maxBodyLen : established.channel.maxBodyLen = config.maxBodyLen.toNat
  /-- The stream was told not to wait, and obeyed. -/
  nonBlocking : ∀ waiting, waitingAfter waiting established.channel.stream.calls = false
  /-- An acceptor listens no more, and every address at which it did was given back. -/
  released : role = .acceptor → socket'.listener = none ∧ ∀ address,
    socket.listener = some address ∨ (∃ call ∈ calls, call.address? = some address) →
      .unlisten address ∈ calls

theorem Succeeds.bringsUp {σ : Type} {established : Established (Logged σ)} {socket' : Socket}
    (h : Succeeds kit role config identity socket calls socket')
    (hmax : established.channel.maxBodyLen = config.maxBodyLen.toNat)
    (hmodes : established.channel.stream.calls = [.setBlocking false (.ok ())]) :
    BringsUp kit role config identity socket calls established socket' := by
  have hsucceeds := h
  obtain ⟨hplan, hopens, hsecures⟩ := h
  obtain ⟨hconnected, hlistener, hgranted⟩ := hopens.of_ok
  have hholds := hopens.holds.append hsecures.gives_nothing
  refine ⟨hsucceeds, fun call hcall => ?_, hconnected, hmax, fun waiting => ?_, fun hrole => ?_⟩
  · obtain hcall | hcall := List.mem_append.1 hcall
    · exact hgranted call hcall
    · cases hsecures
      rw [List.mem_singleton.1 hcall]
      rfl
  · rw [hmodes]
    rfl
  · refine ⟨hlistener hrole, fun address hlistens => ?_⟩
    refine (hholds.listeners address hlistens).resolve_left fun hheld => ?_
    rw [hlistener hrole] at hheld
    cases hheld

end Outcome

/-- Bringing up a session goes through its stages until one fails.  If one does, its error is returned
and nothing is left behind; a stage that comes before the stream fails before anything is asked of the
network.  If none does, the session is up as its configuration says.  This holds whatever the
socket has at first, whatever the network answers and whatever the toolkit refuses. -/
theorem establish_stages {ν σ : Type} [Network ν σ] [ByteStream σ] (role : Role) (config : Config)
    (identity : IdentityPem) (socket : Socket) (net : Recorded ν) :
    Established.establish role config identity socket net =
        Established.establishWith .standard role config identity socket net ∧
      ∀ kit : Toolkit,
        let outcome := Established.establishWith kit role config identity socket net
        (∃ calls, outcome.2.2.calls = net.calls ++ calls ∧
          ((∃ stage e, outcome.1 = .error e ∧
              LeavesNothing kit role config identity socket calls stage e outcome.2.1) ∨
            ∃ established, outcome.1 = .ok established ∧
              BringsUp kit role config identity socket calls established outcome.2.1)) ∧
          ∀ stage e, Unprepared kit role config identity stage e → outcome.1 = .error e := by
  refine ⟨Established.establish_eq role config identity socket net, fun kit => ⟨?_, ?_⟩⟩
  · unfold Established.establishWith
    rcases hattempt : Established.attemptWith (kit.prepare role config identity) role config socket
      net with ⟨r, held, there⟩
    obtain ⟨calls, hcalls, ⟨stage, e, rfl, hfails⟩ | ⟨established, rfl, hsucceeds, hmax, hmodes⟩⟩ :=
      attempt_stages hattempt
    · refine ⟨calls ++ held.closing, ?_, Or.inl ⟨stage, e, rfl, ?_⟩⟩
      · dsimp only
        rw [Socket.calls_close, hcalls, List.append_assoc]
      · dsimp only
        rw [Socket.close_fst]
        exact hfails.leavesNothing
    · exact ⟨calls, hcalls, Or.inr ⟨established, rfl, hsucceeds.bringsUp hmax hmodes⟩⟩
  · intro stage e hunprepared
    simp only [Established.establishWith, Established.attemptWith,
      prepare_of_unprepared hunprepared]

end PinnedLink
