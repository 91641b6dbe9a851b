import PinnedLink.Proofs.Echo.Conversation
import PinnedLink.Proofs.Handshake.Pinning
import PinnedLink.Proofs.Transport.Reinit

/-!
# How a caller and a listener come together

A meeting that is arranged starts with two transports that have shaken hands with each other: both are
established, as client and server of one version (`Meeting.start_of_arrange?`).  So what the `Minutes`
say of transports that are `secured` they say of every meeting that is arranged as well, and the echo is
faithful from the two handshakes on (`Minutes.echoes_in_order`).
-/

namespace PinnedLink

/-- What becomes of the end on a side. -/
def Handshake.Outcome.verdict (both : Handshake.Outcome) : Session.Side → Handshake.Verdict
  | .client => both.client
  | .server => both.server

namespace Loopback

variable {net net' : Loopback} {stream stream' : Pipe.End}

/-- A handshake that succeeds was with a party, and came to what both of them come to. -/
theorem shakeHands_ok {opening : Opening} {session : Session} {info : PeerInfo}
    (h : net.shakeHands opening stream = (.ok (session, info), stream', net')) :
    ∃ peer both, net.peer = .party peer ∧ outcome opening peer = .ok both ∧
      (finish opening peer stream (both.verdict opening.side)).1 = .ok (session, info) := by
  unfold shakeHands at h
  split at h
  · rename_i peer hpeer
    split at h
    · cases h
    · rename_i both hboth
      exact ⟨peer, both, hpeer, hboth, congrArg Prod.fst h⟩
  · cases h

/-- Either the handshake is over for both, or a client is too early. -/
theorem finish_ok {opening : Opening} {peer : CryptoContext} {verdict : Handshake.Verdict}
    {session : Session} {info : PeerInfo}
    (h : (finish opening peer stream verdict).1 = .ok (session, info)) :
    verdict = .established info ∧ session = .established info.version opening.side ∨
      opening.side = .client ∧ ∃ e, verdict = .failed e := by
  unfold finish at h
  split at h
  · cases h
    exact .inl ⟨rfl, rfl⟩
  · split at h
    · rename_i hearly
      cases opening with
      | client name client => exact .inr ⟨rfl, _, rfl⟩
      | server server => cases hearly
    · cases h

/-! Whatever is asked of a network, the peer behind its connections stays the same. -/

theorem peer_choosePort (net : Loopback) (port : UInt16) :
    (net.choosePort port).2.peer = net.peer := by
  unfold choosePort
  split
  · rfl
  · rfl

theorem peer_connect (net : Loopback) (host : String) (port : UInt16) :
    (net.connect host port).2.peer = net.peer := by
  unfold connect
  split
  · rfl
  · rfl
  · exact peer_choosePort net 0

theorem peer_accept (net : Loopback) (address : SocketAddress) :
    (net.accept address).2.peer = net.peer := by
  unfold accept
  split
  · rfl
  · exact peer_choosePort net 0

theorem peer_listen (net : Loopback) (host : String) (port : UInt16) :
    (net.listen host port).2.peer = net.peer := by
  unfold listen
  split
  · rfl
  · split
    · rfl
    · have hpeer := peer_choosePort net port
      dsimp only
      split
      · exact hpeer
      · exact hpeer

theorem peer_bind (s : Socket) (net : Loopback) (host : String) (port : UInt16) :
    (s.bind net host port).2.2.peer = net.peer := by
  have hpeer := net.peer_listen host port
  unfold Socket.bind
  split
  · dsimp only [Network.localAddress]
  · dsimp only [Network.listen]
    generalize net.listen host port = r at hpeer ⊢
    obtain ⟨e | address, net'⟩ := r
    · exact hpeer
    · exact hpeer

theorem peer_acceptSocket (s : Socket) (net : Loopback) : (s.accept net).2.2.peer = net.peer := by
  unfold Socket.accept
  split
  · rfl
  · rename_i address _
    have hpeer := net.peer_accept address
    dsimp only [Network.accept]
    generalize net.accept address = r at hpeer ⊢
    obtain ⟨e | ⟨connection, stream⟩, net'⟩ := r
    · exact hpeer
    · exact hpeer

/-- Opening a stream leaves the peer. -/
theorem peer_openStream (role : Role) (config : Config) (socket : Socket) (net : Loopback) :
    (Established.openStream role config socket net).2.2.peer = net.peer := by
  cases role with
  | initiator =>
    have hpeer := net.peer_connect config.host config.port
    unfold Established.openStream Socket.connect
    dsimp only [Network.connect]
    generalize net.connect config.host config.port = r at hpeer ⊢
    obtain ⟨e | ⟨connection, stream⟩, net'⟩ := r
    · exact hpeer
    · exact hpeer
  | acceptor =>
    have hpeer := peer_bind socket net config.host config.port
    unfold Established.openStream
    dsimp only
    generalize socket.bind net config.host config.port = r at hpeer ⊢
    obtain ⟨e | address, socket', net'⟩ := r
    · exact hpeer
    · exact (peer_acceptSocket socket' net').trans hpeer

end Loopback

/-- A result that was changed and is fine was fine before. -/
theorem exists_of_map_ok {α β ε : Type} {f : α → β} {x : Except ε α} {y : β} (h : x.map f = .ok y) :
    ∃ a, x = .ok a ∧ f a = y := by
  cases x with
  | error e => cases h
  | ok a => exact ⟨a, rfl, Except.ok.inj h⟩

/-- A plan opens the way that its role and its context have it. -/
theorem Plan.openingFor_of_make {role : Role} {config : Config} {identity : IdentityPem}
    {plan : Plan} (h : Plan.make role config identity = .ok plan) :
    Plan.openingFor role config plan.context = .ok plan.opening := by
  unfold Plan.make at h
  cases hcontext : Plan.loadContext config identity with
  | error e =>
    rw [hcontext] at h
    cases h
  | ok context =>
    rw [hcontext] at h
    cases hopening : Plan.openingFor role config context with
    | error e =>
      simp only [hopening, bind, Except.bind] at h
      cases h
    | ok opening =>
      simp only [hopening, bind, Except.bind, pure, Except.pure] at h
      cases h
      exact hopening

namespace Transport

variable {t : Transport Pipe.End} {role : Role} {net : Loopback}

/-- To give up a session leaves the network of one machine as it is. -/
theorem release_loopback (t : Transport Pipe.End) (net : Loopback) : (t.release net).2 = net := by
  unfold release Socket.closeStream
  split
  · split
    · rfl
    · rfl
  · split
    · rfl
    · rfl

/-- A transport as `init` takes it up. -/
def taken (t : Transport Pipe.End) (role : Role) : Transport Pipe.End :=
  { Transport.new t.identity t.config with role := some role }

/-- A transport that was brought up has shaken hands with a party. -/
inductive Joined (t : Transport Pipe.End) (role : Role) (net : Loopback) :
    Transport Pipe.End → Prop
  | intro {plan : Plan} {peer : CryptoContext} {both : Handshake.Outcome} {session : Session}
    {info : PeerInfo} {stream settled : Pipe.End} {socket : Socket}
    (hplan : Plan.make role t.config t.identity = .ok plan) (hpeer : net.peer = .party peer)
    (hboth : Loopback.outcome plan.opening peer = .ok both)
    (hfinish : (Loopback.finish plan.opening peer stream (both.verdict plan.opening.side)).1 =
      .ok (session, info)) :
    Joined t role net ((t.taken role).withSession socket
      { context := plan.context
        channel := .new session settled t.config.maxBodyLen.toNat
        peer := info })

theorem joined_of_init (h : (t.init role net).1 = .ok ()) :
    t.Joined role net (t.init role net).2.1 := by
  have hdown : t.state ≠ .established := by
    intro hup
    rw [Transport.init, if_pos hup] at h
    cases h
  rw [init_eq_outcome hdown, release_loopback] at h ⊢
  rcases hestablish : Established.establish role t.config t.identity
      { listener := t.socket.listener, connection := none } net with ⟨e | e, socket, net'⟩
  · rw [hestablish] at h
    cases h
  · obtain ⟨hplan, hopen, hshake, -⟩ := Established.made_of_establish hestablish
    obtain ⟨peer, both, hpeer, hboth, hfinish⟩ := Loopback.shakeHands_ok hshake
    have hsame := Loopback.peer_openStream role t.config
      { listener := t.socket.listener, connection := none } net
    rw [hopen, hpeer] at hsame
    exact .intro hplan hsame.symm hboth hfinish

/-- A transport that was brought up to accept is a server, and its client came to the same. -/
inductive Serves (t : Transport Pipe.End) (net : Loopback) (u : Transport Pipe.End) : Prop
  | intro {context peer : CryptoContext} {server : ServerConfig} {client : ClientConfig}
    {info : PeerInfo} {around : Surroundings Pipe.End}
    (hplan : Plan.make .acceptor t.config t.identity = .ok { context, opening := .server server })
    (hserver : context.serverConfig = .ok server) (hpeer : net.peer = .party peer)
    (hclient : peer.clientConfig = .ok client)
    (hverdict : (Handshake.agree client server).server = .established info)
    (hsecured : u = secured (t.taken .acceptor) info.version .server around)

theorem Joined.serves {u : Transport Pipe.End} (h : t.Joined .acceptor net u) : t.Serves net u := by
  obtain @⟨⟨context, opening⟩, peer, both, session, info, stream, settled, socket, hplan, hpeer, hboth,
    hfinish⟩ := h
  obtain ⟨server, hserver, rfl⟩ := exists_of_map_ok (Plan.openingFor_of_make hplan)
  obtain ⟨client, hclient, rfl⟩ := exists_of_map_ok hboth
  rcases Loopback.finish_ok hfinish with ⟨hverdict, rfl⟩ | ⟨hside, -⟩
  · exact @Serves.intro _ _ _ _ _ _ _ _ ⟨socket, context, info, settled⟩ hplan hserver hpeer hclient
      hverdict rfl
  · cases hside

/-- A transport that was brought up to initiate is a client whose server came to the same, or one whose
own handshake failed after it believed to be through. -/
inductive Calls (t : Transport Pipe.End) (net : Loopback) (u : Transport Pipe.End) : Prop
  | intro {context peer : CryptoContext} {name : Host} {client : ClientConfig}
    {server : ServerConfig}
    (hplan : Plan.make .initiator t.config t.identity =
      .ok { context, opening := .client name client })
    (hclient : context.clientConfig = .ok client) (hpeer : net.peer = .party peer)
    (hserver : peer.serverConfig = .ok server)
    (hverdict : (∃ info around, (Handshake.agree client server).client = .established info ∧
        u = secured (t.taken .initiator) info.version .client around) ∨
      ∃ e, (Handshake.agree client server).client = .failed e)

theorem Joined.calls {u : Transport Pipe.End} (h : t.Joined .initiator net u) : t.Calls net u := by
  obtain @⟨⟨context, opening⟩, peer, both, session, info, stream, settled, socket, hplan, hpeer, hboth,
    hfinish⟩ := h
  have hopening := Plan.openingFor_of_make hplan
  unfold Plan.openingFor at hopening
  dsimp only at hopening
  split at hopening
  · cases hopening
  · obtain ⟨client, hclient, rfl⟩ := exists_of_map_ok hopening
    obtain ⟨server, hserver, rfl⟩ := exists_of_map_ok hboth
    refine .intro hplan hclient hpeer hserver ?_
    rcases Loopback.finish_ok hfinish with ⟨hverdict, rfl⟩ | ⟨-, hfailed⟩
    · exact .inl ⟨info, ⟨socket, context, info, settled⟩, hverdict, rfl⟩
    · exact .inr hfailed

theorem asPeer_of_make {plan : Plan} (h : Plan.make role t.config t.identity = .ok plan)
    (otherwise : Loopback.Peer) : t.asPeer role otherwise = .party plan.context := by
  rw [asPeer, h]

end Transport

namespace Echo.Meeting

open Transport (secured)

/-- A meeting that is arranged starts with two transports that have come to one session. -/
theorem start_of_arrange? {caller listener : Transport Pipe.End} {texts : List String}
    {m : Meeting Pipe.End} (h : arrange? caller listener texts = some m) :
    ∃ version aroundCaller aroundListener,
      m = start (secured (caller.taken .initiator) version .client aroundCaller)
        (secured (listener.taken .acceptor) version .server aroundListener) texts := by
  unfold arrange? at h
  dsimp only at h
  split at h
  · rename_i haccepted hinitiated
    cases h
    unfold Transport.meet at haccepted hinitiated ⊢
    dsimp only at haccepted hinitiated ⊢
    obtain @⟨context, peer, server, client, info, aroundListener, hplan, hserver, hpeer, hclient,
      hestablished, hlistener⟩ := (Transport.joined_of_init haccepted).serves
    obtain @⟨context', peer', name, client', server', hplan', hclient', hpeer', hserver', hcaller⟩ :=
      (Transport.joined_of_init hinitiated).calls
    -- Each of them met the context of the other one, so both came to what these two agree on.
    obtain rfl : context' = peer :=
      Loopback.Peer.party.inj ((Transport.asPeer_of_make hplan' _).symm.trans hpeer)
    obtain rfl : context = peer' :=
      Loopback.Peer.party.inj ((Transport.asPeer_of_make hplan _).symm.trans hpeer')
    obtain rfl : client' = client := Except.ok.inj (hclient'.symm.trans hclient)
    obtain rfl : server = server' := Except.ok.inj (hserver.symm.trans hserver')
    rw [hlistener]
    rcases Handshake.Exchange.agree_cases client' server with ⟨version, -, hboth⟩ | ⟨e, e', hneither⟩
    · rw [hboth] at hestablished hcaller
      cases hestablished
      rcases hcaller with ⟨info', aroundCaller, hinfo, hcaller⟩ | ⟨e, hfailed⟩
      · cases hinfo
        rw [hcaller]
        exact ⟨version, aroundCaller, aroundListener, rfl⟩
      · cases hfailed
    · rw [hneither] at hestablished
      cases hestablished
  · cases h

end Echo.Meeting

namespace Echo

open Transport (Surroundings secured)

namespace Minutes

/-- After a handshake, whatever the bounds of the two transports and the chunks in which the connection
carries its bytes, and in whatever order they take their turns, the echo is faithful.  Two transports
that are brought up against each other, and both succeed, are after such a handshake. -/
theorem echoes_in_order :
    (∀ {σ : Type} [LosslessDuplex σ] (caller listener : Transport σ) (version : Session.Version)
        (aroundCaller aroundListener : Surroundings σ) (texts : List String) (turns : List (Turn σ)),
        ((blank (.start (secured caller version .client aroundCaller)
          (secured listener version .server aroundListener) texts)).run turns).Faithful version
            texts) ∧
      ∀ (caller listener : Transport Pipe.End) (texts : List String) (m : Meeting Pipe.End),
        Meeting.arrange? caller listener texts = some m →
          ∃ version, ∀ turns, ((blank m).run turns).Faithful version texts := by
  refine ⟨fun caller listener => faithful_of_secured caller listener, fun caller listener texts m h => ?_⟩
  obtain ⟨version, aroundCaller, aroundListener, rfl⟩ := Meeting.start_of_arrange? h
  exact ⟨version, faithful_of_secured _ _ version aroundCaller aroundListener texts⟩

/-- A transport that trusts its own certificate comes together with one like it. -/
theorem echoes_in_order_sample :
    ∃ m version, Meeting.arrange? (.new Handshake.sample .fresh) (.new Handshake.sample .fresh)
        ["ping", ""] = some m ∧
      ∀ turns, ((blank m).run turns).Faithful version ["ping", ""] := by
  have hsome : (Meeting.arrange? (.new Handshake.sample .fresh) (.new Handshake.sample .fresh)
      ["ping", ""]).isSome = true := by
    decide +kernel
  obtain ⟨m, hm⟩ := Option.isSome_iff_exists.1 hsome
  obtain ⟨version, hfaithful⟩ := echoes_in_order.2 _ _ _ m hm
  exact ⟨m, version, hm, hfaithful⟩

end Minutes

end Echo

end PinnedLink
