import PinnedLink.Transport.Establish

/-!
# Networks that behave alike

Two networks behave alike if they can be told apart by no question: asked the same, they answer the
same, and go on behaving alike.  `Alike` says so of a relation between their states.

Bringing up a session turns to the network many times, and what it asks next depends on what it was
answered.  `Established.establish_alike` says that it comes to the same on networks that behave alike;
the lemmas before it say so of each of its stages.
-/

namespace PinnedLink

variable {ν ν' σ α β : Type}

/-- Two answers are the same, and leave states that are related. -/
structure SameAnswer (same : ν → ν' → Prop) (p : α × ν) (q : α × ν') : Prop where
  answer : p.1 = q.1
  state : same p.2 q.2

/-- Two answers are the same, also in what they leave of a second kind of state, and leave states
that are related. -/
structure SameOutcome (same : ν → ν' → Prop) (p : α × β × ν) (q : α × β × ν') : Prop where
  answer : p.1 = q.1
  left : p.2.1 = q.2.1
  state : same p.2.2 q.2.2

theorem SameAnswer.exists_eq {same : ν → ν' → Prop} {p : α × ν} {q : α × ν'}
    (h : SameAnswer same p q) : ∃ a m m', p = (a, m) ∧ q = (a, m') ∧ same m m' :=
  ⟨p.1, p.2, q.2, rfl, Prod.ext h.answer.symm rfl, h.state⟩

theorem SameOutcome.exists_eq {same : ν → ν' → Prop} {p : α × β × ν} {q : α × β × ν'}
    (h : SameOutcome same p q) : ∃ a b m m', p = (a, b, m) ∧ q = (a, b, m') ∧ same m m' :=
  ⟨p.1, p.2.1, p.2.2, q.2.2, rfl, Prod.ext h.answer.symm (Prod.ext h.left.symm rfl), h.state⟩

/-- Networks in related states answer the same, whatever they are asked. -/
structure Network.Alike [Network ν σ] [Network ν' σ] (same : ν → ν' → Prop) : Prop where
  listen {n : ν} {n' : ν'} (h : same n n') (host : String) (port : UInt16) :
    SameAnswer same (Network.listen n host port) (Network.listen n' host port)
  localAddress {n : ν} {n' : ν'} (h : same n n') (address : SocketAddress) :
    SameAnswer same (Network.localAddress n address) (Network.localAddress n' address)
  connect {n : ν} {n' : ν'} (h : same n n') (host : String) (port : UInt16) :
    SameAnswer same (Network.connect n host port) (Network.connect n' host port)
  accept {n : ν} {n' : ν'} (h : same n n') (address : SocketAddress) :
    SameAnswer same (Network.accept n address) (Network.accept n' address)
  shakeHands {n : ν} {n' : ν'} (h : same n n') (opening : Opening) (stream : σ) :
    SameOutcome same (Network.shakeHands n opening stream) (Network.shakeHands n' opening stream)
  retire {n : ν} {n' : ν'} (h : same n n') (stream : σ) :
    same (Network.retire n stream) (Network.retire n' stream)
  hangUp {n : ν} {n' : ν'} (h : same n n') (connection : Connection) :
    same (Network.hangUp n connection) (Network.hangUp n' connection)
  unlisten {n : ν} {n' : ν'} (h : same n n') (address : SocketAddress) :
    same (Network.unlisten n address) (Network.unlisten n' address)

/-- A network behaves like itself. -/
theorem Network.Alike.eq [Network ν σ] : Network.Alike (Eq : ν → ν → Prop) where
  listen := by rintro n _ rfl host port; exact ⟨rfl, rfl⟩
  localAddress := by rintro n _ rfl address; exact ⟨rfl, rfl⟩
  connect := by rintro n _ rfl host port; exact ⟨rfl, rfl⟩
  accept := by rintro n _ rfl address; exact ⟨rfl, rfl⟩
  shakeHands := by rintro n _ rfl opening stream; exact ⟨rfl, rfl, rfl⟩
  retire := by rintro n _ rfl stream; rfl
  hangUp := by rintro n _ rfl connection; rfl
  unlisten := by rintro n _ rfl address; rfl

section

variable [Network ν σ] [Network ν' σ] {same : ν → ν' → Prop} {n : ν} {n' : ν'}

/-! ## Sockets -/

namespace Socket

theorem connect_alike (alike : Network.Alike same) (h : same n n') (s : Socket) (host : String)
    (port : UInt16) : SameOutcome same (s.connect n host port) (s.connect n' host port) := by
  obtain ⟨r, m, m', heq, heq', hstate⟩ := (alike.connect h host port).exists_eq
  unfold connect
  rw [heq, heq']
  rcases r with e | ⟨connection, stream⟩
  · exact ⟨rfl, rfl, hstate⟩
  · exact ⟨rfl, rfl, hstate⟩

theorem bind_alike (alike : Network.Alike same) (h : same n n') (s : Socket) (host : String)
    (port : UInt16) : SameOutcome same (s.bind n host port) (s.bind n' host port) := by
  unfold bind
  rcases s.listener with _ | address
  · obtain ⟨r, m, m', heq, heq', hstate⟩ := (alike.listen h host port).exists_eq
    dsimp only
    rw [heq, heq']
    rcases r with e | address
    · exact ⟨rfl, rfl, hstate⟩
    · exact ⟨rfl, rfl, hstate⟩
  · obtain ⟨r, m, m', heq, heq', hstate⟩ := (alike.localAddress h address).exists_eq
    dsimp only
    rw [heq, heq']
    rcases r with e | bound
    · exact ⟨rfl, rfl, hstate⟩
    · exact ⟨rfl, rfl, hstate⟩

theorem accept_alike (alike : Network.Alike same) (h : same n n') (s : Socket) :
    SameOutcome same (s.accept n) (s.accept n') := by
  unfold accept
  rcases s.listener with _ | address
  · exact ⟨rfl, rfl, h⟩
  · obtain ⟨r, m, m', heq, heq', hstate⟩ := (alike.accept h address).exists_eq
    dsimp only
    rw [heq, heq']
    rcases r with e | ⟨connection, stream⟩
    · exact ⟨rfl, rfl, hstate⟩
    · exact ⟨rfl, rfl, alike.unlisten hstate address⟩

theorem closeStream_alike (alike : Network.Alike same) (h : same n n') (s : Socket) :
    SameAnswer same (s.closeStream n) (s.closeStream n') := by
  unfold closeStream
  rcases s.connection with _ | connection
  · exact ⟨rfl, h⟩
  · exact ⟨rfl, alike.hangUp h connection⟩

theorem close_alike (alike : Network.Alike same) (h : same n n') (s : Socket) :
    SameAnswer same (s.close n) (s.close n') := by
  obtain ⟨t, m, m', heq, heq', hstate⟩ := (closeStream_alike alike h s).exists_eq
  unfold close
  rw [heq, heq']
  dsimp only
  rcases t.listener with _ | address
  · exact ⟨rfl, hstate⟩
  · exact ⟨rfl, alike.unlisten hstate address⟩

end Socket

/-! ## Bringing up a session -/

namespace Established

theorem openStream_alike (alike : Network.Alike same) (h : same n n') (role : Role)
    (config : Config) (socket : Socket) :
    SameOutcome same (openStream role config socket n) (openStream role config socket n') := by
  unfold openStream
  cases role with
  | initiator => exact Socket.connect_alike alike h socket config.host config.port
  | acceptor =>
    obtain ⟨r, t, m, m', heq, heq', hstate⟩ :=
      (Socket.bind_alike alike h socket config.host config.port).exists_eq
    dsimp only
    rw [heq, heq']
    rcases r with e | address
    · exact ⟨rfl, rfl, hstate⟩
    · exact Socket.accept_alike alike hstate t

variable [ByteStream σ]

theorem secure_alike (alike : Network.Alike same) (h : same n n') (plan : Plan) (config : Config)
    (stream : σ) :
    SameAnswer same (secure plan config stream n) (secure plan config stream n') := by
  obtain ⟨r, s, m, m', heq, heq', hstate⟩ := (alike.shakeHands h plan.opening stream).exists_eq
  unfold secure
  rw [heq, heq']
  rcases r with cause | ⟨session, peer⟩
  · exact ⟨rfl, alike.retire hstate s⟩
  · dsimp only
    rcases ByteStream.setBlocking s false with ⟨e | _, s'⟩
    · exact ⟨rfl, alike.retire hstate s'⟩
    · exact ⟨rfl, hstate⟩

theorem attempt_alike (alike : Network.Alike same) (h : same n n') (role : Role) (config : Config)
    (identity : IdentityPem) (socket : Socket) :
    SameOutcome same (attempt role config identity socket n)
      (attempt role config identity socket n') := by
  unfold attempt
  rcases Plan.make role config identity with e | plan
  · exact ⟨rfl, rfl, h⟩
  · obtain ⟨r, t, m, m', heq, heq', hstate⟩ :=
      (openStream_alike (σ := σ) alike h role config socket).exists_eq
    dsimp only
    rw [heq, heq']
    rcases r with e | stream
    · exact ⟨rfl, rfl, hstate⟩
    · obtain ⟨hsecure, hlast⟩ := secure_alike alike hstate plan config stream
      exact ⟨hsecure, rfl, hlast⟩

/-- Bringing up a session comes to the same on networks that behave alike. -/
theorem establish_alike (alike : Network.Alike same) (h : same n n') (role : Role)
    (config : Config) (identity : IdentityPem) (socket : Socket) :
    SameOutcome same (establish role config identity socket n)
      (establish role config identity socket n') := by
  obtain ⟨r, t, m, m', heq, heq', hstate⟩ :=
    (attempt_alike alike h role config identity socket).exists_eq
  unfold establish
  rw [heq, heq']
  rcases r with e | established
  · obtain ⟨hclosed, hlast⟩ := Socket.close_alike alike hstate t
    exact ⟨rfl, hclosed, hlast⟩
  · exact ⟨rfl, rfl, hstate⟩

end Established

end

end PinnedLink
