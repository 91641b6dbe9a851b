import PinnedLink.Handshake.Exchange

/-!
# Where an exchange leads

Of two ends at most one has something to receive, so an exchange has few states.  `Phase` lists them
with the number of deliveries that lead there; every delivery leads from one to the next
(`Phase.deliver`).  So an exchange goes on as long as something is under way, for four deliveries at
most, and then both ends have come to what `Handshake.agree` says (`run_settles`).
-/

namespace PinnedLink.Handshake.Exchange

open Session (Version)

variable {name : Host} {client : ClientConfig} {server : ServerConfig}

/-! ## What the ends agree on -/

theorem agree_of_none (hnone : client.versions.common? server.versions = none) :
    agree client server = serverStops noVersion := by
  simp only [agree, hnone, noVersion]

theorem agree_of_clientStops {version : Version} {e : Session.Error}
    (hsome : client.versions.common? server.versions = some version)
    (herror : judge version client.verifier server.identity = .error e) :
    agree client server = clientStops e := by
  simp only [agree, hsome, herror]

theorem agree_of_serverStops {version : Version} {e : Session.Error}
    (hsome : client.versions.common? server.versions = some version)
    (hclient : judge version client.verifier server.identity = .ok ())
    (herror : judge version server.verifier client.identity = .error e) :
    agree client server = serverStops e := by
  simp only [agree, hsome, hclient, herror]

theorem agree_of_bothFinish {version : Version}
    (hsome : client.versions.common? server.versions = some version)
    (hclient : judge version client.verifier server.identity = .ok ())
    (hserver : judge version server.verifier client.identity = .ok ()) :
    agree client server = bothFinish version client.identity server.identity := by
  simp only [agree, hsome, hclient, hserver]

/-- Two ends accept each other in the version that they agree on. -/
def Accepted (client : ClientConfig) (server : ServerConfig) (version : Version) : Prop :=
  client.versions.common? server.versions = some version ∧
    judge version client.verifier server.identity = .ok () ∧
    judge version server.verifier client.identity = .ok ()

/-- Either both ends accept each other and finish, or both fail. -/
theorem agree_cases (client : ClientConfig) (server : ServerConfig) :
    (∃ version, Accepted client server version ∧
        agree client server = bothFinish version client.identity server.identity) ∨
      ∃ e e', agree client server = { client := .failed e, server := .failed e' } := by
  cases hv : client.versions.common? server.versions with
  | none => exact Or.inr ⟨_, _, agree_of_none hv⟩
  | some version =>
    cases hclient : judge version client.verifier server.identity with
    | error e => exact Or.inr ⟨_, _, agree_of_clientStops hv hclient⟩
    | ok u =>
      cases hserver : judge version server.verifier client.identity with
      | error e => exact Or.inr ⟨_, _, agree_of_serverStops hv hclient hserver⟩
      | ok u' =>
        exact Or.inl ⟨version, ⟨hv, hclient, hserver⟩, agree_of_bothFinish hv hclient hserver⟩

/-! ## The states of an exchange -/

section Phases

variable (name : Host) (client : ClientConfig) (server : ServerConfig)

/-- The suite of a version that a server chooses. -/
def suite (version : Version) : CipherSuite := .choose version server.identity.key.kind

/-- What the client knows once it has judged the server. -/
def clientInfo (version : Version) : PeerInfo :=
  { version, cipher := suite server version, leaf := server.identity.leaf }

/-- What the server knows once it has judged the client. -/
def serverInfo (version : Version) : PeerInfo :=
  { version, cipher := suite server version, leaf := client.identity.leaf }

/-- What the server chooses and presents. -/
def offer (version : Version) : Message :=
  .choice version (suite server version) server.identity server.verifier.request

/-- The states of an exchange, by the number of deliveries that lead there. -/
inductive Phase : Nat → Exchange → Prop where
  /-- The client has said hello. -/
  | greeted : Phase 0 (start name client)
  /-- The server finds no common version. -/
  | noVersion (hnone : client.versions.common? server.versions = none) :
      Phase 1
        { client := .waiting, server := .ended (.failed noVersion), toServer := []
          toClient := [.alert (alertFor noVersion)] }
  /-- The server has chosen a version and presented itself. -/
  | chosen {version : Version} (hsome : client.versions.common? server.versions = some version) :
      Phase 1
        { client := .waiting, server := .presented version (suite server version), toServer := []
          toClient := [offer server version] }
  /-- The client refuses the server. -/
  | clientStopped {version : Version} {e : Session.Error}
      (hsome : client.versions.common? server.versions = some version)
      (herror : judge version client.verifier server.identity = .error e) :
      Phase 2
        { client := .ended (.failed e), server := .presented version (suite server version)
          toServer := [.alert (alertFor e)], toClient := [] }
  /-- The client accepts the server and has presented itself. -/
  | answered {version : Version} (hsome : client.versions.common? server.versions = some version)
      (hclient : judge version client.verifier server.identity = .ok ()) :
      Phase 2
        { client := .content (clientInfo server version)
          server := .presented version (suite server version)
          toServer := [.credentials client.identity], toClient := [] }
  /-- The server refuses the client. -/
  | serverStopped {version : Version} {e : Session.Error}
      (hsome : client.versions.common? server.versions = some version)
      (hclient : judge version client.verifier server.identity = .ok ())
      (herror : judge version server.verifier client.identity = .error e) :
      Phase 3
        { client := .content (clientInfo server version), server := .ended (.failed e), toServer := []
          toClient := [.alert (alertFor e)] }
  /-- The server accepts the client; in the older version it has a last word. -/
  | accepted {version : Version} (hsome : client.versions.common? server.versions = some version)
      (hclient : judge version client.verifier server.identity = .ok ())
      (hserver : judge version server.verifier client.identity = .ok ()) :
      Phase 3
        { client := .content (clientInfo server version)
          server := .ended (.established (serverInfo client server version)), toServer := []
          toClient := lastWord version }
  /-- Both ends are through. -/
  | ended {n : Nat} (hle : n ≤ 4) :
      Phase n
        { client := .ended (agree client server).client, server := .ended (agree client server).server
          toServer := [], toClient := [] }

end Phases

namespace Phase

/-- Both ends are through with what they agree on. -/
theorem of_agree {n : Nat} {o : Outcome} (hagree : agree client server = o) (hle : n ≤ 4) :
    Phase name client server n
      { client := .ended o.client, server := .ended o.server, toServer := [], toClient := [] } := by
  subst hagree
  exact .ended hle

/-! ## One delivery -/

variable {n : Nat} {x y : Exchange} {version : Version} {e : Session.Error}

/-- The server gets the client's first message. -/
theorem of_greeted {d : Delivery}
    (hd : (start name client).deliver name client server d = some y) :
    Phase name client server 1 y := by
  cases d with
  | toClient now status => cases hd
  | toServer now =>
    simp only [Exchange.deliver, start, hello, ServerStage.receive] at hd
    cases hv : client.versions.common? server.versions with
    | none =>
      rw [hv] at hd
      cases hd
      exact .noVersion hv
    | some version =>
      rw [hv] at hd
      cases hd
      exact .chosen hv

/-- The client gets what the server presents. -/
theorem of_chosen {d : Delivery}
    (hsome : client.versions.common? server.versions = some version)
    (hd : deliver name client server
      { client := .waiting, server := .presented version (suite server version), toServer := []
        toClient := [offer server version] } d = some y) :
    Phase name client server 2 y := by
  cases d with
  | toServer now => cases hd
  | toClient now status =>
    let p : Verifier.Presentation := ⟨server.identity.leaf, server.identity.issuers, now⟩
    have hjudge : judgeBy (client.verifier.checkServer p name status) version server.identity =
        judge version client.verifier server.identity := rfl
    simp only [Exchange.deliver, offer, ClientStage.receive] at hd
    rw [hjudge] at hd
    cases hj : judge version client.verifier server.identity with
    | error e =>
      rw [hj] at hd
      cases hd
      exact .clientStopped hsome hj
    | ok u =>
      rw [hj] at hd
      cases hd
      exact .answered hsome hj

/-- The server gets what the client presents. -/
theorem of_answered {d : Delivery}
    (hsome : client.versions.common? server.versions = some version)
    (hclient : judge version client.verifier server.identity = .ok ())
    (hd : deliver name client server
      { client := .content (clientInfo server version)
        server := .presented version (suite server version)
        toServer := [.credentials client.identity], toClient := [] } d = some y) :
    Phase name client server 3 y := by
  cases d with
  | toClient now status => cases hd
  | toServer now =>
    let p : Verifier.Presentation := ⟨client.identity.leaf, client.identity.issuers, now⟩
    have hjudge : judgeBy (server.verifier.checkClient p) version client.identity =
        judge version server.verifier client.identity := rfl
    simp only [Exchange.deliver, ServerStage.receive] at hd
    rw [hjudge] at hd
    cases hj : judge version server.verifier client.identity with
    | error e =>
      rw [hj] at hd
      cases hd
      exact .serverStopped hsome hclient hj
    | ok u =>
      rw [hj] at hd
      cases hd
      exact .accepted hsome hclient hj

/-- The client gets an alert, at a stage where it may get one. -/
theorem deliver_alert {stage : ClientStage} {s : ServerStage} {a : Session.Alert} {d : Delivery}
    (hstage : stage = .waiting ∨ ∃ peer, stage = .content peer)
    (hd : deliver name client server
      { client := stage, server := s, toServer := [], toClient := [.alert a] } d = some y) :
    y = { client := .ended (.failed (.alertReceived a)), server := s, toServer := []
          toClient := [] } := by
  cases d with
  | toServer now => cases hd
  | toClient now status =>
    rcases hstage with rfl | ⟨peer, rfl⟩
    · cases hd
      rfl
    · obtain ⟨v, cipher, leaf⟩ := peer
      cases v <;> cases hd <;> rfl

/-- A delivery leads from one state to the next. -/
theorem deliver {d : Delivery} (h : Phase name client server n x)
    (hd : x.deliver name client server d = some y) : Phase name client server (n + 1) y := by
  cases h with
  | greeted => exact of_greeted hd
  | noVersion hnone =>
    rw [deliver_alert (Or.inl rfl) hd]
    exact of_agree (agree_of_none hnone) (by decide)
  | chosen hsome => exact of_chosen hsome hd
  | clientStopped hsome herror =>
    cases d with
    | toClient now status => cases hd
    | toServer now =>
      cases hd
      exact of_agree (agree_of_clientStops hsome herror) (by decide)
  | answered hsome hclient => exact of_answered hsome hclient hd
  | serverStopped hsome hclient herror =>
    rw [deliver_alert (Or.inr ⟨_, rfl⟩) hd]
    exact of_agree (agree_of_serverStops hsome hclient herror) (by decide)
  | @accepted version hsome hclient hserver =>
    cases version with
    | tls13 => cases d <;> cases hd
    | tls12 =>
      cases d with
      | toServer now => cases hd
      | toClient now status =>
        cases hd
        exact of_agree (agree_of_bothFinish hsome hclient hserver) (by decide)
  | ended hle => cases d <;> cases hd

/-- As long as something is under way it can be delivered. -/
theorem progress (h : Phase name client server n x) (hquiet : ¬x.Quiet) :
    ∃ d y, x.deliver name client server d = some y := by
  cases h with
  | greeted =>
    refine ⟨.toServer 0, ?_⟩
    simp only [Exchange.deliver, start, hello, ServerStage.receive]
    cases client.versions.common? server.versions <;> exact ⟨_, rfl⟩
  | noVersion hnone => exact ⟨.toClient 0 [], _, rfl⟩
  | @chosen version hsome =>
    refine ⟨.toClient 0 [], ?_⟩
    simp only [Exchange.deliver, offer, ClientStage.receive]
    cases judgeBy _ version server.identity <;> exact ⟨_, rfl⟩
  | clientStopped hsome herror => exact ⟨.toServer 0, _, rfl⟩
  | @answered version hsome hclient =>
    refine ⟨.toServer 0, ?_⟩
    simp only [Exchange.deliver, ServerStage.receive]
    cases judgeBy _ version client.identity <;> exact ⟨_, rfl⟩
  | @serverStopped version e hsome hclient herror =>
    cases version <;> exact ⟨.toClient 0 [], _, rfl⟩
  | @accepted version hsome hclient hserver =>
    cases version with
    | tls12 => exact ⟨.toClient 0 [], _, rfl⟩
    | tls13 => exact absurd ⟨rfl, rfl⟩ hquiet
  | ended hle => exact absurd ⟨rfl, rfl⟩ hquiet

/-- Where nothing is under way both ends are through. -/
theorem settled (h : Phase name client server n x) (hquiet : x.Quiet) :
    x.Settled (agree client server) := by
  cases h with
  | @accepted version hsome hclient hserver =>
    rw [agree_of_bothFinish hsome hclient hserver]
    cases version with
    | tls12 => cases hquiet.2
    | tls13 => exact ⟨rfl, rfl⟩
  | ended hle => exact ⟨rfl, rfl⟩
  | greeted => cases hquiet.1
  | noVersion hnone => cases hquiet.2
  | chosen hsome => cases hquiet.2
  | clientStopped hsome herror => cases hquiet.1
  | answered hsome hclient => cases hquiet.1
  | serverStopped hsome hclient herror => cases hquiet.2

/-- A client that is established has accepted the server, also if the server has yet to judge it. -/
theorem client_established {p : PeerInfo} (h : Phase name client server n x)
    (hp : x.client = .ended (.established p)) :
    ∃ version, client.versions.common? server.versions = some version ∧
      judge version client.verifier server.identity = .ok () ∧ p = clientInfo server version := by
  have hcontent : ∀ {version : Version},
      ClientStage.content (clientInfo server version) = .ended (.established p) →
      p = clientInfo server version := by
    intro version hcontent
    cases version <;> cases hcontent
    rfl
  cases h with
  | @answered version hsome hclient => exact ⟨version, hsome, hclient, hcontent hp⟩
  | @serverStopped version e hsome hclient herror => exact ⟨version, hsome, hclient, hcontent hp⟩
  | @accepted version hsome hclient hserver => exact ⟨version, hsome, hclient, hcontent hp⟩
  | ended hle =>
    have hagreed := ClientStage.ended.inj hp
    rcases agree_cases client server with ⟨version, haccepted, hfinish⟩ | ⟨e, e', hfail⟩
    · rw [hfinish] at hagreed
      cases hagreed
      exact ⟨version, haccepted.1, haccepted.2.1, rfl⟩
    · rw [hfail] at hagreed
      cases hagreed
  | _ => cases hp

/-- A server that is established has accepted the client, and the client has accepted it. -/
theorem server_established {q : PeerInfo} (h : Phase name client server n x)
    (hq : x.server = .ended (.established q)) :
    ∃ version, Accepted client server version ∧ q = serverInfo client server version := by
  cases h with
  | @accepted version hsome hclient hserver =>
    cases hq
    exact ⟨version, ⟨hsome, hclient, hserver⟩, rfl⟩
  | ended hle =>
    have hagreed := ServerStage.ended.inj hq
    rcases agree_cases client server with ⟨version, haccepted, hfinish⟩ | ⟨e, e', hfail⟩
    · rw [hfinish] at hagreed
      cases hagreed
      exact ⟨version, haccepted, rfl⟩
    · rw [hfail] at hagreed
      cases hagreed
  | _ => cases hq

theorem le_four (h : Phase name client server n x) : n ≤ 4 := by
  cases h with
  | ended hle => exact hle
  | _ => decide

end Phase

/-! ## Runs -/

theorem phase_foldlM {n : Nat} {x y : Exchange} {deliveries : List Delivery}
    (h : Phase name client server n x)
    (hrun : deliveries.foldlM (deliver name client server) x = some y) :
    Phase name client server (n + deliveries.length) y := by
  induction deliveries generalizing n x with
  | nil =>
    cases hrun
    exact h
  | cons d deliveries ih =>
    rw [List.foldlM_cons] at hrun
    obtain ⟨z, hd, hrest⟩ := Option.bind_eq_some_iff.1 hrun
    have hphase := ih (h.deliver hd) hrest
    rw [Nat.add_assoc, Nat.add_comm 1] at hphase
    exact hphase

/-- Every run of an exchange leads to one of its states. -/
theorem phase_run {deliveries : List Delivery} {x : Exchange}
    (hrun : run name client server deliveries = some x) :
    Phase name client server deliveries.length x := by
  have hphase := phase_foldlM .greeted hrun
  rw [Nat.zero_add] at hphase
  exact hphase

/-- A run has four deliveries at most and goes on as long as something is under way; and then both
ends have come to what `agree` says. -/
theorem run_settles {deliveries : List Delivery} {x : Exchange}
    (hrun : run name client server deliveries = some x) :
    deliveries.length ≤ 4 ∧ (¬x.Quiet → ∃ d y, x.deliver name client server d = some y) ∧
      (x.Quiet → x.Settled (agree client server)) := by
  have hphase := phase_run hrun
  exact ⟨hphase.le_four, hphase.progress, hphase.settled⟩

end PinnedLink.Handshake.Exchange
