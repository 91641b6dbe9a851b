import PinnedLink.Proofs.Identity.Holding

/-!
# Whom a context trusts

A context is used through calls that load an identity or trust a buffer of certificates.  A call loads
the identity that its buffers hold, adds all certificates that its buffer holds, or is refused and leaves
the context as it is (`make_eq_iff`).  After any run of calls the identity is the last one that was loaded
(`identity_run`), and the certificates that were added are those of all calls that added some, in order
(`added_run`).  A buffer that is not refused holds a certificate (`Added.ne_nil`), so the first of them
takes the place of the holder's own, for good (`trusted_run_fresh_eq_iff`).

None of this depends on how identity material is decoded: it is said of any `Decoders`, from what they
find in the buffers.
-/

namespace PinnedLink

namespace CryptoContext

/-! ## Calls -/

/-- A use of a context. -/
inductive Call where
  | load (cert key : Bytes)
  | trust (pem : Bytes)

namespace Call

/-- The result of a call, and what it leaves of the context. -/
def make (d : Decoders) (c : CryptoContext) : Call → Except LoadError Unit × CryptoContext
  | .load cert key => c.loadIdentityWith d cert key
  | .trust pem => c.trustPeerPemWith d pem

/-- The context after a call, whatever its result. -/
def after (d : Decoders) (c : CryptoContext) (call : Call) : CryptoContext := (call.make d c).2

/-- A call loads an identity: a chain that the one buffer holds, and a key that the other one holds and
that belongs to the first certificate. -/
inductive Loads (d : Decoders) : Call → Identity → Prop where
  | load {cert key leaf : Bytes} {issuers : List Bytes} {k : SigningKey}
      (hchain : d.HoldsChain cert leaf issuers) (hkey : d.HoldsKey key k)
      (hmatch : d.matchesLeaf k leaf = true) : Loads d (.load cert key) ⟨leaf, issuers, k⟩

/-- A call adds certificates: all that its buffer holds. -/
inductive Adds (d : Decoders) : Call → List Bytes → Prop where
  | trust {pem leaf : Bytes} {issuers : List Bytes} (hchain : d.HoldsChain pem leaf issuers) :
      Adds d (.trust pem) (leaf :: issuers)

/-- Why a call is refused. -/
inductive Refused (d : Decoders) : Call → LoadError → Prop where
  | load {cert key : Bytes} {e : LoadError} (h : d.Reads cert key (.error e)) :
      Refused d (.load cert key) e
  | trust {pem : Bytes} {cause : CertificateCause} (h : d.CertificateRefused pem cause) :
      Refused d (.trust pem) (.badCertificate cause)

/-- What a call comes to. -/
inductive Makes (d : Decoders) (c : CryptoContext) (call : Call) :
    Except LoadError Unit × CryptoContext → Prop where
  | loads {i : Identity} (h : call.Loads d i) : Makes d c call (.ok (), { c with identity := some i })
  | adds {certs : List Bytes} (h : call.Adds d certs) :
      Makes d c call (.ok (), { c with added := c.added ++ certs })
  | refused {e : LoadError} (h : call.Refused d e) : Makes d c call (.error e, c)

end Call

/-- The context after several calls. -/
def run (d : Decoders) (c : CryptoContext) (calls : List Call) : CryptoContext :=
  calls.foldl (Call.after d) c

/-- The certificates that several calls add, for each call that adds some. -/
inductive Added (d : Decoders) : List Call → List (List Bytes) → Prop where
  | nil : Added d [] []
  | adds {call : Call} {calls : List Call} {certs : List Bytes} {chains : List (List Bytes)}
      (h : call.Adds d certs) (hrest : Added d calls chains) : Added d (call :: calls) (certs :: chains)
  | skips {call : Call} {calls : List Call} {chains : List (List Bytes)}
      (h : ∀ certs, ¬call.Adds d certs) (hrest : Added d calls chains) : Added d (call :: calls) chains

/-- The last identity that several calls load. -/
inductive LastLoaded (d : Decoders) : List Call → Identity → Prop where
  | here {call : Call} {calls : List Call} {i : Identity} (h : call.Loads d i)
      (hlater : ∀ later ∈ calls, ∀ j, ¬later.Loads d j) : LastLoaded d (call :: calls) i
  | later {call : Call} {calls : List Call} {i : Identity} (h : LastLoaded d calls i) :
      LastLoaded d (call :: calls) i

/-- Whom several calls make a context trust: those that they add; if they add none, the holder of the
last identity that they load; and if they load none, nobody. -/
inductive TrustedBy (d : Decoders) (calls : List Call) : List Bytes → Prop where
  | added {certs : List Bytes} {chains : List (List Bytes)} (h : Added d calls (certs :: chains)) :
      TrustedBy d calls (certs :: chains).flatten
  | own {i : Identity} (hnone : Added d calls []) (h : LastLoaded d calls i) :
      TrustedBy d calls [i.leaf]
  | nobody (hnone : Added d calls []) (h : ∀ call ∈ calls, ∀ i, ¬call.Loads d i) :
      TrustedBy d calls []

variable {d : Decoders} {c : CryptoContext}

/-! ## Single calls -/

namespace Call

theorem makes_make (d : Decoders) (c : CryptoContext) (call : Call) :
    call.Makes d c (call.make d c) := by
  cases call with
  | load cert key =>
    have hreads := d.reads_readIdentity cert key
    rw [make, loadIdentityWith]
    cases hread : d.readIdentity cert key with
    | error e =>
      rw [hread] at hreads
      exact .refused (.load hreads)
    | ok i =>
      rw [hread] at hreads
      cases hreads with
      | loaded hchain hkey hmatch => exact .loads (.load hchain hkey hmatch)
  | trust pem =>
    rw [make]
    rcases d.refused_or_holdsChain pem with ⟨cause, hrefused⟩ | ⟨leaf, issuers, hchain⟩
    · rw [trustPeerPemWith_of_refused hrefused]
      exact .refused (.trust hrefused)
    · rw [trustPeerPemWith_of_holds hchain]
      exact .adds (.trust hchain)

/-- What a call comes to is what its buffers hold, and nothing else. -/
theorem make_eq_iff {call : Call} {r : Except LoadError Unit × CryptoContext} :
    call.make d c = r ↔ call.Makes d c r := by
  constructor
  · rintro rfl
    exact makes_make d c call
  · intro h
    cases h with
    | loads h =>
      cases h with
      | load hchain hkey hmatch =>
        exact loadIdentityWith_of_ok (Decoders.readIdentity_eq_iff.2 (.loaded hchain hkey hmatch))
    | adds h =>
      cases h with
      | trust hchain => exact trustPeerPemWith_of_holds hchain
    | refused h =>
      cases h with
      | load h => exact loadIdentityWith_of_error (Decoders.readIdentity_eq_iff.2 h)
      | trust h => exact trustPeerPemWith_of_refused h

theorem after_of_makes {call : Call} {result : Except LoadError Unit} {left : CryptoContext}
    (h : call.Makes d c (result, left)) : call.after d c = left :=
  congrArg Prod.snd (make_eq_iff.2 h)

/-- A call that fails leaves the context as it is. -/
theorem after_of_error {call : Call} {e : LoadError} (h : (call.make d c).1 = .error e) :
    call.after d c = c := by
  have hmakes := makes_make d c call
  rw [after]
  generalize call.make d c = r at h hmakes ⊢
  cases hmakes <;> cases h
  rfl

/-- A call installs an identity, adds certificates, or leaves the context as it is. -/
theorem after_cases (d : Decoders) (c : CryptoContext) (call : Call) :
    (∃ i, call.Loads d i ∧ call.after d c = { c with identity := some i }) ∨
      (∃ certs, call.Adds d certs ∧ call.after d c = { c with added := c.added ++ certs }) ∨
      call.after d c = c := by
  have hmakes := makes_make d c call
  rw [after]
  generalize call.make d c = r at hmakes ⊢
  cases hmakes with
  | loads h => exact .inl ⟨_, h, rfl⟩
  | adds h => exact .inr (.inl ⟨_, h, rfl⟩)
  | refused h => exact .inr (.inr rfl)

/-- A call that adds nothing leaves what was added. -/
theorem added_after_of_not {call : Call} (h : ∀ certs, ¬call.Adds d certs) :
    (call.after d c).added = c.added := by
  rcases after_cases d c call with ⟨i, -, heq⟩ | ⟨certs, hadds, -⟩ | heq
  · rw [heq]
  · exact absurd hadds (h certs)
  · rw [heq]

/-- A call that loads nothing leaves the identity. -/
theorem identity_after_of_not {call : Call} (h : ∀ i, ¬call.Loads d i) :
    (call.after d c).identity = c.identity := by
  rcases after_cases d c call with ⟨i, hloads, -⟩ | ⟨certs, -, heq⟩ | heq
  · exact absurd hloads (h i)
  · rw [heq]
  · rw [heq]

end Call

/-! ## Runs -/

/-- Every call adds some certificates or none. -/
theorem exists_added (d : Decoders) (calls : List Call) : ∃ chains, Added d calls chains := by
  induction calls with
  | nil => exact ⟨[], .nil⟩
  | cons call calls ih =>
    obtain ⟨chains, hrest⟩ := ih
    by_cases hadds : ∃ certs, call.Adds d certs
    · obtain ⟨certs, hcerts⟩ := hadds
      exact ⟨certs :: chains, .adds hcerts hrest⟩
    · exact ⟨chains, .skips (not_exists.1 hadds) hrest⟩

/-- A call that adds certificates adds at least one. -/
theorem Added.ne_nil {calls : List Call} {chains : List (List Bytes)} (h : Added d calls chains) :
    ∀ certs ∈ chains, certs ≠ [] := by
  induction h with
  | nil => exact nofun
  | adds hadds _ ih =>
    cases hadds
    exact List.forall_mem_cons.2 ⟨List.cons_ne_nil _ _, ih⟩
  | skips _ _ ih => exact ih

/-- Some identity is the last that is loaded, or none is. -/
theorem lastLoaded_or_forall_not (d : Decoders) (calls : List Call) :
    (∃ i, LastLoaded d calls i) ∨ ∀ call ∈ calls, ∀ i, ¬call.Loads d i := by
  induction calls with
  | nil => exact .inr nofun
  | cons call calls ih =>
    rcases ih with ⟨i, hi⟩ | hnone
    · exact .inl ⟨i, .later hi⟩
    · by_cases hloads : ∃ i, call.Loads d i
      · obtain ⟨i, hi⟩ := hloads
        exact .inl ⟨i, .here hi hnone⟩
      · exact .inr (List.forall_mem_cons.2 ⟨not_exists.1 hloads, hnone⟩)

theorem LastLoaded.exists_loads {calls : List Call} {i : Identity} (h : LastLoaded d calls i) :
    ∃ call ∈ calls, ∃ j, call.Loads d j := by
  induction h with
  | here h _ => exact ⟨_, List.mem_cons_self, _, h⟩
  | later _ ih =>
    obtain ⟨call, hcall, hloads⟩ := ih
    exact ⟨call, List.mem_cons_of_mem _ hcall, hloads⟩

/-- The certificates that were added after a run are those of its calls, in order. -/
theorem added_run {calls : List Call} {chains : List (List Bytes)} (h : Added d calls chains) :
    (c.run d calls).added = c.added ++ chains.flatten := by
  induction h generalizing c with
  | nil => exact (List.append_nil _).symm
  | @adds call calls certs chains hadds _ ih =>
    rw [run, List.foldl_cons, ← run, ih, Call.after_of_makes (.adds hadds), List.flatten_cons,
      List.append_assoc]
  | skips hnone _ ih => rw [run, List.foldl_cons, ← run, ih, Call.added_after_of_not hnone]

theorem identity_run_of_forall_not {calls : List Call}
    (h : ∀ call ∈ calls, ∀ i, ¬call.Loads d i) : (c.run d calls).identity = c.identity := by
  induction calls generalizing c with
  | nil => rfl
  | cons call calls ih =>
    obtain ⟨hcall, hcalls⟩ := List.forall_mem_cons.1 h
    rw [run, List.foldl_cons, ← run, ih hcalls, Call.identity_after_of_not hcall]

/-- The identity after a run is the last one that was loaded. -/
theorem identity_run {calls : List Call} {i : Identity} (h : LastLoaded d calls i) :
    (c.run d calls).identity = some i := by
  induction h generalizing c with
  | here hloads hlater =>
    rw [run, List.foldl_cons, ← run, identity_run_of_forall_not hlater,
      Call.after_of_makes (.loads hloads)]
  | later _ ih =>
    rw [run, List.foldl_cons, ← run]
    exact ih

section Fresh

variable {versions : VersionPolicy} {calls : List Call}

theorem identity_run_fresh_eq_some_iff {i : Identity} :
    ((fresh versions).run d calls).identity = some i ↔ LastLoaded d calls i := by
  refine ⟨fun h => ?_, identity_run⟩
  rcases lastLoaded_or_forall_not d calls with ⟨j, hj⟩ | hnone
  · rw [identity_run hj] at h
    cases h
    exact hj
  · rw [identity_run_of_forall_not hnone] at h
    cases h

/-- There is an identity after a run if some call has loaded one. -/
theorem isSome_identity_run_fresh :
    ((fresh versions).run d calls).identity.isSome ↔ ∃ call ∈ calls, ∃ i, call.Loads d i := by
  rcases lastLoaded_or_forall_not d calls with ⟨i, hi⟩ | hnone
  · rw [identity_run hi]
    exact iff_of_true rfl hi.exists_loads
  · rw [identity_run_of_forall_not hnone]
    refine iff_of_false Bool.false_ne_true ?_
    rintro ⟨call, hcall, i, hi⟩
    exact hnone call hcall i hi

theorem trusted_of_added_eq_nil {c : CryptoContext} (h : c.added = []) :
    c.trusted = (c.identity.map Identity.leaf).toList := by
  rw [trusted, h]
  rfl

theorem trusted_of_added_ne_nil {c : CryptoContext} (h : c.added ≠ []) : c.trusted = c.added := by
  rw [trusted, if_neg (fun hempty => h (List.isEmpty_iff.1 hempty))]

theorem added_run_fresh {chains : List (List Bytes)} (h : Added d calls chains) :
    ((fresh versions).run d calls).added = chains.flatten := by
  rw [added_run h]
  rfl

theorem trusted_of_trustedBy {certs : List Bytes} (h : TrustedBy d calls certs) :
    ((fresh versions).run d calls).trusted = certs := by
  cases h with
  | @added certs chains hadded =>
    have hcerts : certs ≠ [] := hadded.ne_nil certs List.mem_cons_self
    rw [trusted_of_added_ne_nil, added_run_fresh hadded]
    rw [added_run_fresh hadded, List.flatten_cons]
    exact List.append_ne_nil_of_left_ne_nil hcerts _
  | own hnone hlast =>
    rw [trusted_of_added_eq_nil (added_run_fresh hnone), identity_run hlast]
    rfl
  | nobody hnone hloads =>
    rw [trusted_of_added_eq_nil (added_run_fresh hnone), identity_run_of_forall_not hloads]
    rfl

theorem exists_trustedBy (d : Decoders) (calls : List Call) : ∃ certs, TrustedBy d calls certs := by
  obtain ⟨chains, hadded⟩ := exists_added d calls
  cases chains with
  | cons certs chains => exact ⟨_, .added hadded⟩
  | nil =>
    rcases lastLoaded_or_forall_not d calls with ⟨i, hi⟩ | hnone
    · exact ⟨_, .own hadded hi⟩
    · exact ⟨_, .nobody hadded hnone⟩

/-- What a context trusts after a run is what its calls make it trust, and nothing else. -/
theorem trusted_run_fresh_eq_iff {certs : List Bytes} :
    ((fresh versions).run d calls).trusted = certs ↔ TrustedBy d calls certs := by
  refine ⟨fun h => ?_, trusted_of_trustedBy⟩
  obtain ⟨certs', htrusted⟩ := exists_trustedBy d calls
  rw [← h, trusted_of_trustedBy htrusted]
  exact htrusted

end Fresh

/-! ## What a context is good for -/

theorem serverConfig_ok_iff (c : CryptoContext) :
    (∃ s, c.serverConfig = .ok s) ↔ c.identity.isSome := by
  unfold serverConfig requireIdentity
  cases c.identity with
  | none => exact iff_of_false (fun h => by obtain ⟨s, hs⟩ := h; cases hs) Bool.false_ne_true
  | some i => exact iff_of_true ⟨_, rfl⟩ rfl

theorem clientConfig_ok_iff (c : CryptoContext) :
    (∃ s, c.clientConfig = .ok s) ↔ c.identity.isSome := by
  unfold clientConfig requireIdentity
  cases c.identity with
  | none => exact iff_of_false (fun h => by obtain ⟨s, hs⟩ := h; cases hs) Bool.false_ne_true
  | some i => exact iff_of_true ⟨_, rfl⟩ rfl

theorem verifier_of_serverConfig {s : ServerConfig} (h : c.serverConfig = .ok s) :
    s.verifier = c.verifier := by
  unfold serverConfig requireIdentity at h
  split at h <;> cases h
  rfl

theorem verifier_of_clientConfig {s : ClientConfig} (h : c.clientConfig = .ok s) :
    s.verifier = c.verifier := by
  unfold clientConfig requireIdentity at h
  split at h <;> cases h
  rfl

/-- A judge accepts exactly the peers that present one of some certificates, and judges servers and
clients alike, whatever else they present. -/
def Pins (v : Verifier) (certs : List Bytes) : Prop :=
  ∀ (p q : Verifier.Presentation) (name : Host) (status : Bytes), p.leaf = q.leaf →
    (v.checkServer p name status = .ok () ↔ p.leaf ∈ certs) ∧
      v.checkClient q = v.checkServer p name status

theorem verifier_pins (c : CryptoContext) : Pins c.verifier c.trusted := by
  intro p q name status hleaf
  refine ⟨c.verifier.check_eq_ok_iff p.leaf, ?_⟩
  rw [Verifier.checkClient, Verifier.checkServer, hleaf]

/-- After any run of calls on a context without identity and trust, however identity material is
decoded: a further call loads the identity that its buffers hold, adds all certificates that its buffer
holds, or is refused and leaves the context as it is; the identity is the last one that was loaded; the
trusted certificates are all those of the calls that added some, in order, or, before the first of
them, that of the identity; sessions can be opened once an identity was loaded; and their judge accepts
exactly the trusted certificates. -/
theorem run_fresh_trust (d : Decoders) (versions : VersionPolicy) (calls : List Call) :
    let c := (fresh versions).run d calls
    (∀ (call : Call) r, call.make d c = r ↔ call.Makes d c r) ∧
      (∀ (call : Call) e, (call.make d c).1 = .error e → call.after d c = c) ∧
      (∀ i, c.identity = some i ↔ LastLoaded d calls i) ∧
      (∀ certs, c.trusted = certs ↔ TrustedBy d calls certs) ∧
      ((∃ s, c.serverConfig = .ok s) ↔ ∃ call ∈ calls, ∃ i, call.Loads d i) ∧
      ((∃ s, c.clientConfig = .ok s) ↔ ∃ call ∈ calls, ∃ i, call.Loads d i) ∧
      Pins c.verifier c.trusted ∧
      (∀ s, c.serverConfig = .ok s → s.verifier = c.verifier) ∧
      ∀ s, c.clientConfig = .ok s → s.verifier = c.verifier := by
  intro c
  refine ⟨fun call r => Call.make_eq_iff, fun call e he => Call.after_of_error he,
    fun i => identity_run_fresh_eq_some_iff, fun certs => trusted_run_fresh_eq_iff, ?_, ?_,
    verifier_pins c, fun s hs => verifier_of_serverConfig hs, fun s hs => verifier_of_clientConfig hs⟩
  · exact (serverConfig_ok_iff c).trans isSome_identity_run_fresh
  · exact (clientConfig_ok_iff c).trans isSome_identity_run_fresh

end CryptoContext

end PinnedLink
