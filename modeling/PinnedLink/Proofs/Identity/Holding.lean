import PinnedLink.Context

/-!
# What identity material holds

A certificate buffer is refused, or it holds a chain whose first certificate can be read
(`refused_or_holdsChain`).  A key buffer is refused, or it holds a key that can sign
(`refused_or_holdsKey`).  Both are said from the decoders alone, and what reading an identity comes to
is said from both (`Reads`): the certificate buffer is judged first, the key buffer next, and the two are
compared last (`readIdentity_eq_iff`).  A context either takes up what a buffer holds or stays as it is.

All of this holds of any `Decoders`.
-/

namespace PinnedLink

namespace Decoders

/-! ## Buffers -/

/-- Why a certificate buffer is refused. -/
inductive CertificateRefused (d : Decoders) (pem : Bytes) : CertificateCause → Prop where
  | pem {e : Pem.Error} (h : d.certificates pem = .error e) : CertificateRefused d pem (.pem e)
  | noCertificate (h : d.certificates pem = .ok []) : CertificateRefused d pem .noCertificate
  | unreadable {leaf : Bytes} {issuers : List Bytes} {e : X509.ParseError}
      (h : d.certificates pem = .ok (leaf :: issuers)) (hleaf : d.certificate leaf = .error e) :
      CertificateRefused d pem (.unreadable e)

/-- A certificate buffer holds a chain, of which the first certificate can be read. -/
def HoldsChain (d : Decoders) (pem leaf : Bytes) (issuers : List Bytes) : Prop :=
  d.certificates pem = .ok (leaf :: issuers) ∧ ∃ content, d.certificate leaf = .ok content

/-- Why a key buffer is refused. -/
inductive KeyRefused (d : Decoders) (pem : Bytes) : KeyCause → Prop where
  | pem {e : Pem.Error} (h : d.privateKey pem = .error e) : KeyRefused d pem (.pem e)
  | unsupported {s : Pem.Section} (h : d.privateKey pem = .ok s) (hkey : d.signingKey? s = none) :
      KeyRefused d pem .unsupported

/-- A key buffer holds a key that can sign. -/
def HoldsKey (d : Decoders) (pem : Bytes) (k : SigningKey) : Prop :=
  ∃ s, d.privateKey pem = .ok s ∧ d.signingKey? s = some k

/-- What reading an identity comes to. -/
inductive Reads (d : Decoders) (cert key : Bytes) : Except LoadError Identity → Prop where
  | badCertificate {cause : CertificateCause} (h : d.CertificateRefused cert cause) :
      Reads d cert key (.error (.badCertificate cause))
  | badKey {leaf : Bytes} {issuers : List Bytes} {cause : KeyCause}
      (hchain : d.HoldsChain cert leaf issuers) (h : d.KeyRefused key cause) :
      Reads d cert key (.error (.badKey cause))
  | keyMismatch {leaf : Bytes} {issuers : List Bytes} {k : SigningKey}
      (hchain : d.HoldsChain cert leaf issuers) (hkey : d.HoldsKey key k)
      (h : d.matchesLeaf k leaf = false) : Reads d cert key (.error .keyMismatch)
  | loaded {leaf : Bytes} {issuers : List Bytes} {k : SigningKey}
      (hchain : d.HoldsChain cert leaf issuers) (hkey : d.HoldsKey key k)
      (h : d.matchesLeaf k leaf = true) : Reads d cert key (.ok ⟨leaf, issuers, k⟩)

variable {d : Decoders} {pem cert key leaf : Bytes} {issuers : List Bytes} {k : SigningKey}

/-- A certificate buffer is refused, or it holds a chain. -/
theorem refused_or_holdsChain (d : Decoders) (pem : Bytes) :
    (∃ cause, d.CertificateRefused pem cause) ∨ ∃ leaf issuers, d.HoldsChain pem leaf issuers := by
  cases hcerts : d.certificates pem with
  | error e => exact .inl ⟨_, .pem hcerts⟩
  | ok certs =>
    cases certs with
    | nil => exact .inl ⟨_, .noCertificate hcerts⟩
    | cons leaf issuers =>
      cases hleaf : d.certificate leaf with
      | error e => exact .inl ⟨_, .unreadable hcerts hleaf⟩
      | ok content => exact .inr ⟨leaf, issuers, hcerts, content, hleaf⟩

/-- A key buffer is refused, or it holds a key that can sign. -/
theorem refused_or_holdsKey (d : Decoders) (pem : Bytes) :
    (∃ cause, d.KeyRefused pem cause) ∨ ∃ k, d.HoldsKey pem k := by
  cases hkey : d.privateKey pem with
  | error e => exact .inl ⟨_, .pem hkey⟩
  | ok s =>
    cases hsection : d.signingKey? s with
    | none => exact .inl ⟨_, .unsupported hkey hsection⟩
    | some k => exact .inr ⟨k, s, hkey, hsection⟩

/-! ## Chains -/

theorem readChain_of_refused {cause : CertificateCause} (h : d.CertificateRefused pem cause) :
    d.readChain pem = .error cause := by
  cases h with
  | pem h => simp only [readChain, h]
  | noCertificate h => simp only [readChain, h]
  | unreadable h hleaf => simp only [readChain, h, hleaf]

theorem readChain_of_holds (h : d.HoldsChain pem leaf issuers) :
    d.readChain pem = .ok (leaf :: issuers) := by
  obtain ⟨hcerts, content, hleaf⟩ := h
  simp only [readChain, hcerts, hleaf]

/-! ## Identities -/

/-- The certificate buffer is judged first. -/
theorem readIdentity_of_certificateRefused {cause : CertificateCause}
    (h : d.CertificateRefused cert cause) :
    d.readIdentity cert key = .error (.badCertificate cause) := by
  rw [readIdentity, readChain_of_refused h]

/-- The key buffer is judged next. -/
theorem readIdentity_of_keyRefused {cause : KeyCause} (hchain : d.HoldsChain cert leaf issuers)
    (h : d.KeyRefused key cause) : d.readIdentity cert key = .error (.badKey cause) := by
  rw [readIdentity, readChain_of_holds hchain]
  cases h with
  | pem h => simp only [h]
  | unsupported h hkey => simp only [h, hkey]

/-- The two are compared last. -/
theorem readIdentity_of_holds (hchain : d.HoldsChain cert leaf issuers) (hkey : d.HoldsKey key k) :
    d.readIdentity cert key =
      if d.matchesLeaf k leaf then .ok ⟨leaf, issuers, k⟩ else .error .keyMismatch := by
  obtain ⟨s, hs, hk⟩ := hkey
  rw [readIdentity, readChain_of_holds hchain]
  simp only [hs, hk]

theorem reads_readIdentity (d : Decoders) (cert key : Bytes) :
    d.Reads cert key (d.readIdentity cert key) := by
  rcases refused_or_holdsChain d cert with ⟨cause, hcert⟩ | ⟨leaf, issuers, hchain⟩
  · rw [readIdentity_of_certificateRefused hcert]
    exact .badCertificate hcert
  · rcases refused_or_holdsKey d key with ⟨cause, hkey⟩ | ⟨k, hkey⟩
    · rw [readIdentity_of_keyRefused hchain hkey]
      exact .badKey hchain hkey
    · rw [readIdentity_of_holds hchain hkey]
      cases hmatch : d.matchesLeaf k leaf with
      | true => exact .loaded hchain hkey hmatch
      | false => exact .keyMismatch hchain hkey hmatch

/-- What reading an identity comes to is what the buffers hold, and nothing else. -/
theorem readIdentity_eq_iff {r : Except LoadError Identity} :
    d.readIdentity cert key = r ↔ d.Reads cert key r := by
  constructor
  · rintro rfl
    exact reads_readIdentity d cert key
  · intro h
    cases h with
    | badCertificate h => exact readIdentity_of_certificateRefused h
    | badKey hchain h => exact readIdentity_of_keyRefused hchain h
    | keyMismatch hchain hkey h =>
      rw [readIdentity_of_holds hchain hkey, h]
      rfl
    | loaded hchain hkey h =>
      rw [readIdentity_of_holds hchain hkey, h]
      rfl

end Decoders

/-! ## Calls on a context -/

namespace CryptoContext

variable {d : Decoders} {c c' : CryptoContext} {pem cert key : Bytes}

theorem loadIdentityWith_of_error {e : LoadError} (h : d.readIdentity cert key = .error e) :
    c.loadIdentityWith d cert key = (.error e, c) := by
  rw [loadIdentityWith, h]

theorem loadIdentityWith_of_ok {i : Identity} (h : d.readIdentity cert key = .ok i) :
    c.loadIdentityWith d cert key = (.ok (), { c with identity := some i }) := by
  rw [loadIdentityWith, h]
  rfl

/-- A load fails as the reading does. -/
theorem loadIdentityWith_error_iff {e : LoadError} :
    (c.loadIdentityWith d cert key).1 = .error e ↔ d.Reads cert key (.error e) := by
  rw [← Decoders.readIdentity_eq_iff]
  cases hread : d.readIdentity cert key with
  | error e' => rw [loadIdentityWith_of_error hread, Except.error.injEq, Except.error.injEq]
  | ok i =>
    rw [loadIdentityWith_of_ok hread]
    exact iff_of_false (fun h => by cases h) (fun h => by cases h)

/-- A load that succeeds installs what was read. -/
theorem loadIdentityWith_eq_ok_iff :
    c.loadIdentityWith d cert key = (.ok (), c') ↔
      ∃ i, d.Reads cert key (.ok i) ∧ c' = { c with identity := some i } := by
  simp only [← Decoders.readIdentity_eq_iff]
  cases hread : d.readIdentity cert key with
  | error e =>
    rw [loadIdentityWith_of_error hread]
    exact iff_of_false (fun h => by cases h) (fun h => by obtain ⟨i, hi, -⟩ := h; cases hi)
  | ok i =>
    rw [loadIdentityWith_of_ok hread]
    constructor
    · intro h
      cases h
      exact ⟨i, rfl, rfl⟩
    · rintro ⟨i', hi, rfl⟩
      cases hi
      rfl

theorem trustPeerPemWith_of_refused {cause : CertificateCause}
    (h : d.CertificateRefused pem cause) :
    c.trustPeerPemWith d pem = (.error (.badCertificate cause), c) := by
  rw [trustPeerPemWith, Decoders.readChain_of_refused h]

/-- All certificates of a buffer are added, behind those that are there. -/
theorem trustPeerPemWith_of_holds {leaf : Bytes} {issuers : List Bytes}
    (h : d.HoldsChain pem leaf issuers) :
    c.trustPeerPemWith d pem = (.ok (), { c with added := c.added ++ leaf :: issuers }) := by
  rw [trustPeerPemWith, Decoders.readChain_of_holds h]

end CryptoContext

end PinnedLink
