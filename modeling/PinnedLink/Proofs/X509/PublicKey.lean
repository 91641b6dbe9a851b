import PinnedLink.X509.Certificate
import PinnedLink.X509.Leaf

/-!
# The public key of a certificate

Two readers look into a certificate, and each passes over what the other checks.  Where the public key
stands does not depend on either: it is the sixth value behind the version, which may be missing.
`publicKeyInfo?` goes there and looks at nothing else.

A certificate that the first reader accepts has a public key there (`publicKeyInfo?_of_certificate`),
and one that the second accepts has there what the second takes from it (`publicKeyInfo?_of_leaf`).  So
both mean the same key wherever both accept.  The second holds since it reads values in one encoding
only, which the first reads as well (`readElement_of_expect`).
-/

namespace PinnedLink.X509

/-! ## The place of the public key -/

/-- The content of a value, and what follows it. -/
def open? (bytes : Bytes) : Option (Bytes × Bytes) :=
  (readElement bytes).toOption.map fun (e, rest) => (e.content, rest)

/-- Passes over a value. -/
def skip? (bytes : Bytes) : Option Bytes := (open? bytes).map Prod.snd

/-- Passes over the version, if it comes next. -/
def skipVersion? (bytes : Bytes) : Option Bytes :=
  (readElement bytes).toOption.map fun (e, rest) =>
    if e.header.tagClass = .contextSpecific ∧ e.tag = 0 then rest else bytes

/-- The content of the public key of a certificate of any version. -/
def publicKeyInfo? (der : Bytes) : Option Bytes := do
  let (content, _) ← open? der
  let (signed, _) ← open? content
  let serial ← skipVersion? signed
  let algorithm ← skip? serial
  let issuer ← skip? algorithm
  let validity ← skip? issuer
  let subject ← skip? validity
  let key ← skip? subject
  let (info, _) ← open? key
  return info

theorem publicKeyInfo?_eq_some {der content signed serial algorithm issuer validity subject key info
    behind : Bytes} {rest rest' : Bytes} (hcontent : open? der = some (content, rest))
    (hsigned : open? content = some (signed, rest')) (hserial : skipVersion? signed = some serial)
    (halgorithm : skip? serial = some algorithm) (hissuer : skip? algorithm = some issuer)
    (hvalidity : skip? issuer = some validity) (hsubject : skip? validity = some subject)
    (hkey : skip? subject = some key) (hinfo : open? key = some (info, behind)) :
    publicKeyInfo? der = some info := by
  simp only [publicKeyInfo?, bind, Option.bind, hcontent, hsigned, hserial, halgorithm, hissuer,
    hvalidity, hsubject, hkey, hinfo]
  rfl

/-! ## Values in one encoding only -/

/-- The forms of a length: one byte for itself, or one or two bytes behind their number. -/
theorem readLength_cases {bytes rest : Bytes} {n : Nat} (h : Der.readLength bytes = some (n, rest)) :
    (∃ b, bytes = b :: rest ∧ b < 0x80 ∧ n = b.toNat) ∨
      (∃ c, bytes = 0x81 :: c :: rest ∧ n = c.toNat) ∨
      ∃ c d, bytes = 0x82 :: c :: d :: rest ∧ n = c.toNat * 256 + d.toNat := by
  unfold Der.readLength at h
  split at h
  · cases h
  case h_2 b tail =>
    by_cases hself : b < 0x80
    · rw [if_pos hself] at h
      cases h
      exact .inl ⟨b, rfl, hself, rfl⟩
    · rw [if_neg hself] at h
      by_cases hone : b = 0x81
      · rw [if_pos hone] at h
        split at h
        · split at h
          · cases h
          · cases h
            exact .inr (.inl ⟨_, by rw [hone], rfl⟩)
        · cases h
      · rw [if_neg hone] at h
        by_cases htwo : b = 0x82
        · rw [if_pos htwo] at h
          split at h
          · simp only at h
            split at h
            · cases h
            · cases h
              exact .inr (.inr ⟨_, _, by rw [htwo], rfl⟩)
          · cases h
        · rw [if_neg htwo] at h
          cases h

theorem readLength_of_der {bytes rest : Bytes} {n : Nat}
    (h : Der.readLength bytes = some (n, rest)) : readLength bytes = .ok (n, rest) := by
  rcases readLength_cases h with ⟨b, rfl, hself, rfl⟩ | ⟨c, rfl, rfl⟩ | ⟨c, d, rfl, rfl⟩
  · exact if_pos hself
  · have hc := c.toNat_lt
    have hread : BigEndian.readNat [c] = c.toNat := by simp [BigEndian.readNat]
    have hsize : c.toNat < UInt64.size := by rw [UInt64.size]; omega
    simp [readLength, hread, hsize]
  · have hc := c.toNat_lt
    have hd := d.toNat_lt
    have hread : BigEndian.readNat [c, d] = c.toNat * 256 + d.toNat := by simp [BigEndian.readNat]
    have hsize : c.toNat * 256 + d.toNat < UInt64.size := by rw [UInt64.size]; omega
    simp [readLength, hread, hsize]

/-- A value is a tag of one byte, a length, and that many bytes. -/
theorem readValue_cases {bytes rest : Bytes} {v : Der.Value}
    (h : Der.readValue bytes = some (v, rest)) :
    ∃ tail n behind, bytes = v.tag :: tail ∧ v.tag.toNat % 32 ≠ 31 ∧
      Der.readLength tail = some (n, behind) ∧ n ≤ behind.length ∧
      v.content = behind.take n ∧ rest = behind.drop n := by
  unfold Der.readValue at h
  split at h
  · cases h
  case h_2 tag tail =>
    by_cases hlarge : tag.toNat % 32 = 31
    · rw [if_pos hlarge] at h
      cases h
    · rw [if_neg hlarge] at h
      split at h
      · cases h
      case h_2 n behind hlength =>
        split at h
        · cases h
        case isFalse hwhole =>
          cases h
          exact ⟨tail, n, behind, rfl, hlarge, hlength, Nat.not_lt.1 hwhole, rfl, rfl⟩

/-- A value in one encoding only is read as that value. -/
theorem readElement_of_expect {tag : UInt8} {bytes content rest : Bytes}
    (h : Der.expect tag bytes = some (content, rest)) :
    ∃ e, readElement bytes = .ok (e, rest) ∧ e.content = content ∧
      e.header.tagClass = TagClass.ofBits (tag.toNat / 64) ∧ e.tag = tag.toNat % 32 := by
  unfold Der.expect at h
  split at h
  case h_2 => cases h
  case h_1 v rest' hvalue =>
    split at h
    case isFalse => cases h
    case isTrue htag =>
      subst htag
      cases h
      obtain ⟨tail, n, behind, rfl, hsmall, hlength, hwhole, hcontent, rfl⟩ :=
        readValue_cases hvalue
      have hidentifier : readIdentifier (v.tag :: tail) =
          .ok ((TagClass.ofBits (v.tag.toNat / 64), v.tag.toNat / 32 % 2 = 1,
            v.tag.toNat % 32), tail) := if_neg hsmall
      refine ⟨⟨⟨TagClass.ofBits (v.tag.toNat / 64), v.tag.toNat / 32 % 2 = 1, v.tag.toNat % 32, n⟩,
        behind.take n⟩, ?_, hcontent.symm, rfl, rfl⟩
      simp only [readElement, readHeader, hidentifier, readLength_of_der hlength]
      rw [if_neg (Nat.not_lt.2 hwhole)]

theorem open?_of_expect {tag : UInt8} {bytes content rest : Bytes}
    (h : Der.expect tag bytes = some (content, rest)) : open? bytes = some (content, rest) := by
  obtain ⟨e, hread, rfl, -, -⟩ := readElement_of_expect h
  rw [open?, hread]
  rfl

theorem skip?_of_expect {tag : UInt8} {bytes content rest : Bytes}
    (h : Der.expect tag bytes = some (content, rest)) : skip? bytes = some rest := by
  rw [skip?, open?_of_expect h]
  rfl

/-! ## The reader of sessions -/

theorem exists_of_bind_eq_ok {ε α β : Type} {x : Except ε α} {f : α → Except ε β} {b : β}
    (h : (x >>= f) = .ok b) : ∃ a, x = .ok a ∧ f a = .ok b := by
  cases x with
  | error e => cases h
  | ok a => exact ⟨a, rfl, h⟩

namespace Leaf

theorem eq_some_of_need {α : Type} {o : Option α} {a : α} (h : need o = .ok a) : o = some a := by
  cases o <;> cases h
  rfl

/-- The version that a session asks for is passed over. -/
theorem skipVersion?_of_readVersion {bytes rest : Bytes} (h : readVersion bytes = .ok rest) :
    skipVersion? bytes = some rest := by
  unfold readVersion at h
  split at h
  case h_1 => cases h
  case h_2 content behind hversion =>
    obtain ⟨⟨number, more⟩, -, h⟩ := exists_of_bind_eq_ok h
    have hrest : behind = rest := by
      dsimp only at h
      split at h
      · split at h <;> cases h
        rfl
      · cases h
      · cases h
    obtain ⟨e, hread, -, hclass, htag⟩ := readElement_of_expect hversion
    rw [skipVersion?, hread, ← hrest]
    show some (if e.header.tagClass = _ ∧ e.tag = 0 then _ else _) = _
    rw [if_pos ⟨hclass, htag⟩]

end Leaf

theorem expect_of_expectOnly {tag : UInt8} {bytes content : Bytes}
    (h : Der.expectOnly tag bytes = some content) : Der.expect tag bytes = some (content, []) := by
  unfold Der.expectOnly at h
  split at h <;> cases h
  assumption

/-- What a session takes for the public key of a certificate is its public key. -/
theorem publicKeyInfo?_of_leaf {der : Bytes} {leaf : Leaf} (h : Leaf.ofDer der = .ok leaf) :
    publicKeyInfo? der = some leaf.publicKeyInfo := by
  unfold Leaf.ofDer at h
  obtain ⟨content, hcontent, h⟩ := exists_of_bind_eq_ok h
  obtain ⟨⟨signed, rest⟩, hsigned, h⟩ := exists_of_bind_eq_ok h
  obtain ⟨⟨outer, rest⟩, -, h⟩ := exists_of_bind_eq_ok h
  obtain ⟨⟨bits, rest⟩, -, h⟩ := exists_of_bind_eq_ok h
  dsimp only at h
  split at h
  · cases h
  obtain ⟨serial, hserial, h⟩ := exists_of_bind_eq_ok h
  obtain ⟨⟨number, algorithm⟩, halgorithm, h⟩ := exists_of_bind_eq_ok h
  obtain ⟨⟨inner, issuer⟩, hissuer, h⟩ := exists_of_bind_eq_ok h
  dsimp only at h
  split at h
  · cases h
  obtain ⟨⟨_, validity⟩, hvalidity, h⟩ := exists_of_bind_eq_ok h
  obtain ⟨⟨_, subject⟩, hsubject, h⟩ := exists_of_bind_eq_ok h
  obtain ⟨⟨_, key⟩, hkey, h⟩ := exists_of_bind_eq_ok h
  obtain ⟨⟨info, tail⟩, hinfo, h⟩ := exists_of_bind_eq_ok h
  obtain ⟨_, -, h⟩ := exists_of_bind_eq_ok h
  cases h
  exact publicKeyInfo?_eq_some (open?_of_expect (expect_of_expectOnly (Leaf.eq_some_of_need hcontent)))
    (open?_of_expect (Leaf.eq_some_of_need hsigned)) (Leaf.skipVersion?_of_readVersion hserial)
    (skip?_of_expect (Leaf.eq_some_of_need halgorithm))
    (skip?_of_expect (Leaf.eq_some_of_need hissuer))
    (skip?_of_expect (Leaf.eq_some_of_need hvalidity))
    (skip?_of_expect (Leaf.eq_some_of_need hsubject)) (skip?_of_expect (Leaf.eq_some_of_need hkey))
    (open?_of_expect (Leaf.eq_some_of_need hinfo))

/-! ## The reader of files -/

theorem open?_of_readElement {bytes rest : Bytes} {e : Element}
    (h : readElement bytes = .ok (e, rest)) : open? bytes = some (e.content, rest) := by
  rw [open?, h]
  rfl

theorem skip?_of_readElement {bytes rest : Bytes} {e : Element}
    (h : readElement bytes = .ok (e, rest)) : skip? bytes = some rest := by
  rw [skip?, open?_of_readElement h]
  rfl

/-- A container is a value. -/
theorem open?_of_readContainer {tag : Nat} {bytes content rest : Bytes}
    (h : readContainer tag bytes = .ok (content, rest)) : open? bytes = some (content, rest) := by
  unfold readContainer at h
  split at h
  case h_1 => cases h
  case h_2 header behind hheader =>
    split at h
    case isTrue => cases h
    case isFalse hwhole =>
      split at h
      case isFalse => cases h
      case isTrue =>
        cases h
        rw [open?, readElement, hheader]
        simp only [if_neg hwhole]
        rfl

theorem skip?_of_readContainer {tag : Nat} {bytes content rest : Bytes}
    (h : readContainer tag bytes = .ok (content, rest)) : skip? bytes = some rest := by
  rw [skip?, open?_of_readContainer h]
  rfl

namespace Certificate

theorem ok_of_blame {α : Type} {f : Fault} {r : Except ParseError α} {a : α}
    (h : blame f r = .ok a) : r = .ok a := by
  cases r <;> cases h
  rfl

theorem skipVersion?_of_readVersion {bytes rest : Bytes} (h : readVersion bytes = .ok rest)
    (hrest : rest ≠ []) : skipVersion? bytes = some rest := by
  unfold readVersion at h
  split at h
  case isTrue hempty =>
    cases h
    exact absurd (List.isEmpty_iff.1 hempty) hrest
  case isFalse =>
    obtain ⟨⟨e, behind⟩, hread, h⟩ := exists_of_bind_eq_ok h
    rw [skipVersion?, hread]
    show some (if e.header.tagClass = .contextSpecific ∧ e.tag = 0 then behind else bytes) = some rest
    dsimp only at h
    split at h
    case isTrue htag =>
      cases h
      rw [if_neg (fun hversion => htag hversion.2)]
    case isFalse htag =>
      split at h
      case isTrue => cases h
      case isFalse hclass =>
        obtain ⟨⟨version, _⟩, -, h⟩ := exists_of_bind_eq_ok h
        dsimp only at h
        split at h <;> cases h
        rw [if_pos ⟨Decidable.not_not.1 hclass, Decidable.not_not.1 htag⟩]

theorem skip?_of_readSerial {bytes rest : Bytes} (h : readSerial bytes = .ok rest) :
    skip? bytes = some rest := by
  obtain ⟨⟨e, behind⟩, hread, h⟩ := exists_of_bind_eq_ok h
  dsimp only at h
  split at h <;> cases h
  exact skip?_of_readElement (ok_of_blame hread)

theorem skip?_of_readAlgorithm {bytes rest : Bytes} (h : readAlgorithm bytes = .ok rest) :
    skip? bytes = some rest := by
  obtain ⟨⟨e, behind⟩, hread, h⟩ := exists_of_bind_eq_ok h
  rw [skip?_of_readElement hread]
  dsimp only at h
  split at h
  case isTrue => cases h
  case isFalse =>
    split at h
    case h_1 =>
      obtain ⟨parameters, -, h⟩ := exists_of_bind_eq_ok h
      split at h
      case isTrue =>
        cases h
        rfl
      case isFalse =>
        obtain ⟨_, -, h⟩ := exists_of_bind_eq_ok h
        cases h
        rfl
    case h_2 => cases h
    case h_3 => cases h

theorem skip?_of_readName {bytes rest : Bytes} {name : Name} (h : Name.read bytes = .ok (name, rest)) :
    skip? bytes = some rest := by
  obtain ⟨⟨content, behind⟩, hread, h⟩ := exists_of_bind_eq_ok h
  cases h
  exact skip?_of_readContainer hread

theorem skip?_of_readValidity {bytes rest : Bytes} (h : readValidity bytes = .ok rest) :
    skip? bytes = some rest := by
  obtain ⟨⟨content, behind⟩, hread, h⟩ := exists_of_bind_eq_ok h
  obtain ⟨_, -, h⟩ := exists_of_bind_eq_ok h
  obtain ⟨_, -, h⟩ := exists_of_bind_eq_ok h
  cases h
  exact skip?_of_readContainer hread

theorem open?_of_readPublicKey {bytes rest : Bytes} (h : readPublicKey bytes = .ok rest) :
    ∃ info, open? bytes = some (info, rest) := by
  obtain ⟨⟨content, behind⟩, hread, h⟩ := exists_of_bind_eq_ok h
  obtain ⟨_, -, h⟩ := exists_of_bind_eq_ok h
  obtain ⟨_, -, h⟩ := exists_of_bind_eq_ok h
  cases h
  exact ⟨content, open?_of_readContainer hread⟩

end Certificate

/-- A certificate that can be read has a public key. -/
theorem publicKeyInfo?_of_certificate {der : Bytes} {c : Certificate}
    (h : Certificate.ofDer der = .ok c) : ∃ info, publicKeyInfo? der = some info := by
  obtain ⟨⟨content, _⟩, hcontent, h⟩ := exists_of_bind_eq_ok h
  obtain ⟨⟨_, _⟩, h, -⟩ := exists_of_bind_eq_ok h
  obtain ⟨⟨signed, _⟩, hsigned, h⟩ := exists_of_bind_eq_ok h
  obtain ⟨serial, hserial, h⟩ := exists_of_bind_eq_ok h
  obtain ⟨algorithm, halgorithm, h⟩ := exists_of_bind_eq_ok h
  obtain ⟨issuer, hissuer, h⟩ := exists_of_bind_eq_ok h
  obtain ⟨⟨_, validity⟩, hvalidity, h⟩ := exists_of_bind_eq_ok h
  obtain ⟨subject, hsubject, h⟩ := exists_of_bind_eq_ok h
  obtain ⟨⟨_, key⟩, hkey, h⟩ := exists_of_bind_eq_ok h
  obtain ⟨tail, hinfo, -⟩ := exists_of_bind_eq_ok h
  obtain ⟨info, hinfo⟩ := Certificate.open?_of_readPublicKey hinfo
  have hne : serial ≠ [] := by
    rintro rfl
    cases halgorithm
  exact ⟨info, publicKeyInfo?_eq_some (open?_of_readContainer hcontent)
    (open?_of_readContainer hsigned) (Certificate.skipVersion?_of_readVersion hserial hne)
    (Certificate.skip?_of_readSerial halgorithm) (Certificate.skip?_of_readAlgorithm hissuer)
    (Certificate.skip?_of_readName hvalidity) (Certificate.skip?_of_readValidity hsubject)
    (Certificate.skip?_of_readName hkey) hinfo⟩

end PinnedLink.X509
