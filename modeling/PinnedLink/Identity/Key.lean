import PinnedLink.Pem.Section
import PinnedLink.Signature.Algorithm

/-!
# Private keys

A private key comes in one of three forms: a wrapped key that names its algorithm, an RSA key, or a
key over a curve.  A key is accepted only if its parts agree; what is kept of it is its kind and its
public key, which is all that loading an identity compares.
-/

namespace PinnedLink

/-- A private key that can sign, by what it shows of itself. -/
structure SigningKey where
  kind : Signature.KeyKind
  /-- The bits of the public key. -/
  publicKey : Bytes
deriving DecidableEq, Repr

namespace SigningKey

open Signature (KeyKind)

/-- The public key as a certificate holds it. -/
def publicKeyInfo (k : SigningKey) : Bytes :=
  Der.encode Der.sequenceTag k.kind.id ++ Der.encodeBits k.publicKey

/-- The content of a wrapped key: its form, the identifier of its algorithm, its octets, and what
follows them. -/
structure Wrapped where
  form : Nat
  algorithm : Bytes
  octets : Bytes
  /-- What follows the octets, apart from attributes. -/
  tail : Bytes

/-- Passes over a value with a tag if it comes next. -/
def skipOptional (tag : UInt8) (bytes : Bytes) : Option Bytes :=
  if Der.startsWith tag bytes then (Der.expect tag bytes).map Prod.snd else some bytes

/-- Reads a wrapped key. -/
def Wrapped.read (bytes : Bytes) : Option Wrapped := do
  let content ← Der.expectOnly Der.sequenceTag bytes
  let (form, rest) ← Der.readNatural content
  let (algorithm, rest) ← Der.expect Der.sequenceTag rest
  let (octets, rest) ← Der.expect Der.octetStringTag rest
  let tail ← skipOptional (Der.contextTag 0) rest
  return { form, algorithm, octets, tail }

/-- The octets of a wrapped key of a kind, in the form without public key. -/
def Wrapped.plain? (w : Wrapped) (kind : KeyKind) : Option Bytes :=
  if w.form = 0 ∧ w.algorithm = kind.id ∧ w.tail.isEmpty then some w.octets else none

/-- An RSA key, by its encoding. -/
def ofRsa? (bytes : Bytes) : Option SigningKey := do
  let k ← Crypto.Rsa.PrivateKey.read bytes
  if k.isConsistent then some { kind := .rsa, publicKey := k.publicKey.encode } else none

/-- A key over a curve, by its encoding; the public key is part of it. -/
def ofCurve? (kind : KeyKind) (curve : Crypto.Curve) (bytes : Bytes) : Option SigningKey := do
  let content ← Der.expectOnly Der.sequenceTag bytes
  let (version, rest) ← Der.readNatural content
  let (secret, rest) ← Der.expect Der.octetStringTag rest
  let rest ←
    if Der.startsWith (Der.contextTag 0) rest then do
      let (id, rest) ← Der.expect (Der.contextTag 0) rest
      if some id = kind.curveId? then some rest else none
    else some rest
  let tagged ← Der.expectOnly (Der.contextTag 1) rest
  let (key, more) ← Der.readBits Der.bitStringTag tagged
  if version = 1 ∧ more.isEmpty ∧ Crypto.Ecdsa.publicKey? curve secret = some key then
    some { kind, publicKey := key }
  else none

/-- An Ed25519 key, by its wrapping, which may hold the public key in its second form. -/
def ofEd25519? (w : Wrapped) : Option SigningKey := do
  let seed ← Der.expectOnly Der.octetStringTag w.octets
  let key ← Crypto.Ed25519.publicKey? seed
  let agrees ←
    if w.form = 0 then some w.tail.isEmpty
    else if w.form = 1 then do
      let tag :=
        if Der.startsWith (Der.contextTag 1) w.tail then Der.contextTag 1
        else Der.contextPrimitiveTag 1
      let bits ←
        if tag = Der.contextTag 1 then
          (Der.expectOnly tag w.tail).bind fun inner => Der.readBits Der.bitStringTag inner
        else Der.readBits tag w.tail
      some (bits.2.isEmpty && bits.1 == key)
    else none
  if w.algorithm = KeyKind.id .ed25519 ∧ agrees then some { kind := .ed25519, publicKey := key }
  else none

/-- A wrapped key of any kind. -/
def ofWrapped? (w : Wrapped) : Option SigningKey :=
  ((w.plain? .rsa).bind ofRsa?)
    <|> ((w.plain? .p256).bind (ofCurve? .p256 Crypto.p256))
    <|> ((w.plain? .p384).bind (ofCurve? .p384 Crypto.p384))
    <|> ofEd25519? w

/-- The key in a section. -/
def ofSection? (s : Pem.Section) : Option SigningKey :=
  match s.kind with
  | .rsaPrivateKey => ofRsa? s.content
  | .ecPrivateKey => ofCurve? .p256 Crypto.p256 s.content <|> ofCurve? .p384 Crypto.p384 s.content
  | .privateKey => (Wrapped.read s.content).bind ofWrapped?
  | _ => none

end SigningKey

end PinnedLink
