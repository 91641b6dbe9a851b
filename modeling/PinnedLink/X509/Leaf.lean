import PinnedLink.Der.Value

/-!
# Certificates that a session can use

A session only uses certificates of version three whose encoding is the one possible, whose two
signature algorithms agree, and whose critical extensions are all among those it knows.  Of such a
certificate it takes the public key.  This is stricter than what a certificate file has to satisfy
in some points and laxer in others: dates, names and key are not looked into.
-/

namespace PinnedLink.X509

/-- Why a session cannot use a certificate. -/
inductive LeafError where
  | badEncoding
  | unsupportedCertVersion
  | signatureAlgorithmMismatch
  | unsupportedCriticalExtension
  | extensionValueInvalid
deriving DecidableEq, Repr

/-- A certificate as a session uses it. -/
structure Leaf where
  /-- The content of the public key: its algorithm and its bits. -/
  publicKeyInfo : Bytes
deriving DecidableEq, Repr

namespace Leaf

/-- What cannot be read is badly encoded. -/
def need {α : Type} : Option α → Except LeafError α
  | some a => .ok a
  | none => .error .badEncoding

/-- Passes over the version, which has to be there and to be three. -/
def readVersion (bytes : Bytes) : Except LeafError Bytes :=
  match Der.expect (Der.contextTag 0) bytes with
  | none => .error .unsupportedCertVersion
  | some (content, rest) => do
    let (number, more) ← need (Der.expect Der.integerTag content)
    match Der.naturalBytes number with
    | some [2] => if more.isEmpty then .ok rest else .error .unsupportedCertVersion
    | some [_] => .error .unsupportedCertVersion
    | _ => .error .badEncoding

/-- An extension: its identifier, whether it must be understood, and its value. -/
structure Extension where
  id : Bytes
  critical : Bool
  value : Bytes

/-- Reads the mark of a critical extension, which may be missing. -/
def readCritical (bytes : Bytes) : Option (Bool × Bytes) :=
  if Der.startsWith Der.booleanTag bytes then
    match Der.expect Der.booleanTag bytes with
    | some ([0xff], rest) => some (true, rest)
    | some ([0x00], rest) => some (false, rest)
    | _ => none
  else some (false, bytes)

/-- Reads the content of an extension. -/
def readExtension (content : Bytes) : Option Extension := do
  let (id, rest) ← Der.expect Der.oidTag content
  let (critical, rest) ← readCritical rest
  let value ← Der.expectOnly Der.octetStringTag rest
  return { id, critical, value }

/-- The known extensions by the last byte of their identifiers: key usage, alternative names, basic
constraints, name constraints, distribution points and extended key usage. -/
def knownExtensions : List UInt8 := [15, 17, 19, 30, 31, 37]

/-- The number of a standard extension. -/
def Extension.number? (e : Extension) : Option UInt8 :=
  match e.id with
  | [0x55, 0x1d, n] => if knownExtensions.contains n then some n else none
  | _ => none

/-- Checks an extension; the numbers of those seen so far go along. -/
def checkExtension (seen : List UInt8) (e : Extension) : Except LeafError (List UInt8) :=
  match e.number? with
  | none => if e.critical then .error .unsupportedCriticalExtension else .ok seen
  | some n =>
    if seen.contains n then .error .extensionValueInvalid
    else if n = 15 ∨ (Der.expectOnly Der.sequenceTag e.value).isSome then .ok (n :: seen)
    else .error .badEncoding

/-- Checks extensions to the end. -/
def checkExtensions (seen : List UInt8) (bytes : Bytes) : Except LeafError Unit :=
  if bytes.isEmpty then .ok ()
  else match _h : Der.expect Der.sequenceTag bytes with
    | none => .error .badEncoding
    | some (content, rest) =>
      match readExtension content with
      | none => .error .badEncoding
      | some e =>
        match checkExtension seen e with
        | .error error => .error error
        | .ok seen => checkExtensions seen rest
termination_by bytes.length
decreasing_by exact Der.length_expect_lt _h

/-- Checks what follows the public key. -/
def checkTail (bytes : Bytes) : Except LeafError Unit :=
  if bytes.isEmpty then .ok ()
  else do
    let tagged ← need (Der.expectOnly (Der.contextTag 3) bytes)
    checkExtensions [] (← need (Der.expectOnly Der.sequenceTag tagged))

/-- Reads a certificate. -/
def ofDer (der : Bytes) : Except LeafError Leaf := do
  let content ← need (Der.expectOnly Der.sequenceTag der)
  let (signed, rest) ← need (Der.expect Der.sequenceTag content)
  let (algorithm, rest) ← need (Der.expect Der.sequenceTag rest)
  let (_, rest) ← need (Der.readBits Der.bitStringTag rest)
  if !rest.isEmpty then .error .badEncoding
  let fields ← readVersion signed
  let (_, fields) ← need (Der.expect Der.integerTag fields)
  let (signedAlgorithm, fields) ← need (Der.expect Der.sequenceTag fields)
  if signedAlgorithm ≠ algorithm then .error .signatureAlgorithmMismatch
  let (_, fields) ← need (Der.expect Der.sequenceTag fields)
  let (_, fields) ← need (Der.expect Der.sequenceTag fields)
  let (_, fields) ← need (Der.expect Der.sequenceTag fields)
  let (publicKeyInfo, fields) ← need (Der.expect Der.sequenceTag fields)
  checkTail fields
  return { publicKeyInfo }

/-- The algorithm and the bits of the public key. -/
def publicKey? (leaf : Leaf) : Option (Bytes × Bytes) := do
  let (algorithm, rest) ← Der.expect Der.sequenceTag leaf.publicKeyInfo
  let (key, rest) ← Der.readBits Der.bitStringTag rest
  if rest.isEmpty then some (algorithm, key) else none

end Leaf

end PinnedLink.X509
