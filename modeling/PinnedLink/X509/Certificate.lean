import PinnedLink.X509.Name
import PinnedLink.X509.Time

/-!
# Reading certificates

`Certificate.ofDer` reads a certificate as a file of trusted or own certificates has to hold it: all
parts have to be there and well formed, while bytes behind a part are mostly passed over.  Each part
answers for its own faults; the order of the parts decides which fault shows.
-/

namespace PinnedLink.X509

/-- What a certificate says about its holder. -/
structure Certificate where
  issuer : Name
  subject : Name
deriving DecidableEq, Repr

namespace Certificate

/-- Any failure becomes a fault of one part. -/
def blame {α : Type} (f : Fault) : Except ParseError α → Except ParseError α
  | .ok a => .ok a
  | .error _ => .error (.fault f)

/-- Content of an integer in its shortest form. -/
def isMinimalInteger : Bytes → Bool
  | [] => false
  | [_] => true
  | a :: b :: _ => !(a == 0 && b < 0x80) && !(a == 0xff && 0x80 ≤ b)

/-- A version number: a natural number of at most 32 bits. -/
def isVersion (e : Element) : Bool :=
  e.tag == Tag.integer && !e.header.constructed && isMinimalInteger e.content &&
    BigEndian.readNat (e.content.take 1) < 0x80 && BigEndian.readNat e.content < UInt32.size

/-- Passes over the version, which may be missing. -/
def readVersion (bytes : Bytes) : Except ParseError Bytes :=
  if bytes.isEmpty then .ok bytes
  else do
    let (e, rest) ← readElement bytes
    if e.tag ≠ 0 then .ok bytes
    else if e.header.tagClass ≠ .contextSpecific then derFault (.unexpectedClass e.header.tagClass)
    else
      let (version, _) ← blame .version (readElement e.content)
      if isVersion version then .ok rest else .error (.fault .version)

/-- Passes over the serial number. -/
def readSerial (bytes : Bytes) : Except ParseError Bytes := do
  let (e, rest) ← blame .serial (readElement bytes)
  if e.tag = Tag.integer then .ok rest else .error (.fault .serial)

/-- Passes over an algorithm and its parameters. -/
def readAlgorithm (bytes : Bytes) : Except ParseError Bytes := do
  let (e, rest) ← readElement bytes
  if e.tag ≠ Tag.sequence then derFault (.unexpectedTag (some Tag.sequence) e.tag)
  else
    let parameters ← match Oid.read e.content with
      | .ok (_, parameters) => .ok parameters
      | .error (.incomplete n) => .error (.incomplete n)
      | .error (.fault _) => .error (.fault .algorithmIdentifier)
    if parameters.isEmpty then .ok rest
    else
      let _ ← readElement parameters
      .ok rest

/-- The unused bits at the end of a bit string are there and zero. -/
def isBitContent : Bytes → Bool
  | [] => false
  | [unused] => unused == 0
  | unused :: bits => (bits.getLast?.getD 0).toNat % (1 <<< unused.toNat) == 0 && unused ≤ 8

/-- A well-formed bit string, by its content. -/
def isBitString (e : Element) : Bool := !e.header.constructed && isBitContent e.content

/-- Passes over a bit string; another value is a fault of a part. -/
def readBits (part : Fault) (bytes : Bytes) : Except ParseError Bytes := do
  let (e, rest) ← blame part (readElement bytes)
  if e.tag = Tag.bitString ∧ isBitString e then .ok rest else .error (.fault part)

/-- Passes over a period of validity. -/
def readValidity (bytes : Bytes) : Except ParseError Bytes := do
  let (content, rest) ← readContainer Tag.sequence bytes
  let content ← Time.read content
  let _ ← Time.read content
  return rest

/-- Passes over a public key. -/
def readPublicKey (bytes : Bytes) : Except ParseError Bytes := do
  let (content, rest) ← readContainer Tag.sequence bytes
  let content ← readAlgorithm content
  let _ ← readBits .publicKey content
  return rest

/-- Passes over a unique identifier with a tag of its own, which may be missing. -/
def readUniqueId (tag : Nat) (part : Fault) (bytes : Bytes) : Except ParseError Bytes :=
  if bytes.isEmpty then .ok bytes
  else match readHeader bytes with
    | .ok (header, _) =>
      if header.tag ≠ tag then .ok bytes
      else do
        let (e, rest) ← blame part (readElement bytes)
        if e.header.tagClass = .contextSpecific ∧ isBitString e then .ok rest
        else .error (.fault part)
    | .error _ => .error (.fault part)

/-- Passes over the mark of a critical extension, which may be missing. -/
def readCritical (bytes : Bytes) : Bytes :=
  match readElement bytes with
  | .ok (e, rest) => if e.tag = Tag.boolean ∧ e.content.length = 1 then rest else bytes
  | .error _ => bytes

/-- Passes over an extension. -/
def readExtension (bytes : Bytes) : Except ParseError (Unit × Bytes) := do
  let (content, rest) ← readContainer Tag.sequence bytes
  let (_, content) ← Oid.read content
  let (value, _) ← readElement (readCritical content)
  if value.tag = Tag.octetString ∧ !value.header.constructed then return ((), rest)
  else .error (.fault .extensions)

/-- Reads the extensions, which may be missing and are the last part. -/
def readExtensions (bytes : Bytes) : Except ParseError Unit :=
  if bytes.isEmpty then .ok ()
  else match readHeader bytes with
    | .error _ => .error (.fault .extensions)
    | .ok (header, rest) =>
      if header.tag ≠ 3 then .error (.fault .extensions)
      else do
        let (content, rest) ← readContainer Tag.sequence rest
        if (readMany readExtension content).2.isEmpty ∧ rest.isEmpty then .ok ()
        else .error (.fault .endOfData)

/-- Reads the signed part of a certificate. -/
def readSigned (bytes : Bytes) : Except ParseError (Certificate × Bytes) := do
  let (content, rest) ← readContainer Tag.sequence bytes
  let content ← readVersion content
  let content ← readSerial content
  let content ← readAlgorithm content
  let (issuer, content) ← Name.read content
  let content ← readValidity content
  let (subject, content) ← Name.read content
  let content ← readPublicKey content
  let content ← readUniqueId 1 .issuerUniqueId content
  let content ← readUniqueId 2 .subjectUniqueId content
  readExtensions content
  return ({ issuer, subject }, rest)

/-- Reads a certificate.  Bytes behind it do not matter. -/
def ofDer (der : Bytes) : Except ParseError Certificate := do
  let (content, _) ← readContainer Tag.sequence der
  let (certificate, content) ← readSigned content
  let content ← readAlgorithm content
  let _ ← readBits .signatureValue content
  return certificate

end Certificate

end PinnedLink.X509
