import PinnedLink.Bytes.BigEndian
import PinnedLink.X509.Error

/-!
# Encoded values

A value is encoded as an identifier, a length and that many bytes of content.  `readElement` asks
for the bytes that a value lacks; `readContainer` is for values that hold others, where running out
of bytes is a fault.  `readMany` takes values one after another, and ends where one cannot be read or
takes up nothing.
-/

namespace PinnedLink.X509

/-- The class that the two top bits of an identifier write. -/
def TagClass.ofBits (n : Nat) : TagClass :=
  if n % 4 = 0 then .universal
  else if n % 4 = 1 then .application
  else if n % 4 = 2 then .contextSpecific
  else .privateUse

/-- What stands in front of the content of a value. -/
structure ElementHeader where
  tagClass : TagClass
  /-- The content is made of further values. -/
  constructed : Bool
  tag : Nat
  length : Nat
deriving DecidableEq, Repr

/-- A value: its header and its content. -/
structure Element where
  header : ElementHeader
  content : Bytes
deriving DecidableEq, Repr

/-- The tag of a value. -/
def Element.tag (e : Element) : Nat := e.header.tag

namespace Tag

def boolean : Nat := 1
def integer : Nat := 2
def bitString : Nat := 3
def octetString : Nat := 4
def objectDescriptor : Nat := 7
def utf8String : Nat := 12
def sequence : Nat := 16
def set : Nat := 17
def numericString : Nat := 18
def printableString : Nat := 19
def t61String : Nat := 20
def videotexString : Nat := 21
def ia5String : Nat := 22
def utcTime : Nat := 23
def generalizedTime : Nat := 24
def graphicString : Nat := 25
def visibleString : Nat := 26
def generalString : Nat := 27
def bmpString : Nat := 30

end Tag

/-- A fault of the encoding. -/
def derFault {α : Type} (f : DerFault) : Except ParseError α := .error (.fault (.der f))

/-- Reads the groups of seven bits of a large tag; at most `limit` bytes may be used. -/
def readLargeTag (tag : Nat) : Nat → Bytes → Except ParseError (Nat × Bytes)
  | 0, _ => derFault .invalidTag
  | _ + 1, [] => derFault .invalidTag
  | limit + 1, b :: rest =>
    let tag := (tag * 128 + b.toNat % 128) % UInt32.size
    if b < 128 then .ok (tag, rest) else readLargeTag tag limit rest

/-- Reads the length of a content. -/
def readLength (bytes : Bytes) : Except ParseError (Nat × Bytes) :=
  match bytes with
  | [] => .error (.incomplete 1)
  | b :: rest =>
    if b < 0x80 then .ok (b.toNat, rest)
    else if b = 0x80 then derFault .indefiniteLength
    else if b = 0xff then derFault .invalidLength
    else
      let width := b.toNat - 0x80
      if rest.length < width then .error (.incomplete (width - rest.length))
      else
        let n := BigEndian.readNat (rest.take width)
        if n < UInt64.size then .ok (n, rest.drop width) else derFault .invalidLength

/-- Reads an identifier: tag class, whether the content is constructed, and the tag. -/
def readIdentifier (bytes : Bytes) : Except ParseError ((TagClass × Bool × Nat) × Bytes) :=
  match bytes with
  | [] => .error (.incomplete 1)
  | b :: rest =>
    let tagClass := TagClass.ofBits (b.toNat / 64)
    let constructed := b.toNat / 32 % 2 = 1
    if b.toNat % 32 = 31 then
      match readLargeTag 0 5 rest with
      | .ok (tag, rest) => .ok ((tagClass, constructed, tag), rest)
      | .error e => .error e
    else .ok ((tagClass, constructed, b.toNat % 32), rest)

/-- Reads a header. -/
def readHeader (bytes : Bytes) : Except ParseError (ElementHeader × Bytes) :=
  match readIdentifier bytes with
  | .error e => .error e
  | .ok ((tagClass, constructed, tag), rest) =>
    match readLength rest with
    | .error e => .error e
    | .ok (length, rest) => .ok ({ tagClass, constructed, tag, length }, rest)

/-- Reads a value; asks for the bytes of its content that are not there. -/
def readElement (bytes : Bytes) : Except ParseError (Element × Bytes) :=
  match readHeader bytes with
  | .error e => .error e
  | .ok (header, rest) =>
    if rest.length < header.length then .error (.incomplete (header.length - rest.length))
    else .ok ({ header, content := rest.take header.length }, rest.drop header.length)

/-- Reads the content of a container with a tag.  The class of the tag does not matter. -/
def readContainer (tag : Nat) (bytes : Bytes) : Except ParseError (Bytes × Bytes) :=
  match readHeader bytes with
  | .error e => .error e
  | .ok (header, rest) =>
    if rest.length < header.length then .error (.fault .endOfData)
    else if header.tag = tag then .ok (rest.take header.length, rest.drop header.length)
    else derFault (.unexpectedTag (some tag) header.tag)

/-- Reads values one after another as long as that succeeds; what is left is where it first fails. -/
def readMany {α : Type} (read : Bytes → Except ParseError (α × Bytes)) (bytes : Bytes) :
    List α × Bytes :=
  match read bytes with
  | .error _ => ([], bytes)
  | .ok (a, rest) =>
    if rest.length < bytes.length then
      let (more, rest) := readMany read rest
      (a :: more, rest)
    else ([], bytes)
termination_by bytes.length

end PinnedLink.X509
