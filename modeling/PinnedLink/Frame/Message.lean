import PinnedLink.Frame.Header

/-!
# Messages

A message is a frame header with a body buffer.  The header is the only source of the declared
length: `setHeader` replaces the header and leaves the body, `resize` brings the two together,
and `validate` says whether they agree.  Every header a message can hold is well formed, because
a message stores the decoded header and writes its bytes with `Header.encode`.
-/

namespace PinnedLink.Frame

/-- A header with a body buffer, whose lengths may differ until `resize` is called. -/
structure Message where
  header : Header
  body : Bytes
deriving DecidableEq, Repr

namespace Message

/-- The empty message of a kind. -/
def new (kind : UInt8) : Message :=
  { header := { kind, bodyLen := 0 }, body := [] }

/-- The message that carries a body, unless no header can declare its length. -/
def withBody (kind : UInt8) (body : Bytes) : Except Error Message :=
  if body.length ≤ maxDeclaredLen then
    .ok { header := { kind, bodyLen := UInt32.ofNat body.length }, body }
  else
    .error (.tooLarge body.length maxDeclaredLen)

/-- The kind of a message. -/
def kind (m : Message) : UInt8 := m.header.kind

/-- The declared body length. -/
def bodyLen (m : Message) : Nat := m.header.bodyLen.toNat

/-- Replaces the header by eight raw bytes.  The body stays as it is. -/
def setHeader (m : Message) (raw : Bytes) : Except Error Message := do
  let header ← Header.decode raw
  return { m with header }

/-- The message of a kind and a body, with its header replaced if raw bytes are given for it. -/
def assemble (kind : UInt8) (body : Bytes) (raw : Option Bytes) : Except Error Message := do
  let m ← withBody kind body
  match raw with
  | none => return m
  | some raw => m.setHeader raw

/-- Cuts the body to a length or extends it with zeros, and declares that length. -/
def resize (m : Message) (len : Nat) : Except Error Message :=
  if len ≤ maxDeclaredLen then
    .ok { header := { m.header with bodyLen := UInt32.ofNat len },
          body := m.body.take len ++ List.replicate (len - m.body.length) 0 }
  else
    .error (.tooLarge len maxDeclaredLen)

/-- Overwrites the body from an offset on, as far as both the body and the bytes reach. -/
def overwrite (m : Message) (offset : Nat) (bytes : Bytes) : Message :=
  let front := m.body.take offset
  let back := m.body.drop offset
  { m with body := front ++ (bytes.take back.length ++ back.drop bytes.length) }

/-- How many bytes `overwrite` replaces. -/
def overwriteLen (m : Message) (offset : Nat) (bytes : Bytes) : Nat :=
  min bytes.length (m.body.length - offset)

/-- Checks that the declared length is the length of the body. -/
def validate (m : Message) : Except Error Unit :=
  if m.body.length = m.bodyLen then .ok ()
  else .error (.lengthMismatch m.bodyLen m.body.length)

/-- Length of the whole frame as the header declares it. -/
def frameLen (m : Message) : Nat := headerLen + m.bodyLen

/-- Header and body as one byte string. -/
def encode (m : Message) : Bytes := m.header.encode ++ m.body

/-- A message as a record of its header bytes and its body literal. -/
def describe (m : Message) : String :=
  "Message \x7b header: " ++ Bytes.decimalList m.header.encode ++ ", body: "
    ++ Bytes.literal m.body ++ " \x7d"

end Message

end PinnedLink.Frame
