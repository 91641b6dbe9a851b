import PinnedLink.Bytes.Literal

/-!
# Frame headers

A frame on the wire is an eight-byte header followed by its body:

    [magic (2)] [version (1)] [kind (1)] [body length (4, big-endian)] [body]

A `Header` holds the two fields that vary, the application's message kind and the body
length.  `Header.encode` writes the eight bytes and `Header.decode` reads them from the front
of any byte string.  Exactly the images of `encode`, with any suffix, are accepted
(`decode_encode_append`, `encode_eq_take_of_decode`).
-/

namespace PinnedLink.Frame

/-- The two bytes that open every frame, `SW`. -/
def magic : UInt8 × UInt8 := (0x53, 0x57)

/-- The only frame version there is. -/
def version : UInt8 := 1

/-- Size of a header on the wire. -/
def headerLen : Nat := 8

/-- Largest body length that a header can declare. -/
def maxDeclaredLen : Nat := 4294967295

/-- Default upper bound on a message body, 16 MiB. -/
def defaultMaxBodyLen : Nat := 16 * 1024 * 1024

/-- What can be wrong with a header, or between a header and a body. -/
inductive Error where
  /-- Fewer than eight bytes were given. -/
  | tooShort (len : Nat)
  /-- The first two bytes are not the magic. -/
  | invalidMagic (first second : UInt8)
  /-- The third byte is not the version. -/
  | unsupportedVersion (found : UInt8)
  /-- A body is longer than the limit. -/
  | tooLarge (len max : Nat)
  /-- The declared length is not the length of the body at hand. -/
  | lengthMismatch (declared held : Nat)
deriving DecidableEq, Repr

/-- The text of a frame error. -/
def Error.message : Error → String
  | .tooShort len => s!"header too short: {len}"
  | .invalidMagic a b => s!"invalid magic: {Bytes.decimalList [a, b]}"
  | .unsupportedVersion v => s!"unsupported version: {v}"
  | .tooLarge len max => s!"body length {len} exceeds limit {max}"
  | .lengthMismatch declared held =>
    s!"header declares {declared} body bytes but buffer holds {held}"

/-- A decoded frame header. -/
structure Header where
  /-- The application's tag of the message, carried as it is. -/
  kind : UInt8
  /-- Length of the body that follows. -/
  bodyLen : UInt32
deriving DecidableEq, Repr

namespace Header

/-- The eight bytes of a header. -/
def encode (h : Header) : Bytes :=
  magic.1 :: magic.2 :: version :: h.kind :: BigEndian.writeUInt32 h.bodyLen

/-- Reads a header from the front of a byte string.  A short string is refused first, then a
wrong magic, then an unknown version. -/
def decode : Bytes → Except Error Header
  | m0 :: m1 :: v :: kind :: l3 :: l2 :: l1 :: l0 :: _ =>
    if (m0, m1) ≠ magic then .error (.invalidMagic m0 m1)
    else if v ≠ version then .error (.unsupportedVersion v)
    else .ok { kind, bodyLen := BigEndian.readUInt32 l3 l2 l1 l0 }
  | bytes => .error (.tooShort bytes.length)

/-- A header as a record of its two fields. -/
def describe (h : Header) : String :=
  "FrameHeader \x7b kind: " ++ toString h.kind ++ ", body_len: " ++ toString h.bodyLen ++ " \x7d"

@[simp] theorem length_encode (h : Header) : h.encode.length = headerLen := rfl

/-- Decoding what `encode` wrote, whatever follows, gives the header back. -/
theorem decode_encode_append (h : Header) (rest : Bytes) :
    decode (h.encode ++ rest) = .ok h := by
  simp only [encode, decode, BigEndian.writeUInt32, List.cons_append, List.nil_append, ne_eq,
    not_true_eq_false, ↓reduceIte, BigEndian.readUInt32_writeUInt32]

/-- A header that was read is the header that `encode` writes as those eight bytes. -/
theorem encode_eq_take_of_decode {bytes : Bytes} {h : Header} (hd : decode bytes = .ok h) :
    h.encode = bytes.take headerLen := by
  unfold decode at hd
  split at hd
  case h_1 m0 m1 v kind l3 l2 l1 l0 rest =>
    split at hd
    · cases hd
    · split at hd
      · cases hd
      · cases hd
        simp_all [encode, BigEndian.writeUInt32_readUInt32, headerLen, magic]
  case h_2 => cases hd

end Header

end PinnedLink.Frame
