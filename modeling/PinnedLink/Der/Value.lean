import PinnedLink.Bytes.BigEndian

/-!
# Values with exactly one encoding

Keys, signatures and the certificates of a session are encoded so that a value has one encoding
only: tags of one byte, lengths in their shortest form and below 65535, integers without spare
bytes.  Readers take what is left of an encoding and give a value with the rest, or nothing.
-/

namespace PinnedLink.Der

/-- Tags by their identifier byte. -/
def booleanTag : UInt8 := 0x01
def integerTag : UInt8 := 0x02
def bitStringTag : UInt8 := 0x03
def octetStringTag : UInt8 := 0x04
def oidTag : UInt8 := 0x06
def sequenceTag : UInt8 := 0x30

/-- The tag of the constructed value of a context-specific number. -/
def contextTag (n : UInt8) : UInt8 := 0xa0 + n

/-- The tag of the primitive value of a context-specific number. -/
def contextPrimitiveTag (n : UInt8) : UInt8 := 0x80 + n

/-- A value: its tag and its content. -/
structure Value where
  tag : UInt8
  content : Bytes
deriving DecidableEq, Repr

/-- Lengths stay below this. -/
def lengthLimit : Nat := 65535

/-- Reads a length in its shortest form. -/
def readLength : Bytes → Option (Nat × Bytes)
  | [] => none
  | b :: rest =>
    if b < 0x80 then some (b.toNat, rest)
    else if b = 0x81 then
      match rest with
      | c :: rest => if c < 0x80 then none else some (c.toNat, rest)
      | [] => none
    else if b = 0x82 then
      match rest with
      | c :: d :: rest =>
        let n := c.toNat * 256 + d.toNat
        if n < 256 ∨ lengthLimit ≤ n then none else some (n, rest)
      | _ => none
    else none

/-- Reads a value. -/
def readValue (bytes : Bytes) : Option (Value × Bytes) :=
  match bytes with
  | [] => none
  | tag :: rest =>
    if tag.toNat % 32 = 31 then none
    else match readLength rest with
      | none => none
      | some (n, rest) =>
        if rest.length < n then none else some (⟨tag, rest.take n⟩, rest.drop n)

theorem length_readLength_lt {bytes rest : Bytes} {n : Nat}
    (h : readLength bytes = some (n, rest)) : rest.length < bytes.length := by
  unfold readLength at h
  split at h
  · cases h
  · split at h
    · cases h
      exact Nat.lt_succ_self _
    · split at h
      · split at h
        · split at h
          · cases h
          · cases h
            simp only [List.length_cons]
            omega
        · cases h
      · split at h
        · split at h
          · simp only at h
            split at h
            · cases h
            · simp only [Option.some.injEq, Prod.mk.injEq] at h
              rw [← h.2]
              simp only [List.length_cons]
              omega
          · cases h
        · cases h

theorem length_readValue_lt {bytes rest : Bytes} {v : Value}
    (h : readValue bytes = some (v, rest)) : rest.length < bytes.length := by
  unfold readValue at h
  split at h
  · cases h
  · split at h
    · cases h
    · split at h
      · cases h
      · rename_i hl
        have := length_readLength_lt hl
        split at h
        · cases h
        · cases h
          rw [List.length_drop, List.length_cons]
          omega

/-- Reads the content of a value with a tag. -/
def expect (tag : UInt8) (bytes : Bytes) : Option (Bytes × Bytes) :=
  match readValue bytes with
  | some (v, rest) => if v.tag = tag then some (v.content, rest) else none
  | none => none

theorem length_expect_lt {tag : UInt8} {bytes content rest : Bytes}
    (h : expect tag bytes = some (content, rest)) : rest.length < bytes.length := by
  unfold expect at h
  split at h
  · rename_i hv
    split at h
    · cases h
      exact length_readValue_lt hv
    · cases h
  · cases h

/-- The content of a value with a tag that is all there is. -/
def expectOnly (tag : UInt8) (bytes : Bytes) : Option Bytes :=
  match expect tag bytes with
  | some (content, []) => some content
  | _ => none

/-- The next value has a tag. -/
def startsWith (tag : UInt8) (bytes : Bytes) : Bool := bytes.head? == some tag

/-- A natural number without spare bytes, without the zero in front of a large first byte. -/
def naturalBytes : Bytes → Option Bytes
  | [] => none
  | [b] => if b < 0x80 then some [b] else none
  | b :: c :: rest =>
    if b = 0 then (if c < 0x80 then none else some (c :: rest))
    else if b < 0x80 then some (b :: c :: rest)
    else none

/-- Reads a natural number. -/
def readNatural (bytes : Bytes) : Option (Nat × Bytes) :=
  match expect integerTag bytes with
  | some (content, rest) => (naturalBytes content).map fun n => (BigEndian.readNat n, rest)
  | none => none

/-- Reads a positive number. -/
def readPositive (bytes : Bytes) : Option (Nat × Bytes) :=
  match readNatural bytes with
  | some (n, rest) => if n = 0 then none else some (n, rest)
  | none => none

/-- The bytes of a bit string whose bits are all used. -/
def bitBytes : Bytes → Option Bytes
  | 0 :: bytes => some bytes
  | _ => none

/-- Reads a bit string whose bits are all used, under a tag. -/
def readBits (tag : UInt8) (bytes : Bytes) : Option (Bytes × Bytes) :=
  match expect tag bytes with
  | some (content, rest) => (bitBytes content).map fun bits => (bits, rest)
  | none => none

/-! ## Writing -/

/-- The bytes of a number, most significant first, without leading zeros; none for zero. -/
def bytesOf (n : Nat) : Bytes :=
  go n []
where
  /-- Puts the bytes of a number in front. -/
  go (n : Nat) (rest : Bytes) : Bytes :=
    if h : n = 0 then rest else go (n / 256) (UInt8.ofNat (n % 256) :: rest)
  termination_by n
  decreasing_by omega

/-- A length in its shortest form. -/
def encodeLength (n : Nat) : Bytes :=
  if n < 0x80 then [UInt8.ofNat n]
  else
    let bytes := bytesOf n
    UInt8.ofNat (0x80 + bytes.length) :: bytes

/-- The encoding of a value. -/
def encode (tag : UInt8) (content : Bytes) : Bytes :=
  tag :: (encodeLength content.length ++ content)

/-- The encoding of a natural number. -/
def encodeNatural (n : Nat) : Bytes :=
  let bytes := bytesOf n
  encode integerTag (if bytes.head?.all (0x80 ≤ ·) then 0 :: bytes else bytes)

/-- The encoding of a bit string whose bits are all used. -/
def encodeBits (bits : Bytes) : Bytes := encode bitStringTag (0 :: bits)

end PinnedLink.Der
