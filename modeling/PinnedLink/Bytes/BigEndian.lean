/-!
# Big-endian words

Byte strings are lists of `UInt8`.  This module writes a 32-bit word as four bytes, most
significant first, and reads it back.  The two directions are inverse to each other
(`readUInt32_writeUInt32`, `writeUInt32_readUInt32`).
-/

namespace PinnedLink

/-- A byte string. -/
abbrev Bytes := List UInt8

namespace BigEndian

/-- The four bytes of a word, most significant first. -/
def writeUInt32 (w : UInt32) : Bytes :=
  [UInt8.ofNat (w.toNat / 16777216), UInt8.ofNat (w.toNat / 65536),
    UInt8.ofNat (w.toNat / 256), UInt8.ofNat w.toNat]

/-- The word of four bytes, most significant first. -/
def readUInt32 (a b c d : UInt8) : UInt32 :=
  UInt32.ofNat (((a.toNat * 256 + b.toNat) * 256 + c.toNat) * 256 + d.toNat)

/-- The two low bytes of a number, most significant first. -/
def writeUInt16 (n : Nat) : Bytes :=
  [UInt8.ofNat (n / 256), UInt8.ofNat n]

/-- The number that a byte string writes, most significant byte first. -/
def readNat (bytes : Bytes) : Nat :=
  bytes.foldl (fun acc b => acc * 256 + b.toNat) 0

/-- The last `width` base-256 digits of a number, most significant first. -/
def writeNat : Nat → Nat → Bytes
  | 0, _ => []
  | width + 1, n => writeNat width (n / 256) ++ [UInt8.ofNat n]

@[simp] theorem length_writeUInt32 (w : UInt32) : (writeUInt32 w).length = 4 := rfl

theorem toNat_readUInt32 (a b c d : UInt8) :
    (readUInt32 a b c d).toNat =
      ((a.toNat * 256 + b.toNat) * 256 + c.toNat) * 256 + d.toNat := by
  have ha := a.toNat_lt
  have hb := b.toNat_lt
  have hc := c.toNat_lt
  have hd := d.toNat_lt
  rw [readUInt32, UInt32.toNat_ofNat']
  omega

/-- Reading the written bytes of a word gives the word. -/
theorem readUInt32_writeUInt32 (w : UInt32) :
    readUInt32 (UInt8.ofNat (w.toNat / 16777216)) (UInt8.ofNat (w.toNat / 65536))
      (UInt8.ofNat (w.toNat / 256)) (UInt8.ofNat w.toNat) = w := by
  have hw := w.toNat_lt
  apply UInt32.toNat_inj.1
  rw [toNat_readUInt32]
  simp only [UInt8.toNat_ofNat']
  omega

/-- Writing the word that four bytes read as gives those bytes. -/
theorem writeUInt32_readUInt32 (a b c d : UInt8) :
    writeUInt32 (readUInt32 a b c d) = [a, b, c, d] := by
  have ha := a.toNat_lt
  have hb := b.toNat_lt
  have hc := c.toNat_lt
  have hd := d.toNat_lt
  simp only [writeUInt32, toNat_readUInt32, List.cons.injEq, and_true]
  refine ⟨?_, ?_, ?_, ?_⟩ <;> apply UInt8.toNat_inj.1 <;> rw [UInt8.toNat_ofNat'] <;> omega

theorem length_writeNat (width n : Nat) : (writeNat width n).length = width := by
  induction width generalizing n with
  | zero => rfl
  | succ width ih => simp [writeNat, ih]

end BigEndian

end PinnedLink
