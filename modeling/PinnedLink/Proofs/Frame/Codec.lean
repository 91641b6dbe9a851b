import PinnedLink.Frame.Header

/-!
# Exactly the written headers are read

`decode_eq_ok_iff` says which byte strings are read as a header: those that begin with the eight bytes
that `encode` writes for it.  All others are `Malformed` in one of three ways, and `decode` reports
which (`decode_eq_error_iff`).  The three do not overlap: a short string is only short, and a version
only counts behind the right magic.
-/

namespace PinnedLink.Frame.Header

/-! ## The bytes of a header -/

/-- The kind stands behind magic and version. -/
theorem getElem?_encode_kind (h : Header) : h.encode[3]? = some h.kind := rfl

/-- The body length is the last four bytes, most significant first. -/
theorem readNat_drop_encode (h : Header) :
    BigEndian.readNat (h.encode.drop 4) = h.bodyLen.toNat := by
  have hbound := h.bodyLen.toNat_lt
  have hbytes : h.encode.drop 4 = BigEndian.writeUInt32 h.bodyLen := rfl
  rw [hbytes]
  simp only [BigEndian.readNat, BigEndian.writeUInt32, List.foldl_cons, List.foldl_nil,
    UInt8.toNat_ofNat']
  omega

/-- A string that is long enough has eight bytes in front. -/
theorem exists_of_headerLen_le {bytes : Bytes} (hlen : headerLen ≤ bytes.length) :
    ∃ m0 m1 v kind l3 l2 l1 l0 rest,
      bytes = m0 :: m1 :: v :: kind :: l3 :: l2 :: l1 :: l0 :: rest := by
  match bytes, hlen with
  | m0 :: m1 :: v :: kind :: l3 :: l2 :: l1 :: l0 :: rest, _ =>
    exact ⟨m0, m1, v, kind, l3, l2, l1, l0, rest, rfl⟩

/-! ## Reading -/

/-- What is wrong with a byte string that does not begin with a header. -/
inductive Malformed : Bytes → Error → Prop where
  | tooShort {bytes : Bytes} (hlen : bytes.length < headerLen) :
      Malformed bytes (.tooShort bytes.length)
  | invalidMagic {m0 m1 : UInt8} {rest : Bytes} (hlen : headerLen ≤ (m0 :: m1 :: rest).length)
      (hmagic : (m0, m1) ≠ magic) : Malformed (m0 :: m1 :: rest) (.invalidMagic m0 m1)
  | unsupportedVersion {v : UInt8} {rest : Bytes}
      (hlen : headerLen ≤ (magic.1 :: magic.2 :: v :: rest).length) (hversion : v ≠ version) :
      Malformed (magic.1 :: magic.2 :: v :: rest) (.unsupportedVersion v)

theorem decode_of_short {bytes : Bytes} (hlen : bytes.length < headerLen) :
    decode bytes = .error (.tooShort bytes.length) := by
  unfold decode
  split
  · simp only [List.length_cons, headerLen] at hlen
    omega
  · rfl

/-- A header is read exactly off the strings that begin with its eight bytes. -/
theorem decode_eq_ok_iff {bytes : Bytes} {h : Header} :
    decode bytes = .ok h ↔ h.encode = bytes.take headerLen := by
  constructor
  · exact encode_eq_take_of_decode
  · intro hfront
    have hbytes : bytes = h.encode ++ bytes.drop headerLen := by
      rw [hfront, List.take_append_drop]
    rw [hbytes]
    exact decode_encode_append h _

/-- A string that is refused is malformed in the way that is reported. -/
theorem decode_eq_error_iff {bytes : Bytes} {e : Error} :
    decode bytes = .error e ↔ Malformed bytes e := by
  constructor
  · intro hd
    rcases Nat.lt_or_ge bytes.length headerLen with hshort | hlen
    · rw [decode_of_short hshort] at hd
      cases hd
      exact .tooShort hshort
    · obtain ⟨m0, m1, v, kind, l3, l2, l1, l0, rest, rfl⟩ := exists_of_headerLen_le hlen
      rw [decode] at hd
      by_cases hmagic : (m0, m1) = magic
      · obtain rfl : m0 = magic.1 := congrArg Prod.fst hmagic
        obtain rfl : m1 = magic.2 := congrArg Prod.snd hmagic
        rw [if_neg (not_not_intro hmagic)] at hd
        by_cases hversion : v = version
        · rw [if_neg (not_not_intro hversion)] at hd
          cases hd
        · rw [if_pos hversion] at hd
          cases hd
          exact .unsupportedVersion hlen hversion
      · rw [if_pos hmagic] at hd
        cases hd
        exact .invalidMagic hlen hmagic
  · rintro (hshort | ⟨hlen, hmagic⟩ | ⟨hlen, hversion⟩)
    · exact decode_of_short hshort
    · obtain ⟨m0, m1, v, kind, l3, l2, l1, l0, rest, heq⟩ := exists_of_headerLen_le hlen
      cases heq
      rw [decode, if_pos hmagic]
    · obtain ⟨m0, m1, v, kind, l3, l2, l1, l0, rest, heq⟩ := exists_of_headerLen_le hlen
      cases heq
      rw [decode, if_neg (not_not_intro rfl), if_pos hversion]

/-- Headers are written and read exactly: what was written is read back whatever follows, a string is
read as a header exactly if it begins with the bytes of that header, and what is reported of any other
string is what is wrong with it. -/
theorem decode_exact :
    (∀ (kind : UInt8) (bodyLen : UInt32) (rest : Bytes),
        decode (encode ⟨kind, bodyLen⟩ ++ rest) = .ok ⟨kind, bodyLen⟩) ∧
      ∀ bytes : Bytes,
        (∀ h, decode bytes = .ok h ↔ h.encode = bytes.take headerLen) ∧
          ∀ e, decode bytes = .error e ↔ Malformed bytes e :=
  ⟨fun kind bodyLen rest => decode_encode_append ⟨kind, bodyLen⟩ rest,
    fun _ => ⟨fun _ => decode_eq_ok_iff, fun _ => decode_eq_error_iff⟩⟩

end PinnedLink.Frame.Header
