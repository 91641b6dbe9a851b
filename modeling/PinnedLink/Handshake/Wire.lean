import PinnedLink.Handshake.Greeting

/-!
# Greetings and answers as bytes

A greeting starts with a byte for its versions and one for the kind of its key; then come the public
key and the certificates, each behind its length in four bytes.  An answer is one byte: zero if all is
well, or the code of an alert.  `readItems_writeItems` says that items are read back as written.
-/

namespace PinnedLink.Handshake

open Session (Alert)

/-- Writes a byte string behind its length. -/
def writeItem (item : Bytes) : Bytes := BigEndian.writeUInt32 (UInt32.ofNat item.length) ++ item

/-- Writes byte strings one after the other. -/
def writeItems (items : List Bytes) : Bytes := items.flatMap writeItem

/-- Reads byte strings to the end. -/
def readItems (bytes : Bytes) : Option (List Bytes) :=
  match bytes with
  | [] => some []
  | a :: b :: c :: d :: rest =>
    let n := (BigEndian.readUInt32 a b c d).toNat
    if rest.length < n then none
    else (readItems (rest.drop n)).map (rest.take n :: ·)
  | _ => none
termination_by bytes.length
decreasing_by
  simp only [List.length_drop, List.length_cons]
  omega

/-- Items are read back as written. -/
theorem readItems_writeItems {items : List Bytes} (h : ∀ item ∈ items, item.length < UInt32.size) :
    readItems (writeItems items) = some items := by
  induction items with
  | nil => rw [writeItems, List.flatMap_nil, readItems]
  | cons item items ih =>
    have hlen : item.length < UInt32.size := h item (List.mem_cons_self)
    have hnat : (UInt32.ofNat item.length).toNat = item.length := by
      rw [UInt32.toNat_ofNat']
      exact Nat.mod_eq_of_lt hlen
    have hword := BigEndian.readUInt32_writeUInt32 (UInt32.ofNat item.length)
    rw [hnat] at hword
    have hrest := ih fun i hi => h i (List.mem_cons_of_mem _ hi)
    rw [writeItems, List.flatMap_cons, ← writeItems]
    simp only [writeItem, BigEndian.writeUInt32, hnat, List.cons_append, List.nil_append]
    rw [readItems]
    simp [hword, hnat, hrest]

/-- The codes of version policies, by their places. -/
def policies : List VersionPolicy := [.tls12And13, .tls13Only, .tls12Only]

/-- The codes of kinds of keys, by their places. -/
def keyKinds : List Signature.KeyKind := [.p256, .p384, .ed25519, .rsa]

/-- Writes a greeting. -/
def Greeting.encode (g : Greeting) : Bytes :=
  UInt8.ofNat (policies.idxOf g.versions) :: UInt8.ofNat (keyKinds.idxOf g.identity.key.kind) ::
    writeItems (g.identity.key.publicKey :: g.identity.chain)

/-- Reads a greeting. -/
def Greeting.decode? (bytes : Bytes) : Option Greeting :=
  match bytes with
  | policy :: kind :: rest => do
    let versions ← policies[policy.toNat]?
    let kind ← keyKinds[kind.toNat]?
    match ← readItems rest with
    | publicKey :: leaf :: issuers => some ⟨versions, ⟨leaf, issuers, ⟨kind, publicKey⟩⟩⟩
    | _ => none
  | _ => none

theorem policies_code (v : VersionPolicy) :
    policies[(UInt8.ofNat (policies.idxOf v)).toNat]? = some v := by
  cases v <;> rfl

theorem keyKinds_code (k : Signature.KeyKind) :
    keyKinds[(UInt8.ofNat (keyKinds.idxOf k)).toNat]? = some k := by
  cases k <;> rfl

/-- A greeting is read back as written. -/
theorem Greeting.decode?_encode {g : Greeting}
    (h : ∀ item ∈ g.identity.key.publicKey :: g.identity.chain, item.length < UInt32.size) :
    decode? g.encode = some g := by
  have hitems := readItems_writeItems h
  simp only [Identity.chain] at hitems
  simp only [encode, decode?, policies_code, keyKinds_code, Identity.chain, hitems, Option.bind_eq_bind,
    Option.bind_some]

/-- Writes an answer. -/
def encodeAnswer : Option Alert → UInt8
  | none => 0
  | some alert => alert.code

/-- Reads an answer. -/
def decodeAnswer? (b : UInt8) : Option (Option Alert) :=
  if b = 0 then some none else (Alert.ofCode? b).map some

end PinnedLink.Handshake
