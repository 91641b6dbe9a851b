import PinnedLink.Config.Basic
import PinnedLink.Json.Decode
import PinnedLink.Json.Printer

/-!
# Configurations as documents

A configuration is written as an object with one member a field.  It is read from an object, whose
members may come in any order, may be missing and may have other names, or from a list of its fields
in order, whose end may be missing; what is missing is taken from `Config.fresh`.
-/

namespace PinnedLink.Config

open Json (Failure Fault Turn)

/-- The fields of a configuration. -/
inductive Field where
  | host
  | port
  | maxBodyLen
  | versions
  | trustedPeerPem
deriving DecidableEq, Repr

/-- The fields in their order. -/
def Field.all : List Field := [.host, .port, .maxBodyLen, .versions, .trustedPeerPem]

/-- The name of a field in documents. -/
def Field.name : Field → String
  | .host => "host"
  | .port => "port"
  | .maxBodyLen => "max_body_len"
  | .versions => "versions"
  | .trustedPeerPem => "trusted_peer_pem"

/-- The field of a name. -/
def Field.ofName? (name : String) : Option Field := Field.all.find? fun f => f.name == name

/-! ## Writing -/

/-- The value of a field. -/
def renderField (c : Config) : Field → List Char
  | .host => Json.renderText c.host
  | .port => Json.renderNatural c.port.toNat
  | .maxBodyLen => Json.renderNatural c.maxBodyLen.toNat
  | .versions => Json.renderText c.versions.name
  | .trustedPeerPem =>
    match c.trustedPeerPem with
    | some pem => Json.renderText pem
    | none => Json.renderNull

/-- The document of a configuration. -/
def render (c : Config) (layout : Json.Layout) : String :=
  String.ofList (layout.renderObject (Field.all.map fun f => (f.name, c.renderField f)))

/-! ## Reading -/

/-- The fields read so far. -/
structure Draft where
  host : Option String
  port : Option UInt16
  maxBodyLen : Option UInt64
  versions : Option VersionPolicy
  trustedPeerPem : Option (Option String)

namespace Draft

/-- Nothing read yet. -/
def empty : Draft := ⟨none, none, none, none, none⟩

/-- A field has been read. -/
def has (d : Draft) : Field → Bool
  | .host => d.host.isSome
  | .port => d.port.isSome
  | .maxBodyLen => d.maxBodyLen.isSome
  | .versions => d.versions.isSome
  | .trustedPeerPem => d.trustedPeerPem.isSome

/-- The configuration of the fields read, the others fresh. -/
def toConfig (d : Draft) : Config :=
  { host := d.host.getD fresh.host
    port := d.port.getD fresh.port
    maxBodyLen := d.maxBodyLen.getD fresh.maxBodyLen
    versions := d.versions.getD fresh.versions
    trustedPeerPem := d.trustedPeerPem.getD fresh.trustedPeerPem }

/-- What was read, as part of a draft. -/
def keep {α : Type} (f : α → Draft) (read : Except Failure (α × List Char)) :
    Except Failure (Draft × List Char) :=
  read.map fun r => (f r.1, r.2)

theorem length_keep_le {α : Type} {f : α → Draft} {read : Except Failure (α × List Char)}
    {cs rest : List Char} {d : Draft}
    (hread : ∀ {a rest}, read = .ok (a, rest) → rest.length ≤ cs.length)
    (h : keep f read = .ok (d, rest)) : rest.length ≤ cs.length := by
  cases hr : read with
  | error e => rw [hr] at h; cases h
  | ok r =>
    rw [hr] at h
    cases h
    exact hread hr

/-- Reads the value of a field. -/
def readField (d : Draft) (f : Field) (cs : List Char) : Except Failure (Draft × List Char) :=
  match f with
  | .host => keep (fun v => { d with host := some v }) (Json.readText cs)
  | .port =>
    keep (fun v => { d with port := some (UInt16.ofNat v) }) (Json.readNatural 65535 "u16" cs)
  | .maxBodyLen =>
    keep (fun v => { d with maxBodyLen := some (UInt64.ofNat v) })
      (Json.readNatural (UInt64.size - 1) "usize" cs)
  | .versions =>
    keep (fun v => { d with versions := some v }) (Json.readVariant VersionPolicy.names cs)
  | .trustedPeerPem =>
    keep (fun v => { d with trustedPeerPem := some v }) (Json.readOption Json.readText cs)

theorem length_readField_le {d d' : Draft} {f : Field} {cs rest : List Char}
    (h : d.readField f cs = .ok (d', rest)) : rest.length ≤ cs.length := by
  cases f <;> simp only [readField] at h
  · exact length_keep_le Json.length_readText_le h
  · exact length_keep_le (fun hr => (Json.readNatural_bounds hr).1) h
  · exact length_keep_le (fun hr => (Json.readNatural_bounds hr).1) h
  · exact length_keep_le Json.length_readVariant_le h
  · exact length_keep_le (Json.length_readOption_le Json.length_readText_le) h

/-- The failure of a field that comes twice.  It shows behind the blanks that follow its name, and
behind the object if that ends there. -/
def duplicate (f : Field) (cs : List Char) : Failure :=
  match Json.skipBlanks cs with
  | '\x7d' :: rest => .here (.duplicateField f.name) rest
  | cs => .here (.duplicateField f.name) cs

/-- Reads one member, behind the quote that opens its key. -/
def readMember (d : Draft) (cs : List Char) : Except Failure (Draft × List Char) := do
  let (key, rest) ← Json.readString cs
  match Field.ofName? (String.ofList key) with
  | none =>
    let rest ← Json.skipValue (← Json.expectColon rest)
    .ok (d, rest)
  | some f =>
    if d.has f then .error (duplicate f rest)
    else d.readField f (← Json.expectColon rest)

theorem length_readMember_lt {d d' : Draft} {cs rest : List Char}
    (h : d.readMember cs = .ok (d', rest)) : rest.length < cs.length := by
  unfold readMember at h
  simp only [bind, Except.bind] at h
  split at h
  · cases h
  · rename_i key hk
    have h1 := Json.length_readString_lt hk
    split at h
    · split at h
      · cases h
      · rename_i behind hc
        have h2 := Json.length_expectColon_lt hc
        split at h
        · cases h
        · rename_i last hs
          have h3 := Json.length_skipValue_le hs
          cases h
          omega
    · split at h
      · cases h
      · split at h
        · cases h
        · rename_i behind hc
          have h2 := Json.length_expectColon_lt hc
          have h3 := length_readField_le h
          omega

/-- Reads members to the end of the object, behind the quote that opens a key. -/
def readMembers (d : Draft) (cs : List Char) : Except Failure (Draft × List Char) :=
  match _hm : d.readMember cs with
  | .error e => .error e
  | .ok (d, rest) =>
    match _hn : Json.nextMember rest with
    | .error e => .error e
    | .ok (.closed rest) => .ok (d, rest)
    | .ok (.element rest) => readMembers d rest
termination_by cs.length
decreasing_by
  have h1 := length_readMember_lt _hm
  have h2 := Json.length_nextMember_lt _hn
  simp only [Turn.rest] at h2
  omega

/-- Reads the fields of a list in order, from in front of the next element or its end. -/
def readElements (d : Draft) (turn : Except Failure Turn) :
    List Field → Except Failure (Draft × List Char)
  | [] => .error (.here .eofInList [])
  | f :: fields => do
    match ← turn with
    | .closed rest => .ok (d, rest)
    | .element rest =>
      let (d, rest) ← d.readField f rest
      match fields with
      | [] => (Json.endList rest).map fun rest => (d, rest)
      | _ => d.readElements (Json.nextElement rest) fields

end Draft

/-- Reads a configuration. -/
def read (cs : List Char) : Except Failure (Config × List Char) :=
  let finish (r : Except Failure (Draft × List Char)) : Except Failure (Config × List Char) :=
    r.map fun (d, rest) => (d.toConfig, rest)
  match Json.skipBlanks cs with
  | '[' :: rest => finish (Draft.empty.readElements (Json.firstElement rest) Field.all)
  | '\x7b' :: rest =>
    match Json.firstMember rest with
    | .error e => .error e
    | .ok (.closed rest) => .ok (Draft.empty.toConfig, rest)
    | .ok (.element rest) => finish (Draft.empty.readMembers rest)
  | cs => .error (Json.unexpected "struct TransportConfig" cs)

/-- The configuration of a document. -/
def parse (text : String) : Except Json.Error Config := Json.readAll read text

/-- The documents of a configuration read back as it. -/
def readsBack (c : Config) (layout : Json.Layout) : Bool :=
  match parse (c.render layout) with
  | .ok d => d == c
  | .error _ => false

end PinnedLink.Config
