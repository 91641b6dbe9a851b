import PinnedLink.Session.Version
import PinnedLink.Frame.Header
import PinnedLink.Text.Blank
import PinnedLink.Text.Numeral
import PinnedLink.Text.Quoted

/-!
# Settings of a transport

A configuration names the other side, bounds the bodies that are exchanged, chooses the protocol
versions and may hold certificates to trust.  `Config.set` changes one of three settings from a text
or leaves the configuration as it is; what each setting accepts is said by `Config.setTrimmed`.
-/

namespace PinnedLink

/-- The side of a connection that a transport takes. -/
inductive Role where
  /-- Connects to the other side. -/
  | initiator
  /-- Waits for the other side. -/
  | acceptor
deriving DecidableEq, Repr

/-- The roles by the names that documents use. -/
def Role.names : List (String × Role) := [("initiator", .initiator), ("acceptor", .acceptor)]

/-- The name of a role in documents. -/
def Role.name : Role → String
  | .initiator => "initiator"
  | .acceptor => "acceptor"

/-- The name of a role in messages. -/
def Role.describe : Role → String
  | .initiator => "Initiator"
  | .acceptor => "Acceptor"

/-- The side of the session that a role has. -/
def Role.side : Role → Session.Side
  | .initiator => .client
  | .acceptor => .server

/-- The protocol versions that a party agrees to. -/
inductive VersionPolicy where
  | tls12And13
  | tls13Only
  | tls12Only
deriving DecidableEq, Repr

namespace VersionPolicy

/-- The policies by the names that documents use. -/
def names : List (String × VersionPolicy) :=
  [("tls12_and13", .tls12And13), ("tls13_only", .tls13Only), ("tls12_only", .tls12Only)]

/-- The name of a policy in documents. -/
def name : VersionPolicy → String
  | .tls12And13 => "tls12_and13"
  | .tls13Only => "tls13_only"
  | .tls12Only => "tls12_only"

/-- The name of a policy in messages. -/
def describe : VersionPolicy → String
  | .tls12And13 => "Tls12And13"
  | .tls13Only => "Tls13Only"
  | .tls12Only => "Tls12Only"

/-- A policy allows a version. -/
def allows : VersionPolicy → Session.Version → Bool
  | .tls12And13, _ => true
  | .tls13Only, v => v == .tls13
  | .tls12Only, v => v == .tls12

end VersionPolicy

/-- What an `init` of a transport goes by. -/
structure Config where
  /-- The other side's host, or the address to wait at. -/
  host : String
  port : UInt16
  /-- The longest body that either direction carries. -/
  maxBodyLen : UInt64
  versions : VersionPolicy
  /-- Certificates to trust; without them a party trusts its own. -/
  trustedPeerPem : Option String
deriving DecidableEq, Repr

/-- The settings that can be given as texts. -/
inductive Setting where
  | host
  | port
  | maxBodyLen
deriving DecidableEq, Repr

/-- Why a text is refused. -/
inductive ConfigError where
  | emptyHost
  | invalidPort (text : String)
  | invalidMaxBodyLen (text : String)
deriving DecidableEq, Repr

/-- The text of the error. -/
def ConfigError.message : ConfigError → String
  | .emptyHost => "host must not be empty"
  | .invalidPort text => "invalid port: " ++ Text.quoted text
  | .invalidMaxBodyLen text => "invalid max body length: " ++ Text.quoted text

namespace Config

/-- The host of a fresh configuration. -/
def defaultHost : String := "127.0.0.1"

/-- The port of a fresh configuration. -/
def defaultPort : UInt16 := 443

/-- A fresh configuration. -/
def fresh : Config :=
  { host := defaultHost
    port := defaultPort
    maxBodyLen := UInt64.ofNat Frame.defaultMaxBodyLen
    versions := .tls12And13
    trustedPeerPem := none }

/-- A fresh configuration for a host and a port. -/
def forPeer (host : String) (port : UInt16) : Config := { fresh with host, port }

/-- Another version policy. -/
def withVersions (c : Config) (versions : VersionPolicy) : Config := { c with versions }

/-- Another bound on bodies. -/
def withMaxBodyLen (c : Config) (maxBodyLen : UInt64) : Config := { c with maxBodyLen }

/-- Other certificates to trust. -/
def withTrustedPeerPem (c : Config) (pem : String) : Config := { c with trustedPeerPem := some pem }

/-- The largest bound that a text can set. -/
def maxBodyLenLimit : Nat := UInt32.size - 1

/-- The configuration with a setting read from a text without white space at its ends. -/
def setTrimmed (c : Config) (setting : Setting) (value : List Char) : Except ConfigError Config :=
  match setting with
  | .host =>
    if value = [] then .error .emptyHost else .ok { c with host := String.ofList value }
  | .port =>
    match Text.readNumeral? 65535 value with
    | some n => .ok { c with port := UInt16.ofNat n }
    | none => .error (.invalidPort (String.ofList value))
  | .maxBodyLen =>
    match Text.readNumeral? maxBodyLenLimit value with
    | some n =>
      if n = 0 then .error (.invalidMaxBodyLen (String.ofList value))
      else .ok { c with maxBodyLen := UInt64.ofNat n }
    | none => .error (.invalidMaxBodyLen (String.ofList value))

/-- The configuration with a setting read from a text, white space at its ends apart. -/
def set (c : Config) (setting : Setting) (value : String) : Except ConfigError Config :=
  c.setTrimmed setting (Text.trim value.toList)

/-- A text in quotes, or the word for none. -/
def describeOption : Option String → String
  | none => "None"
  | some text => "Some(" ++ Text.quoted text ++ ")"

/-- A configuration as messages show it. -/
def describe (c : Config) : String :=
  "TransportConfig \x7b host: " ++ Text.quoted c.host ++
    ", port: " ++ toString c.port.toNat ++
    ", max_body_len: " ++ toString c.maxBodyLen.toNat ++
    ", versions: " ++ c.versions.describe ++
    ", trusted_peer_pem: " ++ describeOption c.trustedPeerPem ++ " \x7d"

end Config

end PinnedLink
