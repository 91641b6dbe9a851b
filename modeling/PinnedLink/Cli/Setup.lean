import PinnedLink.Cli.Command
import PinnedLink.Config.Document
import PinnedLink.Text.Utf8
import PinnedLink.Transport.Basic

/-!
# From words to a transport

The configuration file comes first, then the certificates to trust, then the identity; flags override
the file.  The first of these that fails decides the failure, which says what was being done and why it
failed.
-/

namespace PinnedLink.Cli

/-- A failure of the program: what was being done, and the causes, the nearest one first. -/
structure Failure where
  message : String
  causes : List String
deriving DecidableEq, Repr

namespace Failure

/-- The failure of a transport. -/
def ofTransport (e : TransportError) : Failure :=
  { message := e.message, causes := e.sourceMessage.toList }

/-- Pads a number to the width of five. -/
def padded (n : Nat) : String :=
  let digits := toString n
  String.ofList (List.replicate (5 - digits.length) ' ') ++ digits

/-- The causes as lines, numbered if there is more than one. -/
def causeLines (causes : List String) : List String :=
  match causes with
  | [] => []
  | [cause] => ["    " ++ cause]
  | causes => causes.zipIdx.map fun (cause, i) => padded i ++ ": " ++ cause

/-- A failure as it is printed. -/
def report (f : Failure) : String :=
  let causes := match causeLines f.causes with
    | [] => ""
    | lines => "\n\nCaused by:\n" ++ "\n".intercalate lines
  "Error: " ++ f.message ++ causes ++ "\n"

end Failure

/-- What files hold, by their paths. -/
abbrev Files := String → Except IoError Bytes

/-- The bytes of a file are no text. -/
def noText : IoError := .note .invalidData "stream did not contain valid UTF-8"

/-- There is no such file. -/
def noFile : IoError := .note .notFound "No such file or directory (os error 2)"

/-- Reads a file as text. -/
def readText (files : Files) (doing path : String) : Except Failure String :=
  let refuse (e : IoError) : Except Failure String := .error ⟨doing ++ " " ++ path, [e.message]⟩
  match files path with
  | .error e => refuse e
  | .ok bytes =>
    match Text.ofUtf8? bytes with
    | some text => .ok text
    | none => refuse noText

/-- Reads the configuration file, if there is one. -/
def readConfig (files : Files) : Option String → Except Failure Config
  | none => .ok .fresh
  | some path => do
    let text ← readText files "reading config" path
    match Config.parse text with
    | .ok config => .ok config
    | .error e => .error ⟨"parsing config " ++ path, [e.message]⟩

/-- The name of a setting in failures. -/
def settingName : Setting → String
  | .host => "Host"
  | .port => "Port"
  | .maxBodyLen => "MaxBodyLen"

/-- Applies the flags that override the configuration, in order, up to the first that is refused. -/
def override {σ : Type} (t : Transport σ) : List (Setting × Option String) →
    Except Failure (Transport σ)
  | [] => .ok t
  | (_, none) :: rest => override t rest
  | (setting, some value) :: rest =>
    match t.set setting value with
    | (.ok (), t) => override t rest
    | (.error e, _) => .error ⟨"invalid " ++ settingName setting, [e.message]⟩

namespace ConnectionWords

/-- The files that are looked into. -/
def paths (c : ConnectionWords) : List String := c.config.toList ++ c.trust.toList ++ [c.cert, c.key]

/-- The transport that the words describe. -/
def transport {σ : Type} (c : ConnectionWords) (files : Files) : Except Failure (Transport σ) := do
  let config ← readConfig files c.config
  let config ← match c.trust with
    | none => .ok config
    | some path => (readText files "reading" path).map config.withTrustedPeerPem
  let cert ← readText files "reading" c.cert
  let key ← readText files "reading" c.key
  override (Transport.new { cert := Text.utf8 cert, key := Text.utf8 key } config)
    [(.host, c.host), (.port, c.port), (.maxBodyLen, c.maxBodyLen)]

end ConnectionWords

end PinnedLink.Cli
