import PinnedLink.Pem.Base64
import PinnedLink.Text.Utf8

/-!
# Sections of PEM text

A PEM buffer holds sections between a begin line and an end line of one label, with anything around
them.  `scan` gives the sections of known kinds in order, up to the first fault; of a section that
another begin line interrupts only the label is replaced, its text stays.
-/

namespace PinnedLink.Pem

/-- What a section holds. -/
inductive Kind where
  | certificate
  | publicKey
  | rsaPrivateKey
  | privateKey
  | ecPrivateKey
  | revocationList
  | certificateRequest
  | echConfigs
deriving DecidableEq, Repr

/-- The label of a kind. -/
def Kind.label : Kind → String
  | .certificate => "CERTIFICATE"
  | .publicKey => "PUBLIC KEY"
  | .rsaPrivateKey => "RSA PRIVATE KEY"
  | .privateKey => "PRIVATE KEY"
  | .ecPrivateKey => "EC PRIVATE KEY"
  | .revocationList => "X509 CRL"
  | .certificateRequest => "CERTIFICATE REQUEST"
  | .echConfigs => "ECHCONFIG"

/-- The kinds of sections that are known. -/
def Kind.all : List Kind :=
  [.certificate, .publicKey, .rsaPrivateKey, .privateKey, .ecPrivateKey, .revocationList,
    .certificateRequest, .echConfigs]

/-- The kind of a label. -/
def Kind.ofLabel? (label : Bytes) : Option Kind :=
  Kind.all.find? fun k => Text.utf8 k.label == label

/-- A section is a private key of any of the three forms. -/
def Kind.isPrivateKey : Kind → Bool
  | .rsaPrivateKey | .privateKey | .ecPrivateKey => true
  | _ => false

/-- A section of a known kind and the bytes in it. -/
structure Section where
  kind : Kind
  content : Bytes
deriving DecidableEq, Repr

/-! ## Lines -/

/-- A byte ends a line. -/
def isLineEnd (b : UInt8) : Bool := b == 0x0a || b == 0x0d

/-- The lines of a text behind the bytes of a line, which are given last first. -/
def linesFrom (line : Bytes) : Bytes → List Bytes
  | [] => if line.isEmpty then [] else [line.reverse]
  | b :: rest => if isLineEnd b then line.reverse :: linesFrom [] rest else linesFrom (b :: line) rest

/-- The lines of a text.  Behind the last line end there is a line only if something stands there. -/
def lines (text : Bytes) : List Bytes := linesFrom [] text

/-- What begins the begin line of a section. -/
def beginMark : Bytes := Text.utf8 "-----BEGIN "

/-- What begins the end line of a section. -/
def endMark : Bytes := Text.utf8 "-----END "

/-- The dashes around a label. -/
def dashes : Bytes := List.replicate 5 0x2d

/-- A dash or a blank. -/
def isTrailer (b : UInt8) : Bool := b == 0x2d || b == 0x20

/-- A begin line without the dashes at its end and what follows them; there are five dashes, blanks
between and behind them apart. -/
def withoutTrailer? (line : Bytes) : Option Bytes :=
  let trailer := line.reverse.takeWhile isTrailer
  if trailer.count 0x2d = 5 then
    let blanks := (trailer.reverse.takeWhile (· == 0x20)).length
    some (line.take (line.length - trailer.length + blanks))
  else none

/-- A line ends the section of a label; what follows the dashes does not matter. -/
def endsSection (label line : Bytes) : Bool :=
  (endMark ++ label ++ dashes).isPrefixOf line

/-! ## Sections -/

/-- The sections of a text up to its first fault, if it has one. -/
structure Scan where
  sections : List Section
  fault : Option Error

/-- Another section in front. -/
def Scan.push (s : Scan) (kind : Kind) (content : Bytes) : Scan :=
  { s with sections := ⟨kind, content⟩ :: s.sections }

/-- Scans lines inside a section, if it has a label, whose lines so far are given last first. -/
def scanLines (label : Option Bytes) (body : List Bytes) : List Bytes → Scan
  | [] => { sections := [], fault := label.map Error.missingSectionEnd }
  | line :: rest =>
    if beginMark.isPrefixOf line then
      match withoutTrailer? line with
      | none => { sections := [], fault := some (.illegalSectionStart line) }
      | some start => scanLines (some (start.drop beginMark.length)) body rest
    else match label with
      | none => scanLines none body rest
      | some name =>
        if endsSection name line then
          match Kind.ofLabel? name with
          | none => scanLines none [] rest
          | some kind =>
            match Base64.decode body.reverse.flatten with
            | .error e => { sections := [], fault := some (.base64 e) }
            | .ok content => (scanLines none [] rest).push kind content
        else scanLines (some name) (line :: body) rest

/-- The sections of a PEM buffer. -/
def scan (text : Bytes) : Scan := scanLines none [] (lines text)

/-- All certificates of a buffer without faults. -/
def certificates (text : Bytes) : Except Error (List Bytes) :=
  let s := scan text
  match s.fault with
  | some e => .error e
  | none => .ok ((s.sections.filter fun x => x.kind == .certificate).map Section.content)

/-- The first private key of a buffer in which no fault comes before it. -/
def privateKey (text : Bytes) : Except Error Section :=
  let s := scan text
  match s.sections.find? fun x => x.kind.isPrivateKey with
  | some key => .ok key
  | none => .error (s.fault.getD .noItems)

end PinnedLink.Pem
