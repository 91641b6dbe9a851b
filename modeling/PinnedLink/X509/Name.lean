import PinnedLink.X509.Element
import PinnedLink.X509.Oid
import PinnedLink.Text.Units
import PinnedLink.Text.Utf8

/-!
# Names of subjects and issuers

A name is a list of steps, each a set of attributes.  Reading stops without complaint at the first
step that is not well formed.  A name is shown as its steps with commas between them; a value of a
string type of bytes or of sixteen-bit units is shown as its text, any other in upper-case
hexadecimal.
-/

namespace PinnedLink.X509

/-- One attribute of a name. -/
structure Attribute where
  kind : Oid
  value : Element
deriving DecidableEq, Repr

/-- A name: steps from the most general to the most specific, each with at least one attribute. -/
structure Name where
  steps : List (List Attribute)
deriving DecidableEq, Repr

/-- Reads an object identifier. -/
def Oid.read (bytes : Bytes) : Except ParseError (Oid × Bytes) :=
  match readElement bytes with
  | .error e => .error e
  | .ok (e, rest) =>
    if e.header.constructed then .error (.fault .algorithmIdentifier) else .ok (⟨e.content⟩, rest)

namespace Name

/-- Reads an attribute. -/
def readAttribute (bytes : Bytes) : Except ParseError (Attribute × Bytes) := do
  let (content, rest) ← readContainer Tag.sequence bytes
  let (kind, content) ← Oid.read content
  let (value, _) ← readElement content
  return ({ kind, value }, rest)

/-- Reads a step. -/
def readStep (bytes : Bytes) : Except ParseError (List Attribute × Bytes) := do
  let (content, rest) ← readContainer Tag.set bytes
  match (readMany readAttribute content).1 with
  | [] => .error (.fault .endOfData)
  | attributes => return (attributes, rest)

/-- Reads a name. -/
def read (bytes : Bytes) : Except ParseError (Name × Bytes) := do
  let (content, rest) ← readContainer Tag.sequence bytes
  return (⟨(readMany readStep content).1⟩, rest)

/-- Tags of values that are texts. -/
def textTags : List Nat := [
  Tag.numericString, Tag.visibleString, Tag.printableString, Tag.generalString,
  Tag.objectDescriptor, Tag.graphicString, Tag.t61String, Tag.videotexString, Tag.utf8String,
  Tag.ia5String]

/-- The text of a value, unless its bytes are no text. -/
def valueText? (value : Element) : Option String :=
  if textTags.contains value.tag then Text.ofUtf8? value.content
  else if value.tag = Tag.bmpString then
    (Text.ofUnits? (Text.unitsOfBytes value.content)).map String.ofList
  else some (Hex.encodeUpper value.content)

/-- The text of an attribute. -/
def attributeText? (a : Attribute) : Option String :=
  (valueText? a.value).map fun text => a.kind.label ++ "=" ++ text

/-- The text of a step. -/
def stepText? (step : List Attribute) : Option String :=
  (step.mapM attributeText?).map (" + ".intercalate ·)

/-- The text of a name. -/
def text (n : Name) : String :=
  match n.steps.mapM stepText? with
  | some steps => ", ".intercalate steps
  | none => "<X509Error: Invalid X.509 name>"

end Name

end PinnedLink.X509
