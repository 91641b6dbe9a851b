/-!
# Failures of reading a certificate

A certificate that cannot be read either ends too early in one of its nested values, which then
asks for more bytes, or has a fault that names the part it is in.
-/

namespace PinnedLink.X509

/-- The class of a tag. -/
inductive TagClass where
  | universal
  | application
  | contextSpecific
  | privateUse
deriving DecidableEq, Repr

/-- The name of a class. -/
def TagClass.name : TagClass → String
  | .universal => "Universal"
  | .application => "Application"
  | .contextSpecific => "ContextSpecific"
  | .privateUse => "Private"

/-- A fault of the encoding itself. -/
inductive DerFault where
  | unexpectedTag (expected : Option Nat) (actual : Nat)
  | invalidTag
  | invalidLength
  | indefiniteLength
  | integerTooLarge
  /-- A value of a class other than the one that goes with its part. -/
  | unexpectedClass (actual : TagClass)
deriving DecidableEq, Repr

/-- The name of an encoding fault. -/
def DerFault.name : DerFault → String
  | .unexpectedTag none actual =>
    "UnexpectedTag \x7b expected: None, actual: Tag(" ++ toString actual ++ ") \x7d"
  | .unexpectedTag (some expected) actual =>
    "UnexpectedTag \x7b expected: Some(Tag(" ++ toString expected ++ ")), actual: Tag("
      ++ toString actual ++ ") \x7d"
  | .invalidTag => "InvalidTag"
  | .invalidLength => "InvalidLength"
  | .indefiniteLength => "DerConstraintFailed(IndefiniteLength)"
  | .integerTooLarge => "IntegerTooLarge"
  | .unexpectedClass actual =>
    "UnexpectedClass \x7b expected: Some(ContextSpecific), actual: " ++ actual.name ++ " \x7d"

/-- The part of a certificate that is at fault. -/
inductive Fault where
  | der (fault : DerFault)
  /-- A value reaches beyond the end of what holds it. -/
  | endOfData
  | version
  | serial
  | algorithmIdentifier
  | date
  | publicKey
  | issuerUniqueId
  | subjectUniqueId
  | extensions
  | signatureValue
deriving DecidableEq, Repr

/-- The name of a fault. -/
def Fault.name : Fault → String
  | .der fault => "Der(" ++ fault.name ++ ")"
  | .endOfData => "NomError(Eof)"
  | .version => "InvalidVersion"
  | .serial => "InvalidSerial"
  | .algorithmIdentifier => "InvalidAlgorithmIdentifier"
  | .date => "InvalidDate"
  | .publicKey => "InvalidSPKI"
  | .issuerUniqueId => "InvalidIssuerUID"
  | .subjectUniqueId => "InvalidSubjectUID"
  | .extensions => "InvalidExtensions"
  | .signatureValue => "InvalidSignatureValue"

/-- Why a certificate cannot be read. -/
inductive ParseError where
  /-- More bytes are needed, at least this many. -/
  | incomplete (needed : Nat)
  /-- The bytes at hand are wrong. -/
  | fault (f : Fault)
deriving DecidableEq, Repr

/-- The text of a reading failure. -/
def ParseError.message : ParseError → String
  | .incomplete needed => s!"Parsing requires {needed} bytes/chars"
  | .fault f => "Parsing Error: " ++ f.name

end PinnedLink.X509
