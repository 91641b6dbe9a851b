/-!
# Alerts

The notices that one end of a session sends the other.  `closeNotify` ends a direction in good
order; every other alert here is fatal.
-/

namespace PinnedLink.Session

/-- What an alert says. -/
inductive Alert where
  | closeNotify
  | unexpectedMessage
  | badRecordMac
  | handshakeFailure
  | illegalParameter
  | accessDenied
  | decodeError
  | decryptError
  | protocolVersion
  | missingExtension
  | internalError
deriving DecidableEq, Repr

namespace Alert

/-- Every alert, in the order of its declaration. -/
def all : List Alert := [
  .closeNotify, .unexpectedMessage, .badRecordMac, .handshakeFailure, .illegalParameter,
  .accessDenied, .decodeError, .decryptError, .protocolVersion, .missingExtension,
  .internalError]

/-- The name of an alert. -/
def name : Alert → String
  | .closeNotify => "CloseNotify"
  | .unexpectedMessage => "UnexpectedMessage"
  | .badRecordMac => "BadRecordMac"
  | .handshakeFailure => "HandshakeFailure"
  | .illegalParameter => "IllegalParameter"
  | .accessDenied => "AccessDenied"
  | .decodeError => "DecodeError"
  | .decryptError => "DecryptError"
  | .protocolVersion => "ProtocolVersion"
  | .missingExtension => "MissingExtension"
  | .internalError => "InternalError"

/-- The code of an alert on the wire. -/
def code : Alert → UInt8
  | .closeNotify => 0
  | .unexpectedMessage => 10
  | .badRecordMac => 20
  | .handshakeFailure => 40
  | .illegalParameter => 47
  | .accessDenied => 49
  | .decodeError => 50
  | .decryptError => 51
  | .protocolVersion => 70
  | .missingExtension => 109
  | .internalError => 80

/-- The alert of a code on the wire. -/
def ofCode? (code : UInt8) : Option Alert :=
  all.find? fun alert => alert.code == code

theorem ofCode?_code (alert : Alert) : ofCode? alert.code = some alert := by
  cases alert <;> decide

end Alert

end PinnedLink.Session
