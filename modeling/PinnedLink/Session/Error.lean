import PinnedLink.Bytes.Literal
import PinnedLink.Session.Alert

/-!
# Session failures

Why a session stops: a record that is malformed, out of place or not authentic, an alert from the
other end, or a handshake that finds no common ground.  A failed session keeps its failure and
repeats it.
-/

namespace PinnedLink.Session

/-- What kind of content a record carries. -/
inductive ContentType where
  | changeCipherSpec
  | alert
  | handshake
  | applicationData
  | heartbeat
deriving DecidableEq, Repr

namespace ContentType

/-- The name of a content type. -/
def name : ContentType → String
  | .changeCipherSpec => "ChangeCipherSpec"
  | .alert => "Alert"
  | .handshake => "Handshake"
  | .applicationData => "ApplicationData"
  | .heartbeat => "Heartbeat"

/-- The code of a content type on the wire. -/
def code : ContentType → UInt8
  | .changeCipherSpec => 0x14
  | .alert => 0x15
  | .handshake => 0x16
  | .applicationData => 0x17
  | .heartbeat => 0x18

/-- The content type of a code on the wire. -/
def ofCode? (code : UInt8) : Option ContentType :=
  [changeCipherSpec, alert, handshake, applicationData, heartbeat].find? fun t => t.code == code

theorem ofCode?_code (t : ContentType) : ofCode? t.code = some t := by
  cases t <;> decide

end ContentType

/-- What is wrong with the form of a record. -/
inductive Malformation where
  /-- The first byte names no content type. -/
  | invalidContentType
  /-- The version bytes are those of no known protocol. -/
  | unknownProtocolVersion
  /-- A record that must carry something is empty. -/
  | invalidEmptyPayload
  /-- The declared length is above the limit. -/
  | messageTooLarge
  /-- A cipher change says anything but one. -/
  | invalidCcs
  /-- A cipher change has more than its one byte. -/
  | trailingCcs
  /-- A cipher change has no byte. -/
  | missingCcs
  /-- A message of the handshake is above the limit. -/
  | handshakePayloadTooLarge
deriving DecidableEq, Repr

/-- The name of a malformation. -/
def Malformation.name : Malformation → String
  | .invalidContentType => "InvalidContentType"
  | .unknownProtocolVersion => "UnknownProtocolVersion"
  | .invalidEmptyPayload => "InvalidEmptyPayload"
  | .messageTooLarge => "MessageTooLarge"
  | .invalidCcs => "InvalidCcs"
  | .trailingCcs => "TrailingData(\"ChangeCipherSpecPayload\")"
  | .missingCcs => "MissingData(\"u8\")"
  | .handshakePayloadTooLarge => "HandshakePayloadTooLarge"

/-- Why a peer cannot be worked with although it did nothing wrong. -/
inductive Incompatibility where
  /-- The client offers no version older than 1.3, or the server allows none. -/
  | tls12NotOfferedOrEnabled
deriving DecidableEq, Repr

/-- The name of an incompatibility. -/
def Incompatibility.name : Incompatibility → String
  | .tls12NotOfferedOrEnabled => "Tls12NotOfferedOrEnabled"

/-- What a peer did that the protocol forbids. -/
inductive Misbehaviour where
  | signedHandshakeWithUnadvertisedSigScheme
deriving DecidableEq, Repr

/-- The name of a misbehaviour. -/
def Misbehaviour.name : Misbehaviour → String
  | .signedHandshakeWithUnadvertisedSigScheme => "SignedHandshakeWithUnadvertisedSigScheme"

/-- Why a certificate or a signature made with its key is not accepted. -/
inductive CertificateFault where
  /-- The certificate is not well formed. -/
  | badEncoding
  /-- The signature does not verify. -/
  | badSignature
  /-- The certificate is not one of the trusted ones. -/
  | applicationVerificationFailure
  /-- The certificate is not of version three. -/
  | unsupportedCertVersion
  /-- A critical extension is not understood. -/
  | unsupportedCriticalExtension
  /-- The two signature algorithms of the certificate differ. -/
  | signatureAlgorithmMismatch
  /-- An extension comes twice. -/
  | extensionValueInvalid
  /-- The signature scheme does not go with the kind of public key. -/
  | unsupportedSignatureAlgorithm (signature publicKey : Bytes)
deriving DecidableEq, Repr

/-- The text of a certificate fault. -/
def CertificateFault.name : CertificateFault → String
  | .badEncoding => "BadEncoding"
  | .badSignature => "BadSignature"
  | .applicationVerificationFailure => "ApplicationVerificationFailure"
  | .unsupportedCertVersion => "Other(OtherError(UnsupportedCertVersion))"
  | .unsupportedCriticalExtension => "Other(OtherError(UnsupportedCriticalExtension))"
  | .signatureAlgorithmMismatch => "Other(OtherError(SignatureAlgorithmMismatch))"
  | .extensionValueInvalid => "Other(OtherError(ExtensionValueInvalid))"
  | .unsupportedSignatureAlgorithm signature publicKey =>
    "UnsupportedSignatureAlgorithmForPublicKeyContext \x7b signature_algorithm_id: "
      ++ Bytes.decimalList signature ++ ", public_key_algorithm_id: " ++ Bytes.decimalList publicKey ++ " \x7d"

/-- Why a session stops. -/
inductive Error where
  /-- A record is malformed. -/
  | invalidMessage (fault : Malformation)
  /-- A well-formed record has no place here. -/
  | inappropriateMessage (expected : List ContentType) (got : ContentType)
  /-- A record does not authenticate. -/
  | decryptError
  /-- The other end sent a fatal alert. -/
  | alertReceived (alert : Alert)
  /-- The two ends have nothing in common. -/
  | peerIncompatible (why : Incompatibility)
  /-- The other end broke the protocol. -/
  | peerMisbehaved (how : Misbehaviour)
  /-- The certificate of the other end, or its signature, is refused. -/
  | invalidCertificate (fault : CertificateFault)
deriving DecidableEq, Repr

namespace Error

/-- The name of the kind of failure. -/
def kindName : Error → String
  | .invalidMessage _ => "InvalidMessage"
  | .inappropriateMessage _ _ => "InappropriateMessage"
  | .decryptError => "DecryptError"
  | .alertReceived _ => "AlertReceived"
  | .peerIncompatible _ => "PeerIncompatible"
  | .peerMisbehaved _ => "PeerMisbehaved"
  | .invalidCertificate _ => "InvalidCertificate"

/-- The text of a failure. -/
def message : Error → String
  | .invalidMessage fault => "received corrupt message of type " ++ fault.name
  | .inappropriateMessage expected got =>
    "received unexpected message: got " ++ got.name ++ " when expecting "
      ++ " or ".intercalate (expected.map ContentType.name)
  | .decryptError => "cannot decrypt peer's message"
  | .alertReceived alert => "received fatal alert: " ++ alert.name
  | .peerIncompatible why => "peer is incompatible: " ++ why.name
  | .peerMisbehaved how => "peer misbehaved: " ++ how.name
  | .invalidCertificate fault => "invalid peer certificate: " ++ fault.name

end Error

end PinnedLink.Session
