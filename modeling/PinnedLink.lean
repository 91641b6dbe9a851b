import PinnedLink.Bytes.BigEndian
import PinnedLink.Bytes.Hex
import PinnedLink.Bytes.Literal
import PinnedLink.Channel.Basic
import PinnedLink.Channel.Frames
import PinnedLink.Cli.Command
import PinnedLink.Cli.Explanation
import PinnedLink.Cli.Flag
import PinnedLink.Cli.Setup
import PinnedLink.Cli.Words
import PinnedLink.Config.Basic
import PinnedLink.Config.Document
import PinnedLink.Context
import PinnedLink.Crypto.Curve
import PinnedLink.Crypto.Ecdsa
import PinnedLink.Crypto.Ed25519
import PinnedLink.Crypto.Modular
import PinnedLink.Crypto.Rsa
import PinnedLink.Decimal.Shortest
import PinnedLink.Der.Value
import PinnedLink.Digest.Sha256
import PinnedLink.Digest.Sha512
import PinnedLink.Echo.Caller
import PinnedLink.Echo.Listener
import PinnedLink.Echo.Meeting
import PinnedLink.Error
import PinnedLink.Frame.Header
import PinnedLink.Frame.Message
import PinnedLink.Handshake.Basic
import PinnedLink.Handshake.Exchange
import PinnedLink.Handshake.Greeting
import PinnedLink.Handshake.Peer
import PinnedLink.Handshake.Wire
import PinnedLink.Host
import PinnedLink.Identity.Basic
import PinnedLink.Identity.Decoders
import PinnedLink.Identity.Key
import PinnedLink.Identity.SelfSigned
import PinnedLink.Json.Decode
import PinnedLink.Json.Failure
import PinnedLink.Json.Lexeme
import PinnedLink.Json.Number
import PinnedLink.Json.Printer
import PinnedLink.Json.Skip
import PinnedLink.Link
import PinnedLink.Network.Basic
import PinnedLink.Network.Loopback
import PinnedLink.Network.Socket
import PinnedLink.Pem.Base64
import PinnedLink.Pem.Error
import PinnedLink.Pem.Section
import PinnedLink.Pem.Writer
import PinnedLink.Proofs.Channel.Front
import PinnedLink.Proofs.Channel.Sending
import PinnedLink.Proofs.Channel.Receiving
import PinnedLink.Proofs.Channel.Reference
import PinnedLink.Proofs.Channel.Flow
import PinnedLink.Proofs.Channel.Act
import PinnedLink.Proofs.Channel.Failure
import PinnedLink.Proofs.Channel.Rejection
import PinnedLink.Proofs.Channel.Queueing
import PinnedLink.Proofs.Channel.Flushing
import PinnedLink.Proofs.Channel.Blocking
import PinnedLink.Proofs.Channel.Whole
import PinnedLink.Proofs.Channel.Spoken
import PinnedLink.Proofs.Channel.Talk
import PinnedLink.Proofs.Channel.Exact
import PinnedLink.Proofs.Channel.Buffering
import PinnedLink.Proofs.Channel.Passes
import PinnedLink.Proofs.Channel.Taking
import PinnedLink.Proofs.Config.Document
import PinnedLink.Proofs.Config.Setting
import PinnedLink.Proofs.Context.Trust
import PinnedLink.Proofs.Echo.Steps
import PinnedLink.Proofs.Echo.Returning
import PinnedLink.Proofs.Echo.Conversation
import PinnedLink.Proofs.Echo.Arrangement
import PinnedLink.Proofs.Frame.Codec
import PinnedLink.Proofs.Frame.Editing
import PinnedLink.Proofs.Frame.Resizing
import PinnedLink.Proofs.Handshake.Exchange
import PinnedLink.Proofs.Handshake.Pinning
import PinnedLink.Proofs.Identity.Holding
import PinnedLink.Proofs.Identity.Loading
import PinnedLink.Proofs.Json.Grammar
import PinnedLink.Proofs.Json.Printing
import PinnedLink.Proofs.Json.Reading
import PinnedLink.Proofs.Json.Skipping
import PinnedLink.Proofs.Link.Delivery
import PinnedLink.Proofs.Network.Alike
import PinnedLink.Proofs.Network.Recorded
import PinnedLink.Proofs.Session.Wire
import PinnedLink.Proofs.Session.Transcript
import PinnedLink.Proofs.Session.Hears
import PinnedLink.Proofs.Session.Rejection
import PinnedLink.Proofs.Session.Saying
import PinnedLink.Proofs.Session.Carried
import PinnedLink.Proofs.Stream.Lossless
import PinnedLink.Proofs.Stream.Schedule
import PinnedLink.Proofs.Stream.Logged
import PinnedLink.Proofs.Stream.Duplex
import PinnedLink.Proofs.Text.Spelling
import PinnedLink.Proofs.Transport.Lifecycle
import PinnedLink.Proofs.Transport.FailStop
import PinnedLink.Proofs.Transport.Reinit
import PinnedLink.Proofs.Transport.Talking
import PinnedLink.Proofs.Transport.Establishing
import PinnedLink.Proofs.X509.PublicKey
import PinnedLink.Session.Alert
import PinnedLink.Session.Basic
import PinnedLink.Session.Error
import PinnedLink.Session.Plain
import PinnedLink.Session.Record
import PinnedLink.Session.Version
import PinnedLink.Signature.Algorithm
import PinnedLink.Signature.Scheme
import PinnedLink.Stream.Basic
import PinnedLink.Stream.Duplex
import PinnedLink.Stream.IoError
import PinnedLink.Stream.Pipe
import PinnedLink.Text.Blank
import PinnedLink.Text.Hidden
import PinnedLink.Text.Numeral
import PinnedLink.Text.Quoted
import PinnedLink.Text.Units
import PinnedLink.Text.Utf8
import PinnedLink.Transport.Basic
import PinnedLink.Transport.Establish
import PinnedLink.Transport.Pair
import PinnedLink.Verifier
import PinnedLink.X509.Certificate
import PinnedLink.X509.Element
import PinnedLink.X509.Error
import PinnedLink.X509.Leaf
import PinnedLink.X509.Name
import PinnedLink.X509.Oid
import PinnedLink.X509.Time
import PinnedLink.Main
