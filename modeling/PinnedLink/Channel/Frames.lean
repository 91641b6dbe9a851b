import PinnedLink.Error
import PinnedLink.Frame.Message

/-!
# Frames from a receive buffer

`takeFrame` looks at the front of a receive buffer.  A header that does not decode, or that declares
more than the bound, is an error; less than a whole frame is nothing yet; a whole frame moves into
the caller's message.  Only a whole frame takes bytes off the buffer.
-/

namespace PinnedLink.Channel

open PinnedLink.Frame (Header Message)

/-- The frame at the front of a buffer, moved into a message.  The result is the body length of the
frame, `none` if the buffer holds no whole frame, and the buffer and the message come back as they
are afterwards. -/
def takeFrame (maxBodyLen : Nat) (buffer : Bytes) (m : Message) :
    Except TransportError (Option Nat) × Bytes × Message :=
  if buffer.length < Frame.headerLen then (.ok none, buffer, m)
  else
    match Header.decode (buffer.take Frame.headerLen) with
    | .error e => (.error (.malformedHeader e), buffer, m)
    | .ok header =>
      let bodyLen := header.bodyLen.toNat
      if maxBodyLen < bodyLen then
        (.error (.oversizedMessage bodyLen maxBodyLen), buffer, m)
      else if buffer.length < Frame.headerLen + bodyLen then (.ok none, buffer, m)
      else
        let raw := buffer.take Frame.headerLen
        let afterHeader := buffer.drop Frame.headerLen
        match m.setHeader raw with
        | .error e => (.error (.malformedHeader e), afterHeader, m)
        | .ok m =>
          match m.resize m.bodyLen with
          | .error e => (.error (.malformedHeader e), afterHeader, m)
          | .ok m =>
            (.ok (some bodyLen), afterHeader.drop bodyLen,
              m.overwrite 0 (afterHeader.take bodyLen))

end PinnedLink.Channel
