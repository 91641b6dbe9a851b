import PinnedLink.Stream.Pipe

/-!
# Connections seen from either end

A stream that is one end of a connection can be seen from the other end.  Two parties that take turns
on one connection share it in this way: what one of them has done to its end the other one finds at
its own.
-/

namespace PinnedLink

/-- Streams that are the ends of connections. -/
class Duplex (σ : Type) where
  /-- A connection on which nothing was sent. -/
  fresh : σ
  /-- The same connection, seen from the other end. -/
  flip : σ → σ
  /-- The connection after one of its ends was given up: what was sent before can still be read. -/
  cutOff : σ → σ

namespace Pipe.End

/-- The same pipes, seen from the other end. -/
def flip (e : End) : End := { outgoing := e.incoming, incoming := e.outgoing }

/-- The pipes after the other side has given up the connection: what was written before can still be
read. -/
def cutOff (e : End) : End :=
  { outgoing := { e.outgoing with closed := true }, incoming := { e.incoming with closed := true } }

instance : Duplex End where
  fresh := { outgoing := Pipe.empty, incoming := Pipe.empty }
  flip := flip
  cutOff := cutOff

end Pipe.End

end PinnedLink
