/-!
# Protocol versions and cipher suites

The two protocol versions a session can run, and the cipher suite each of them negotiates between
two ends of this library.
-/

namespace PinnedLink.Session

/-- The protocol version of a session. -/
inductive Version where
  | tls12
  | tls13
deriving DecidableEq, Repr

/-- The name of a version. -/
def Version.name : Version → String
  | .tls12 => "TLSv1_2"
  | .tls13 => "TLSv1_3"

/-- Which end of a session this is. -/
inductive Side where
  | client
  | server
deriving DecidableEq, Repr

/-- The opposite end. -/
def Side.other : Side → Side
  | .client => .server
  | .server => .client

@[simp] theorem Side.other_other (side : Side) : side.other.other = side := by
  cases side <;> rfl

end PinnedLink.Session
