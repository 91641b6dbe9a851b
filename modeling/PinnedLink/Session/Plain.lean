import PinnedLink.Session.Basic

/-!
# Sessions without frames

A session used directly: plaintext is written as application data, and everything that has arrived
is read at once.  A write that the stream does not take stays with the session for the next one.
-/

namespace PinnedLink.Session

variable {σ : Type} [ByteStream σ]

/-- Hands sealed bytes to the stream until none is left or a write does not take any. -/
def push (s : Session) (io : σ) : Session × σ :=
  if _hne : s.outbox = [] then (s, io)
  else
    match _h : ByteStream.write io s.outbox with
    | (.ok (n + 1), io) => push (s.dropSent (n + 1)) io
    | (_, io) => (s, io)
termination_by s.outbox.length
decreasing_by
  have hpos := List.length_pos_iff.2 _hne
  simp only [dropSent, List.length_drop]
  omega

/-- Writes plaintext as application data.  A failed session takes none of it. -/
def writePlain (s : Session) (io : σ) (plain : Bytes) : Session × σ :=
  match s.send? plain with
  | .error _ => push s io
  | .ok s => push s io

/-- Opens everything that the stream gives, until a read fails, the other direction is over, or a
record is bad. -/
def gather (s : Session) (io : σ) : Option Error × Session × σ :=
  if _hopen : s.peerClosed then (none, s, io)
  else
    match _hr : s.readFrom io with
    | (.error _, s, io) => (none, s, io)
    | (.ok _, t, io) =>
      match _hp : t.receive with
      | (some e, t) =>
        let (t, io) := push t io
        (some e, t, io)
      | (none, t) => if _he : t.ended then (none, t, io) else gather t io
termination_by ByteStream.budget io
decreasing_by
  rcases (readFrom_ok _hr (by simpa using _hopen)).2 with hseen | hlt
  · have hk := congrArg (fun r => r.2.sawEof) _hp
    simp only [receive_sawEof] at hk
    simp_all [ended]
  · exact hlt

/-- How a session's incoming direction stands. -/
inductive Ending where
  | stillOpen
  | closeNotify
  | eof
deriving DecidableEq, Repr

/-- How the incoming direction stands. -/
def ending (s : Session) : Ending :=
  if s.peerClosed then .closeNotify else if s.sawEof then .eof else .stillOpen

end PinnedLink.Session
