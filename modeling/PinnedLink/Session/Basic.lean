import PinnedLink.Session.Record
import PinnedLink.Stream.Basic

/-!
# Established sessions

A session between two ends whose handshake is done.  Plaintext given to `send?` is cut into records
that wait in the outbox until the stream takes them.  Bytes from the stream gather in the inbox, and
`receive` opens the whole records among them into plaintext that waits for its reader.

A session that meets a bad record, or a fatal alert of the other end, keeps the failure: it takes
no more plaintext and repeats the failure whenever it is asked to receive.  What it had opened
before the bad record stays readable.
-/

namespace PinnedLink

/-- One end of an established session. -/
structure Session where
  version : Session.Version
  side : Session.Side
  /-- Records sealed so far. -/
  sealedCount : Nat
  /-- Records opened so far. -/
  openedCount : Nat
  /-- Sealed bytes that the stream has not taken yet. -/
  outbox : Bytes
  /-- Bytes from the stream that are not opened yet. -/
  inbox : Bytes
  /-- Room that the inbox has claimed; a read asks for what is left of it. -/
  inboxRoom : Nat
  /-- Opened plaintext that nobody has read yet. -/
  plaintext : Bytes
  /-- The other end has ended its direction. -/
  peerClosed : Bool
  /-- The stream has ended. -/
  sawEof : Bool
  /-- This end has sent its last alert. -/
  saidGoodbye : Bool
  /-- Why the session has failed. -/
  failure : Option Session.Error
deriving DecidableEq, Repr

namespace Session

/-- A session whose handshake has just finished. -/
def established (version : Version) (side : Side) : Session :=
  { version, side, sealedCount := 0, openedCount := 0, outbox := [], inbox := [], inboxRoom := 0,
    plaintext := [], peerClosed := false, sawEof := false, saidGoodbye := false, failure := none }

/-! ## Sending -/

/-- Seals one record behind the outbox. -/
def sealOne (s : Session) (contentType : ContentType) (content : Bytes) : Session :=
  { s with
    sealedCount := s.sealedCount + 1
    outbox := s.outbox
      ++ (Record.sealed s.version s.side s.sealedCount contentType content).encode }

/-- Cuts plaintext into pieces of the size of a record. -/
def fragments (plain : Bytes) : List Bytes :=
  if _h : plain = [] then []
  else plain.take Record.maxFragment :: fragments (plain.drop Record.maxFragment)
termination_by plain.length
decreasing_by
  have : 0 < plain.length := List.length_pos_iff.2 _h
  simp [Record.maxFragment]
  omega

/-- Seals plaintext as application data.  A failed session takes none. -/
def send? (s : Session) (plain : Bytes) : Except Error Session :=
  match s.failure with
  | some e => .error e
  | none => .ok ((fragments plain).foldl (fun s piece => s.sealOne .applicationData piece) s)

/-- Seals an alert. -/
def sealAlert (s : Session) (alert : Alert) : Session :=
  let level : UInt8 := if alert = .closeNotify then 1 else 2
  { s.sealOne .alert [level, alert.code] with saidGoodbye := true }

/-- Ends this direction in good order, once, unless a fatal alert has ended it. -/
def closeNotify (s : Session) : Session :=
  if s.saidGoodbye then s else s.sealAlert .closeNotify

/-- Takes the bytes off the outbox that the stream has taken. -/
def dropSent (s : Session) (n : Nat) : Session :=
  { s with outbox := s.outbox.drop n }

/-! ## Receiving -/

/-- Most bytes that the inbox asks for beyond what it holds, room permitting. -/
def readStep : Nat := 4096

/-- The room of the inbox for the next read. -/
def nextRoom (s : Session) : Nat :=
  let need := min Record.maxWireLen (s.inbox.length + readStep)
  if s.inboxRoom < need ∨ s.inbox = [] ∨ Record.maxWireLen < s.inboxRoom then need
  else s.inboxRoom

/-- Reads once from the stream into the inbox; on success, the number of bytes read.  After the
other end has closed, nothing is read. -/
def readFrom {σ : Type} [ByteStream σ] (s : Session) (io : σ) : Except IoError Nat × Session × σ :=
  if s.peerClosed then (.ok 0, s, io)
  else if Record.maxWireLen ≤ s.inbox.length then
    (.error (.note .invalidData "message buffer full"), s, io)
  else
    let room := s.nextRoom
    let s := { s with inboxRoom := room }
    match ByteStream.read io (room - s.inbox.length) with
    | (.ok bytes, io) =>
      (.ok bytes.length,
        { s with inbox := s.inbox ++ bytes, sawEof := s.sawEof || bytes.isEmpty }, io)
    | (.error e, io) => (.error e, s, io)

/-- What is wrong with a cipher change that arrives after the handshake. -/
def cipherChangeFault (version : Version) (payload : Bytes) : Error :=
  match payload with
  | [] => .invalidMessage .missingCcs
  | [b] =>
    if b ≠ 1 then .invalidMessage .invalidCcs
    else match version with
      | .tls12 => .inappropriateMessage [.applicationData] .changeCipherSpec
      | .tls13 => .inappropriateMessage [.applicationData, .handshake] .changeCipherSpec
  | b :: _ => .invalidMessage (if b ≠ 1 then .invalidCcs else .trailingCcs)

/-- Opens one record of the other end and acts on it. -/
def accept (s : Session) (r : Record) : Except Error Session :=
  if r.contentType = .changeCipherSpec then .error (cipherChangeFault s.version r.payload)
  else
    match Record.open? s.version s.side.other s.openedCount r with
    | none => .error .decryptError
    | some (contentType, content) =>
      let s := { s with openedCount := s.openedCount + 1 }
      match contentType, content with
      | .applicationData, content => .ok { s with plaintext := s.plaintext ++ content }
      | .alert, [_, code] =>
        match Alert.ofCode? code with
        | some .closeNotify => .ok { s with peerClosed := true }
        | some alert => .error (.alertReceived alert)
        | none => .error .decryptError
      | got, _ => .error (.inappropriateMessage [.applicationData, .handshake] got)

/-- The alert that tells the other end of a failure, if it has to be told. -/
def alertFor : Error → Option Alert
  | .invalidMessage _ => some .decodeError
  | .inappropriateMessage _ _ => some .unexpectedMessage
  | .decryptError => some .badRecordMac
  | _ => none

/-- Records a failure and tells the other end. -/
def fail (s : Session) (e : Error) : Session :=
  let s := { s with failure := some e }
  match alertFor e with
  | some alert => s.sealAlert alert
  | none => s

/-- Opens the whole records of the inbox in order, up to the first bad one or to the end of the
other direction, after which nothing counts any more. -/
def openRecords (s : Session) : Option Error × Session :=
  match _h : Record.split s.inbox with
  | .incomplete => (none, s)
  | .malformed fault => (some (.invalidMessage fault), s.fail (.invalidMessage fault))
  | .whole r rest =>
    match s.accept r with
    | .error e => (some e, { s with inbox := rest }.fail e)
    | .ok t =>
      if t.peerClosed then (none, { t with inbox := [] })
      else openRecords { t with inbox := rest }
termination_by s.inbox.length
decreasing_by exact Record.length_rest_lt _h

/-- Opens what has arrived.  A failed session only repeats its failure. -/
def receive (s : Session) : Option Error × Session :=
  match s.failure with
  | some e => (some e, s)
  | none => s.openRecords

/-! ## What receiving leaves alone -/

theorem accept_sawEof {s t : Session} {r : Record} (h : s.accept r = .ok t) :
    t.sawEof = s.sawEof := by
  unfold accept at h
  split at h
  · cases h
  · split at h
    · cases h
    · dsimp only at h
      split at h
      · cases h; rfl
      · split at h
        · cases h; rfl
        · cases h
        · cases h
      · cases h

theorem fail_sawEof (s : Session) (e : Error) : (s.fail e).sawEof = s.sawEof := by
  unfold fail
  dsimp only
  split <;> rfl

theorem openRecords_sawEof (s : Session) : s.openRecords.2.sawEof = s.sawEof := by
  fun_induction openRecords s with
  | case1 s h => rfl
  | case2 s fault h => exact fail_sawEof s _
  | case3 s r rest h e he => exact fail_sawEof _ e
  | case4 s r rest h t ht hc =>
    have hk : t.sawEof = s.sawEof := accept_sawEof ht
    exact hk
  | case5 s r rest h t ht hc ih =>
    have hk : t.sawEof = s.sawEof := accept_sawEof ht
    exact ih.trans hk

/-- Opening what has arrived does not change whether the end of the stream was seen. -/
theorem receive_sawEof (s : Session) : s.receive.2.sawEof = s.sawEof := by
  unfold receive
  split
  · rfl
  · exact openRecords_sawEof s

/-! ## What reading the stream costs -/

/-- A read that succeeds while the direction is open either finds the end of the stream or lowers
the stream's budget. -/
theorem readFrom_ok {σ : Type} [ByteStream σ] {s t : Session} {io io' : σ} {n : Nat}
    (h : s.readFrom io = (.ok n, t, io')) (hopen : s.peerClosed = false) :
    ByteStream.budget io' ≤ ByteStream.budget io ∧
      (t.sawEof = true ∨ ByteStream.budget io' < ByteStream.budget io) := by
  unfold readFrom at h
  rw [if_neg (by simp [hopen])] at h
  split at h
  · cases h
  · dsimp only at h
    split at h
    · rename_i bytes io'' hr
      cases h
      refine ⟨ByteStream.budget_le_of_read hr, ?_⟩
      rcases bytes with _ | ⟨b, rest⟩
      · exact Or.inl (by simp)
      · exact Or.inr (ByteStream.budget_lt_of_read_some hr (by simp))
    · cases h

/-- An interrupted read lowers the stream's budget. -/
theorem readFrom_interrupted {σ : Type} [ByteStream σ] {s t : Session} {io io' : σ} {e : IoError}
    (h : s.readFrom io = (.error e, t, io')) (hk : e.kind = .interrupted) :
    ByteStream.budget io' < ByteStream.budget io := by
  unfold readFrom at h
  split at h
  · cases h
  · split at h
    · cases h; cases hk
    · dsimp only at h
      split at h
      · cases h
      · rename_i e' io'' hr
        cases h
        exact ByteStream.budget_lt_of_read_interrupted hr hk

/-! ## Reading plaintext -/

/-- The other direction is over, in good order or not. -/
def ended (s : Session) : Bool := s.peerClosed || s.sawEof

/-- Takes all opened plaintext. -/
def takePlaintext (s : Session) : Bytes × Session :=
  (s.plaintext, { s with plaintext := [] })

end Session

end PinnedLink
