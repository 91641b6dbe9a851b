import PinnedLink.Proofs.Session.Transcript

/-!
# What the other end hears

`Hears s ahead plain tail` says what a session `s` hands over once it has read the ciphertext `ahead`:
the plaintext `plain`, which leaves off as `tail` says.  What the session has already opened is part
of it, and a session whose incoming direction is over has nothing else.

Nothing that a session does to hand plaintext over changes what it hears, wherever the ciphertext is
cut: not reading (`readFrom_eq`), not opening what was read (`Hears.receive`), not handing over
(`Hears.takePlaintext`), and not what it sends (`Hears.congr`).  Only the end of the stream can cut it
short.
-/

namespace PinnedLink.Session

/-! ## The two halves of a session -/

/-- What a session goes by when it sends. -/
structure Speaking where
  version : Version
  side : Side
  sealedCount : Nat
  outbox : Bytes
  saidGoodbye : Bool
  failure : Option Error

/-- What a session goes by when it receives, apart from the room of its inbox. -/
structure Listening where
  version : Version
  side : Side
  openedCount : Nat
  inbox : Bytes
  plaintext : Bytes
  peerClosed : Bool
  sawEof : Bool
  failure : Option Error

/-- The sending half of a session. -/
def speaking (s : Session) : Speaking :=
  { version := s.version, side := s.side, sealedCount := s.sealedCount, outbox := s.outbox,
    saidGoodbye := s.saidGoodbye, failure := s.failure }

/-- The receiving half of a session. -/
def listening (s : Session) : Listening :=
  { version := s.version, side := s.side, openedCount := s.openedCount, inbox := s.inbox,
    plaintext := s.plaintext, peerClosed := s.peerClosed, sawEof := s.sawEof, failure := s.failure }

@[simp] theorem listening_dropSent (s : Session) (n : Nat) :
    (s.dropSent n).listening = s.listening := rfl

/-! ## Opening records -/

/-- A piece of plaintext that the other end has sealed opens in its place. -/
theorem accept_data (s : Session) (piece : Bytes) :
    s.accept (Record.sealed s.version s.side.other s.openedCount .applicationData piece) =
      .ok { s with openedCount := s.openedCount + 1, plaintext := s.plaintext ++ piece } := by
  have htype : (Record.sealed s.version s.side.other s.openedCount .applicationData
      piece).contentType ≠ .changeCipherSpec := by
    cases s.version <;> exact ContentType.noConfusion
  rw [accept, if_neg htype, Record.open?_sealed]

/-- The goodbye of the other end opens in its place. -/
theorem accept_goodbye (s : Session) (level : UInt8) :
    s.accept (Record.sealed s.version s.side.other s.openedCount .alert
        [level, Alert.closeNotify.code]) =
      .ok { s with openedCount := s.openedCount + 1, peerClosed := true } := by
  have htype : (Record.sealed s.version s.side.other s.openedCount .alert
      [level, Alert.closeNotify.code]).contentType ≠ .changeCipherSpec := by
    cases s.version <;> exact ContentType.noConfusion
  rw [accept, if_neg htype, Record.open?_sealed]
  simp only [Alert.ofCode?_code]

/-- The records of a transcript open without failure, up to where the inbox leaves off.  What they
carry goes behind the plaintext, and the rest of the transcript is still to come. -/
theorem openRecords_of_transcript {s : Session} {ahead rest : Bytes} {tail : Tail}
    (hopen : s.peerClosed = false)
    (h : Transcript s.version s.side.other s.openedCount (s.inbox ++ ahead) rest tail) :
    ∃ count inbox got closed rest', s.openRecords =
        (none, { s with openedCount := count, inbox, plaintext := s.plaintext ++ got,
                        peerClosed := closed }) ∧
      rest = got ++ rest' ∧
      (closed = true ∧ rest' = [] ∧ tail = .goodbye ∨
        closed = false ∧ Record.split inbox = .incomplete ∧
          Transcript s.version s.side.other count (inbox ++ ahead) rest' tail) := by
  fun_induction openRecords s generalizing rest with
  | case1 s hsplit =>
    exact ⟨s.openedCount, s.inbox, [], s.peerClosed, rest, by simp, rfl,
      Or.inr ⟨hopen, hsplit, h⟩⟩
  | case2 s fault hsplit =>
    exact absurd (Record.split_append_of_malformed hsplit ahead) (h.not_malformed fault)
  | case3 s r after hsplit e he =>
    rcases h.of_whole (Record.split_append_of_whole hsplit ahead) with
      ⟨piece, rest', rfl, -, -⟩ | ⟨level, rfl, -, -⟩
    · rw [accept_data] at he; cases he
    · rw [accept_goodbye] at he; cases he
  | case4 s r after hsplit t ht hclosed =>
    rcases h.of_whole (Record.split_append_of_whole hsplit ahead) with
      ⟨piece, rest', rfl, -, -⟩ | ⟨level, rfl, rfl, rfl⟩
    · rw [accept_data] at ht
      cases ht
      rw [hopen] at hclosed
      cases hclosed
    · rw [accept_goodbye] at ht
      cases ht
      exact ⟨s.openedCount + 1, [], [], true, [], by simp, rfl, Or.inl ⟨rfl, rfl, rfl⟩⟩
  | case5 s r after hsplit t ht hclosed ih =>
    rcases h.of_whole (Record.split_append_of_whole hsplit ahead) with
      ⟨piece, rest', rfl, rfl, hrest⟩ | ⟨level, rfl, rfl, rfl⟩
    · rw [accept_data] at ht
      cases ht
      obtain ⟨count, inbox, got, closed, rest'', hrun, rfl, hafter⟩ := ih hopen hrest
      exact ⟨count, inbox, piece ++ got, closed, rest'', by rw [hrun]; simp [List.append_assoc],
        by rw [List.append_assoc], hafter⟩
    · rw [accept_goodbye] at ht
      cases ht
      exact absurd rfl hclosed

/-! ## What a session hears -/

/-- What a session hands over once it has read the ciphertext ahead of it: the plaintext `plain`,
which leaves off as `tail` says. -/
inductive Hears (s : Session) (ahead plain : Bytes) (tail : Tail) : Prop where
  /-- The incoming direction is over, and there is what was opened before. -/
  | spent (hfailure : s.failure = none) (hended : s.ended = true) (hplain : plain = s.plaintext)
  /-- There is what was opened before and what the ciphertext carries. -/
  | live (rest : Bytes) (hfailure : s.failure = none) (hopen : s.ended = false)
    (hinbox : Record.split s.inbox = .incomplete) (hplain : plain = s.plaintext ++ rest)
    (hrest : Transcript s.version s.side.other s.openedCount (s.inbox ++ ahead) rest tail)

namespace Hears

variable {s t : Session} {ahead plain : Bytes} {tail : Tail}

/-- What a session hears depends on its receiving half alone. -/
theorem congr (h : s.Hears ahead plain tail) (heq : t.listening = s.listening) :
    t.Hears ahead plain tail := by
  obtain ⟨hversion, hside, hcount, hinbox, hplaintext, hclosed, heof, hfailure⟩ :
      t.version = s.version ∧ t.side = s.side ∧ t.openedCount = s.openedCount ∧
        t.inbox = s.inbox ∧ t.plaintext = s.plaintext ∧ t.peerClosed = s.peerClosed ∧
        t.sawEof = s.sawEof ∧ t.failure = s.failure := by
    simpa [listening] using heq
  have hended : t.ended = s.ended := by rw [ended, ended, hclosed, heof]
  cases h with
  | spent hf he hp => exact .spent (hfailure.trans hf) (hended.trans he) (hp.trans hplaintext.symm)
  | live rest hf ho hi hp hr =>
    refine .live rest (hfailure.trans hf) (hended.trans ho) ?_ ?_ ?_
    · rw [hinbox, hi]
    · rw [hplaintext, hp]
    · rw [hversion, hside, hcount, hinbox]
      exact hr

/-- Handing over what was opened leaves the rest to be heard. -/
theorem takePlaintext (h : s.Hears ahead plain tail) :
    ∃ rest, plain = s.plaintext ++ rest ∧ s.takePlaintext.2.Hears ahead rest tail := by
  cases h with
  | spent hf he hp => exact ⟨[], by rw [hp, List.append_nil], .spent hf he rfl⟩
  | live rest hf ho hi hp hr => exact ⟨rest, hp, .live rest hf ho hi rfl hr⟩

/-- What an end seals behind a transcript without goodbye is heard behind it. -/
theorem append {n : Nat} {wire more : Bytes} {tail : Tail}
    (h : s.Hears ahead plain (.next n))
    (hwire : Transcript s.version s.side.other n wire more tail) :
    ∃ plain', s.Hears (ahead ++ wire) plain' tail ∧
      (s.ended = true ∧ plain' = plain ∨ s.ended = false ∧ plain' = plain ++ more) := by
  cases h with
  | spent hf he hp => exact ⟨plain, .spent hf he hp, Or.inl ⟨he, rfl⟩⟩
  | live rest hf ho hi hp hr =>
    refine ⟨plain ++ more, .live (rest ++ more) hf ho hi ?_ ?_, Or.inr ⟨ho, rfl⟩⟩
    · rw [hp, List.append_assoc]
    · rw [← List.append_assoc]
      exact hr.append hwire

/-- What an end seals behind its goodbye is not heard. -/
theorem append_goodbye (h : s.Hears ahead plain .goodbye) (wire : Bytes) :
    s.Hears (ahead ++ wire) plain .goodbye := by
  cases h with
  | spent hf he hp => exact .spent hf he hp
  | live rest hf ho hi hp hr =>
    refine .live rest hf ho hi hp ?_
    rw [← List.append_assoc]
    exact hr.append_goodbye wire

end Hears

/-! ## Reading and opening -/

/-- There is always room for a read. -/
theorem length_inbox_lt_nextRoom {s : Session} (h : Record.split s.inbox = .incomplete) :
    s.inbox.length < s.nextRoom := by
  have hlt := Record.length_lt_of_split_incomplete h
  have hstep : readStep = 4096 := rfl
  unfold nextRoom
  dsimp only
  split
  · omega
  · omega

/-- An unfinished inbox of an open session is read into once. -/
theorem readFrom_eq {σ : Type} [ByteStream σ] {s : Session} (io : σ) (hopen : s.ended = false)
    (hinbox : Record.split s.inbox = .incomplete) :
    s.readFrom io = match ByteStream.read io (s.nextRoom - s.inbox.length) with
      | (.ok bytes, io) =>
        (.ok bytes.length,
          { s with inboxRoom := s.nextRoom, inbox := s.inbox ++ bytes, sawEof := bytes.isEmpty }, io)
      | (.error e, io) => (.error e, { s with inboxRoom := s.nextRoom }, io) := by
  obtain ⟨hclosed, heof⟩ : s.peerClosed = false ∧ s.sawEof = false := by
    simpa [ended] using hopen
  have hroom : ¬ Record.maxWireLen ≤ s.inbox.length :=
    Nat.not_le.2 (Record.length_lt_of_split_incomplete hinbox)
  rw [readFrom, if_neg (by rw [hclosed]; exact Bool.false_ne_true), if_neg hroom]
  dsimp only
  rw [heof]
  rfl

/-- Opening what has arrived keeps the sending half, and what is heard.  If nothing has arrived, the
stream is over, and what would have been ahead is not heard any more.  Only a goodbye closes the
session. -/
theorem Hears.receive {s : Session} {bytes ahead plain : Bytes} {tail : Tail} (room : Nat)
    (h : s.Hears (bytes ++ ahead) plain tail) (hopen : s.ended = false) :
    ∃ t, ({ s with inboxRoom := room, inbox := s.inbox ++ bytes,
                   sawEof := bytes.isEmpty } : Session).receive = (none, t) ∧
      t.speaking = s.speaking ∧ t.sawEof = bytes.isEmpty ∧
      (t.peerClosed = true → tail = .goodbye) ∧
      ∃ plain' lost, plain = plain' ++ lost ∧ t.Hears ahead plain' tail ∧
        (bytes ≠ [] ∨ ahead = [] → lost = []) := by
  cases h with
  | spent _ he _ => rw [hopen] at he; cases he
  | live rest hf _ hi hp hr =>
    have hclosed : s.peerClosed = false := by
      rw [ended, Bool.or_eq_false_iff] at hopen
      exact hopen.1
    rw [← List.append_assoc] at hr
    obtain ⟨count, inbox, got, closed, rest', hrun, rfl, hafter⟩ := openRecords_of_transcript
      (s := { s with inboxRoom := room, inbox := s.inbox ++ bytes, sawEof := bytes.isEmpty })
      hclosed hr
    refine ⟨{ s with
      openedCount := count, inbox, inboxRoom := room, plaintext := s.plaintext ++ got,
      peerClosed := closed, sawEof := bytes.isEmpty }, ?_, rfl, rfl, ?_, ?_⟩
    · simp only [Session.receive, hf]
      simpa only [hf] using hrun
    · rcases hafter with ⟨-, -, hbye⟩ | ⟨rfl, -, -⟩
      · exact fun _ => hbye
      · exact fun hfalse => absurd hfalse Bool.false_ne_true
    · rcases hafter with ⟨rfl, rfl, -⟩ | ⟨rfl, hinbox, hrest⟩
      · refine ⟨plain, [], (List.append_nil _).symm, .spent hf ?_ ?_, fun _ => rfl⟩
        · simp [ended]
        · rw [hp, List.append_nil]
      · rcases bytes with _ | ⟨b, more⟩
        · refine ⟨s.plaintext ++ got, rest', by rw [hp, List.append_assoc],
            .spent hf (by simp [ended]) rfl, ?_⟩
          rintro (hne | rfl)
          · exact absurd rfl hne
          · exact (hrest.of_incomplete (by rw [List.append_nil]; exact hinbox)).1
        · exact ⟨plain, [], (List.append_nil _).symm,
            .live rest' hf (by simp [ended]) hinbox (by rw [hp, List.append_assoc]) hrest,
            fun _ => rfl⟩

end PinnedLink.Session
