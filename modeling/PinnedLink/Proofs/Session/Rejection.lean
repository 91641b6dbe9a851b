import PinnedLink.Proofs.Session.Hears

/-!
# A session that meets a bad record

`Session.rejection?` says whether a session refuses what stands at the front of a byte string, and
why.  Behind good records a bad one takes nothing back: what the good ones carry is opened all the
same, and stays with the session when it fails (`opens_of_transcript`, `openRecords_of_rejection`).

Once it has failed, a session repeats its failure and opens nothing more (`receive_of_failure`).

`Spoiled` is a session that has a bad record ahead, and `Spoiled.receive` says what a read brings it:
it is still ahead, or the session fails, and what it had to hand over is with it.
-/

namespace PinnedLink.Session

/-- Why a session refuses the record at the front of a byte string, if a record or what cannot become
one stands there and the session refuses it. -/
def rejection? (s : Session) (bytes : Bytes) : Option Error :=
  match Record.split bytes with
  | .incomplete => none
  | .malformed fault => some (.invalidMessage fault)
  | .whole r _ =>
    match s.accept r with
    | .error e => some e
    | .ok _ => none

/-- A session that has opened so many records and nothing else. -/
def opening (version : Version) (side : Side) (openedCount : Nat) : Session :=
  { established version side with openedCount }

/-! ## What a rejection goes by -/

/-- Whether a record is refused, and why, is a matter of the version, the side and the number of the
record. -/
theorem accept_error_iff {s : Session} {r : Record} {e : Error} :
    s.accept r = .error e ↔ (opening s.version s.side s.openedCount).accept r = .error e := by
  unfold accept
  have hversion : (opening s.version s.side s.openedCount).version = s.version := rfl
  have hside : (opening s.version s.side s.openedCount).side = s.side := rfl
  have hcount : (opening s.version s.side s.openedCount).openedCount = s.openedCount := rfl
  rw [hversion, hside, hcount]
  split
  · exact Iff.rfl
  · split
    · exact Iff.rfl
    · dsimp only
      split
      · exact iff_of_false nofun nofun
      · split
        · exact iff_of_false nofun nofun
        · exact Iff.rfl
        · exact Iff.rfl
      · exact Iff.rfl

/-- A rejection is one of the front, whatever follows. -/
theorem rejection?_of_append {s : Session} {bytes more : Bytes}
    (hfront : Record.split bytes ≠ .incomplete) :
    s.rejection? (bytes ++ more) = s.rejection? bytes := by
  unfold rejection?
  rw [Record.split_append more hfront]
  cases Record.split bytes with
  | incomplete => rfl
  | malformed fault => rfl
  | whole r rest => rfl

theorem rejection?_eq_some_iff {s : Session} {bytes : Bytes} {e : Error} :
    s.rejection? bytes = some e ↔
      (∃ fault, Record.split bytes = .malformed fault ∧ e = .invalidMessage fault) ∨
        ∃ r rest, Record.split bytes = .whole r rest ∧ s.accept r = .error e := by
  unfold rejection?
  cases Record.split bytes with
  | incomplete => simp
  | malformed fault => simp [eq_comm]
  | whole r rest =>
    cases haccept : s.accept r with
    | error e' => simp [haccept]
    | ok t => simp [haccept]

/-- The same rejection meets every session of the same version and side that has opened as many
records. -/
theorem rejection?_eq_some_congr {s : Session} {bytes : Bytes} {e : Error} :
    s.rejection? bytes = some e ↔
      (opening s.version s.side s.openedCount).rejection? bytes = some e := by
  rw [rejection?_eq_some_iff, rejection?_eq_some_iff]
  refine or_congr_right (exists_congr fun r => exists_congr fun rest => and_congr_right fun _ => ?_)
  exact accept_error_iff

/-! ## Opening what a bad record follows -/

theorem failure_fail (s : Session) (e : Error) : (s.fail e).failure = some e := by
  unfold fail
  dsimp only
  split
  · rfl
  · rfl

theorem plaintext_fail (s : Session) (e : Error) : (s.fail e).plaintext = s.plaintext := by
  unfold fail
  dsimp only
  split
  · rfl
  · rfl

/-- A bad record at the front of the inbox fails the session, and leaves the plaintext to its
reader. -/
theorem openRecords_of_rejection {s : Session} {e : Error} (h : s.rejection? s.inbox = some e) :
    ∃ t, s.openRecords = (some e, t) ∧ t.failure = some e ∧ t.plaintext = s.plaintext := by
  rcases rejection?_eq_some_iff.1 h with ⟨fault, hsplit, rfl⟩ | ⟨r, rest, hsplit, haccept⟩
  · refine ⟨s.fail (.invalidMessage fault), ?_, failure_fail s _, plaintext_fail s _⟩
    rw [openRecords]
    split <;> simp_all
  · refine ⟨({ s with inbox := rest } : Session).fail e, ?_, failure_fail _ e, plaintext_fail _ e⟩
    rw [openRecords]
    split <;> simp_all

/-- Less than a record at the front of the inbox stays there. -/
theorem openRecords_of_incomplete {s : Session} (h : Record.split s.inbox = .incomplete) :
    s.openRecords = (none, s) := by
  rw [openRecords]
  split <;> simp_all

/-- A piece of plaintext at the front of the inbox is opened first. -/
theorem openRecords_of_piece {s : Session} {piece after : Bytes} (hopen : s.peerClosed = false)
    (hsplit : Record.split s.inbox =
      .whole (.sealed s.version s.side.other s.openedCount .applicationData piece) after) :
    s.openRecords = ({ s with
      openedCount := s.openedCount + 1, inbox := after,
      plaintext := s.plaintext ++ piece } : Session).openRecords := by
  have haccept := accept_data s piece
  rw [openRecords]
  split
  · simp_all
  · simp_all
  · rename_i r rest hwhole
    obtain ⟨rfl, rfl⟩ : _ ∧ after = rest := by
      simpa only [Record.Split.whole.injEq] using hsplit.symm.trans hwhole
    split
    · simp_all
    · rename_i t ht
      obtain rfl := Except.ok.inj (haccept.symm.trans ht)
      dsimp only
      rw [if_neg (by rw [hopen]; exact Bool.false_ne_true)]

/-- How far a session gets whose inbox and the ciphertext ahead of it hold a transcript and then
`bad`: what it opens of the transcript goes behind its plaintext, and it stops inside a record, or
behind the transcript. -/
structure Opens (s : Session) (ahead bad rest : Bytes) (n : Nat) (count : Nat)
    (inbox got wire' rest' : Bytes) : Prop where
  opened : s.openRecords = ({ s with
    openedCount := count, inbox, plaintext := s.plaintext ++ got } : Session).openRecords
  carried : rest = got ++ rest'
  transcript : Transcript s.version s.side.other count wire' rest' (.next n)
  all : inbox ++ ahead = wire' ++ bad
  stops : Record.split inbox = .incomplete ∨ wire' = []

/-- A session opens the records of a transcript that have arrived. -/
theorem opens_of_transcript {s : Session} {ahead wire bad rest : Bytes} {n : Nat}
    (hopen : s.peerClosed = false)
    (hwire : Transcript s.version s.side.other s.openedCount wire rest (.next n))
    (hall : s.inbox ++ ahead = wire ++ bad) :
    ∃ count inbox got wire' rest', Opens s ahead bad rest n count inbox got wire' rest' := by
  generalize hversion : s.version = version at hwire
  generalize hside : s.side.other = side at hwire
  generalize hcount : s.openedCount = count at hwire
  generalize htail : Tail.next n = tail at hwire
  induction hwire generalizing s with
  | torn _ => cases htail
  | goodbye _ _ _ => cases htail
  | nil seq =>
    subst hversion hside hcount
    cases htail
    exact ⟨_, s.inbox, [], [], [], by rw [List.append_nil], rfl, .nil _, hall, Or.inr rfl⟩
  | @data seq piece wire plain tail hlen hrest ih =>
    subst hversion hside hcount htail
    by_cases hsplit : Record.split s.inbox = .incomplete
    · exact ⟨_, s.inbox, [], _, _, by rw [List.append_nil], rfl, .data hlen hrest, hall,
        Or.inl hsplit⟩
    · -- What is at the front of all stands at the front of the inbox already.
      have hfront : Record.split (s.inbox ++ ahead) = .whole
          (.sealed s.version s.side.other s.openedCount .applicationData piece) (wire ++ bad) := by
        rw [hall, List.append_assoc, Record.split_encode_sealed_append _ _ _ _ _ hlen]
      rw [Record.split_append ahead hsplit] at hfront
      cases hinbox : Record.split s.inbox with
      | incomplete => exact absurd hinbox hsplit
      | malformed fault => rw [hinbox] at hfront; cases hfront
      | whole r after =>
        rw [hinbox] at hfront
        obtain ⟨rfl, hafter⟩ : r = _ ∧ after ++ ahead = wire ++ bad := by
          simpa only [Record.Split.append, Record.Split.whole.injEq] using hfront
        have hfirst := openRecords_of_piece hopen hinbox
        obtain ⟨count, inbox, got, wire', rest', h⟩ := ih (s := { s with
          openedCount := s.openedCount + 1, inbox := after, plaintext := s.plaintext ++ piece })
          hopen hafter rfl rfl rfl rfl
        refine ⟨count, inbox, piece ++ got, wire', rest', hfirst.trans (h.opened.trans ?_), ?_,
          h.transcript, h.all, h.stops⟩
        · rw [List.append_assoc]
        · rw [h.carried, List.append_assoc]

/-- Reading the stream neither fails a session nor moves its plaintext. -/
theorem readFrom_keeps {σ : Type} [ByteStream σ] {s t : Session} {io io' : σ}
    {r : Except IoError Nat} (h : s.readFrom io = (r, t, io')) :
    t.failure = s.failure ∧ t.plaintext = s.plaintext := by
  unfold readFrom at h
  split at h
  · cases h
    exact ⟨rfl, rfl⟩
  · split at h
    · cases h
      exact ⟨rfl, rfl⟩
    · dsimp only at h
      split at h
      · cases h
        exact ⟨rfl, rfl⟩
      · cases h
        exact ⟨rfl, rfl⟩

/-- A failed session repeats its failure. -/
theorem receive_of_failure {s : Session} {e : Error} (h : s.failure = some e) :
    s.receive = (some e, s) := by
  simp only [receive, h]

/-! ## A session with a bad record ahead -/

/-- A session that is going to hand over `plain` and then to fail with `e`: what it has not opened yet
is what the other end sealed, `wire`, and behind it `bad`, whose first record it refuses. -/
structure Spoiled (s : Session) (ahead plain wire bad : Bytes) (e : Error) : Prop where
  failure : s.failure = none
  live : s.ended = false
  inbox : Record.split s.inbox = .incomplete
  all : s.inbox ++ ahead = wire ++ bad
  carries : ∃ n rest, plain = s.plaintext ++ rest ∧
    Transcript s.version s.side.other s.openedCount wire rest (.next n) ∧
    (opening s.version s.side n).rejection? bad = some e

namespace Spoiled

variable {s t : Session} {bytes ahead plain wire bad : Bytes} {e : Error}

/-- A bad record is ahead as long as the session has not failed. -/
theorem ahead_ne_nil (h : s.Spoiled ahead plain wire bad e) : ahead ≠ [] := by
  rintro rfl
  obtain ⟨n, rest, -, hwire, hbad⟩ := h.carries
  have hall := h.all
  rw [List.append_nil] at hall
  have hinbox := h.inbox
  rw [hall] at hinbox
  cases hwire with
  | nil seq =>
    unfold rejection? at hbad
    rw [List.nil_append] at hinbox
    rw [hinbox] at hbad
    cases hbad
  | data hlen _ =>
    rw [List.append_assoc, Record.split_encode_sealed_append _ _ _ _ _ hlen] at hinbox
    cases hinbox

/-- Once what is in the inbox belongs to the bad record, all good ones are opened. -/
theorem eq_of_inbox (h : s.Spoiled ahead plain wire bad e) {before : Bytes}
    (hinbox : s.inbox = wire ++ before) : wire = [] ∧ plain = s.plaintext := by
  obtain ⟨n, rest, rfl, hwire, -⟩ := h.carries
  have hsplit := h.inbox
  rw [hinbox] at hsplit
  cases hwire with
  | nil seq => exact ⟨rfl, List.append_nil _⟩
  | data hlen _ =>
    rw [List.append_assoc, Record.split_encode_sealed_append _ _ _ _ _ hlen] at hsplit
    cases hsplit

theorem takePlaintext (h : s.Spoiled ahead plain wire bad e) :
    ∃ rest, plain = s.plaintext ++ rest ∧ s.takePlaintext.2.Spoiled ahead rest wire bad e := by
  obtain ⟨n, rest, hplain, hwire, hbad⟩ := h.carries
  exact ⟨rest, hplain, h.failure, h.live, h.inbox, h.all, n, rest, rfl, hwire, hbad⟩

/-- What is going to happen to a session depends on its receiving half alone. -/
theorem congr (h : s.Spoiled ahead plain wire bad e) (heq : t.listening = s.listening) :
    t.Spoiled ahead plain wire bad e := by
  obtain ⟨hversion, hside, hcount, hinbox, hplaintext, hclosed, heof, hfailure⟩ :
      t.version = s.version ∧ t.side = s.side ∧ t.openedCount = s.openedCount ∧
        t.inbox = s.inbox ∧ t.plaintext = s.plaintext ∧ t.peerClosed = s.peerClosed ∧
        t.sawEof = s.sawEof ∧ t.failure = s.failure := by
    simpa [listening] using heq
  obtain ⟨n, rest, hplain, hwire, hbad⟩ := h.carries
  refine ⟨hfailure.trans h.failure, ?_, ?_, ?_, n, rest, ?_, ?_, ?_⟩
  · rw [ended, hclosed, heof]
    exact h.live
  · rw [hinbox]
    exact h.inbox
  · rw [hinbox]
    exact h.all
  · rw [hplaintext]
    exact hplain
  · rw [hversion, hside, hcount]
    exact hwire
  · rw [hversion, hside]
    exact hbad

/-- Opening what has arrived either leaves the bad record ahead, or fails on it and leaves all the
plaintext to its reader.  It fails only when the bad record, or enough of it, has arrived. -/
theorem receive (room : Nat) (h : s.Spoiled (bytes ++ ahead) plain wire bad e) (hne : bytes ≠ []) :
    (∃ t wire', ({ s with
          inboxRoom := room, inbox := s.inbox ++ bytes,
          sawEof := bytes.isEmpty } : Session).receive = (none, t) ∧
        t.Spoiled ahead plain wire' bad e) ∨
      ∃ t inbox, ({ s with
          inboxRoom := room, inbox := s.inbox ++ bytes,
          sawEof := bytes.isEmpty } : Session).receive = (some e, t) ∧
        t.failure = some e ∧ t.plaintext = plain ∧
        inbox ++ ahead = bad ∧ Record.split inbox ≠ .incomplete := by
  obtain ⟨n, rest, rfl, hwire, hbad⟩ := h.carries
  obtain ⟨hclosed, heof⟩ : s.peerClosed = false ∧ s.sawEof = false := by
    simpa [ended] using h.live
  have hempty : bytes.isEmpty = false := List.isEmpty_eq_false_iff.2 hne
  have hall : (s.inbox ++ bytes) ++ ahead = wire ++ bad := by
    rw [List.append_assoc]
    exact h.all
  obtain ⟨count, inbox, got, wire', rest', hopens⟩ := opens_of_transcript
    (s := { s with inboxRoom := room, inbox := s.inbox ++ bytes, sawEof := bytes.isEmpty })
    hclosed hwire hall
  have hreceive : ({ s with
      inboxRoom := room, inbox := s.inbox ++ bytes,
      sawEof := bytes.isEmpty } : Session).receive = ({ s with
        openedCount := count, inbox, inboxRoom := room, plaintext := s.plaintext ++ got,
        sawEof := bytes.isEmpty } : Session).openRecords := by
    simp only [Session.receive, h.failure]
    simpa only [h.failure] using hopens.opened
  rw [hreceive]
  have hcarried := hopens.carried
  by_cases hsplit : Record.split inbox = .incomplete
  · refine Or.inl ⟨_, wire', openRecords_of_incomplete hsplit, h.failure, ?_, hsplit, hopens.all,
      n, rest', ?_, hopens.transcript, hbad⟩
    · simp [ended, hclosed, hempty]
    · rw [hcarried, List.append_assoc]
  · have hnil : wire' = [] := hopens.stops.resolve_left hsplit
    have hbad' := hopens.all
    have htranscript := hopens.transcript
    rw [hnil] at htranscript hbad'
    cases htranscript with
    | nil seq =>
      rw [List.nil_append] at hbad'
      rw [← hbad', rejection?_of_append hsplit] at hbad
      obtain ⟨t, hopened, hfailure, hplaintext⟩ := openRecords_of_rejection
        (s := { s with
          openedCount := n, inbox, inboxRoom := room, plaintext := s.plaintext ++ got,
          sawEof := bytes.isEmpty })
        (rejection?_eq_some_congr.2 hbad)
      refine Or.inr ⟨t, inbox, hopened, hfailure, ?_, hbad', hsplit⟩
      rw [hplaintext, hcarried, List.append_nil]

/-- A read that brings what shows the bad record fails the session. -/
theorem receive_of_shown {shown hidden : Bytes} (room : Nat)
    (h : s.Spoiled (bytes ++ ahead) plain wire (shown ++ hidden) e) (hne : bytes ≠ [])
    (hshown : s.inbox ++ bytes = wire ++ shown) (hsplit : Record.split shown ≠ .incomplete) :
    ∃ t, ({ s with
          inboxRoom := room, inbox := s.inbox ++ bytes,
          sawEof := bytes.isEmpty } : Session).receive = (some e, t) ∧
        t.failure = some e ∧ t.plaintext = plain := by
  have hall := h.all
  rw [← List.append_assoc, hshown, List.append_assoc] at hall
  have hahead : ahead = hidden := List.append_cancel_left (List.append_cancel_left hall)
  rcases h.receive room hne with ⟨t, wire', -, ht⟩ | ⟨t, inbox, ht, hfailure, hplaintext, -, -⟩
  · -- The inbox would hold all that shows the bad record, and nothing else.
    have hleft := ht.all
    rw [hahead, ← List.append_assoc] at hleft
    have hinbox := List.append_cancel_right hleft
    rw [(ht.eq_of_inbox hinbox).1, List.nil_append] at hinbox
    rw [← hinbox] at hsplit
    exact absurd ht.inbox hsplit
  · exact ⟨t, ht, hfailure, hplaintext⟩

end Spoiled

end PinnedLink.Session
