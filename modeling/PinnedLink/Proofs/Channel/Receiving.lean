import PinnedLink.Proofs.Channel.Sending

/-!
# What receiving does to a channel

`recv_induction` opens the loop of `recv` once: each pass either answers by the front of the buffer,
or pulls.  `Pulled` lists what one pull can do, and `Pulled.advance` says what a pull leaves of all
that the channel was going to hear: the same, unless the stream reports its end too early.

`recv_answers` puts the two together.  A call of `recv` answers by the front of everything that the
channel hears (`Answers`), however much of it has arrived, and what it leaves is what stands behind.
-/

namespace PinnedLink

open PinnedLink.Frame (Message)
open Session (Transcript Tail)
open ByteStream (Reaches EndSeen Refuses)

namespace Channel

variable {σ : Type}

/-! ## The loop of `recv` -/

section Loop

variable [ByteStream σ]

/-- What one pass of `recv` does. -/
theorem recv_eq (c : Channel σ) (m : Message) :
    c.recv m = match front c.maxBodyLen c.received with
      | .bad e => (.error e, c, m)
      | .frame m' rest => (.ok (.received m'.bodyLen), { c with received := rest }, m')
      | .unfinished =>
        match c.pull with
        | (.error e, d) => (.error e, d, m)
        | (.ok .progress, d) => d.recv m
        | (.ok .idle, d) => (.ok .empty, d, m)
        | (.ok .eof, d) => (.ok .closed, { d with received := [] }, m) := by
  rw [recv, takeFrame_eq]
  cases front c.maxBodyLen c.received with
  | bad e => rfl
  | frame m' rest => rfl
  | unfinished =>
    dsimp only
    rcases hpull : c.pull with ⟨_ | _ | _ | _, d⟩
    all_goals split <;> simp_all

/-- What holds of a call of `recv` if every pass that answers makes it so and every pass that goes on
keeps it. -/
theorem recv_induction (m : Message)
    {motive : Channel σ → Except TransportError RecvOutcome → Channel σ → Message → Prop}
    (bad : ∀ c e, front c.maxBodyLen c.received = .bad e → motive c (.error e) c m)
    (frame : ∀ c m' rest, front c.maxBodyLen c.received = .frame m' rest →
      motive c (.ok (.received m'.bodyLen)) { c with received := rest } m')
    (failed : ∀ c d e, front c.maxBodyLen c.received = .unfinished → c.pull = (.error e, d) →
      motive c (.error e) d m)
    (idle : ∀ c d, front c.maxBodyLen c.received = .unfinished → c.pull = (.ok .idle, d) →
      motive c (.ok .empty) d m)
    (eof : ∀ c d, front c.maxBodyLen c.received = .unfinished → c.pull = (.ok .eof, d) →
      motive c (.ok .closed) { d with received := [] } m)
    (progress : ∀ c d r f m', front c.maxBodyLen c.received = .unfinished →
      c.pull = (.ok .progress, d) → motive d r f m' → motive c r f m')
    (c : Channel σ) : motive c (c.recv m).1 (c.recv m).2.1 (c.recv m).2.2 := by
  rw [recv_eq]
  cases hfront : front c.maxBodyLen c.received with
  | bad e => exact bad c e hfront
  | frame m' rest => exact frame c m' rest hfront
  | unfinished =>
    dsimp only
    rcases hpull : c.pull with ⟨e | _ | _ | _, d⟩
    · exact failed c d e hfront hpull
    · exact progress c d _ _ _ hfront hpull
        (recv_induction m bad frame failed idle eof progress d)
    · exact idle c d hfront hpull
    · exact eof c d hfront hpull
termination_by c.recvMeasure
decreasing_by exact recvMeasure_lt_of_pull hpull

end Loop

/-! ## One pull -/

section Pulling

variable [ByteStream σ]

/-- What a pull reports of a read that failed. -/
def refusal (e : IoError) : Except TransportError Pull :=
  if e.kind = .wouldBlock then .ok .idle
  else if e.kind = .interrupted then .ok .progress
  else .error (.recvFailed e)

/-- What a pull reports once the session has opened what a read gave. -/
def verdict : Option Session.Error → Except TransportError Pull
  | none => .ok .progress
  | some e => .error (.recvFailed (.session e))

/-- What a pull can do to a channel, seen from its session. -/
inductive Pulls (c : Channel σ) : Except TransportError Pull → Channel σ → Prop
  /-- The session had plaintext at hand. -/
  | handed (hne : c.session.plaintext ≠ []) :
    Pulls c (.ok .progress)
      { c with session := c.session.takePlaintext.2, received := c.received ++ c.session.plaintext }
  /-- There was none and there will be none. -/
  | exhausted (hnone : c.session.plaintext = []) (hended : c.session.ended = true) :
    Pulls c (.ok .eof) c
  /-- The session could not read. -/
  | refused {e : IoError} {s : Session} {stream : σ} (hnone : c.session.plaintext = [])
    (hopen : c.session.ended = false)
    (hread : c.session.readFrom c.stream = (.error e, s, stream)) :
    Pulls c (refusal e) { c with session := s, stream }
  /-- The session has read, and opened what it could. -/
  | opened {n : Nat} {s t : Session} {stream : σ} {failure : Option Session.Error}
    (hnone : c.session.plaintext = []) (hopen : c.session.ended = false)
    (hread : c.session.readFrom c.stream = (.ok n, s, stream))
    (hreceive : s.receive = (failure, t)) :
    Pulls c (verdict failure) (flush { c with session := t, stream }).2

/-- Every channel pulls in one of these ways. -/
theorem pull_pulls {c d : Channel σ} {r : Except TransportError Pull} (h : c.pull = (r, d)) :
    Pulls c r d := by
  unfold pull at h
  dsimp only [Session.takePlaintext] at h
  by_cases hplain : c.session.plaintext = []
  · rw [if_neg (not_not_intro hplain)] at h
    cases hended : c.session.ended with
    | true =>
      rw [hended, if_pos rfl] at h
      cases h
      exact .exhausted hplain hended
    | false =>
      rw [hended, if_neg Bool.false_ne_true] at h
      unfold fetch at h
      rcases hread : c.session.readFrom c.stream with ⟨e | n, s, stream⟩
      · have hrefused := Pulls.refused hplain hended hread
        unfold refusal at hrefused
        rw [hread] at h
        dsimp only at h
        split_ifs at h hrefused
        all_goals
          cases h
          exact hrefused
      · rcases hreceive : s.receive with ⟨failure, t⟩
        have hopened := Pulls.opened hplain hended hread hreceive
        rw [hread] at h
        dsimp only at h
        rw [hreceive] at h
        cases failure
        all_goals
          cases h
          exact hopened
  · rw [if_pos hplain] at h
    cases h
    exact .handed hplain

/-- What a pull can do to a channel, seen from its stream. -/
inductive Pulled (c : Channel σ) : Except TransportError Pull → Channel σ → Prop
  /-- The session had plaintext at hand. -/
  | handed (hne : c.session.plaintext ≠ []) :
    Pulled c (.ok .progress)
      { c with session := c.session.takePlaintext.2, received := c.received ++ c.session.plaintext }
  /-- There was none and there will be none. -/
  | exhausted (hnone : c.session.plaintext = []) (hended : c.session.ended = true) :
    Pulled c (.ok .eof) c
  /-- The stream gave nothing. -/
  | refused {room : Nat} {e : IoError} {stream : σ} (hnone : c.session.plaintext = [])
    (hopen : c.session.ended = false) (hroom : c.session.inbox.length < room)
    (hread : ByteStream.read c.stream (room - c.session.inbox.length) = (.error e, stream)) :
    Pulled c (refusal e) { c with session := { c.session with inboxRoom := room }, stream }
  /-- The stream gave bytes, or its end, and the session took them. -/
  | opened {room : Nat} {bytes : Bytes} {stream : σ} {t : Session}
    (hnone : c.session.plaintext = []) (hopen : c.session.ended = false)
    (hroom : c.session.inbox.length < room)
    (hread : ByteStream.read c.stream (room - c.session.inbox.length) = (.ok bytes, stream))
    (hreceive : ({ c.session with
        inboxRoom := room, inbox := c.session.inbox ++ bytes,
        sawEof := bytes.isEmpty } : Session).receive = (none, t)) :
    Pulled c (.ok .progress) (flush { c with session := t, stream }).2
  /-- The stream gave bytes, or its end, and the session failed. -/
  | failed {room : Nat} {bytes : Bytes} {stream : σ} {t : Session} {e : Session.Error}
    (hnone : c.session.plaintext = []) (hopen : c.session.ended = false)
    (hroom : c.session.inbox.length < room)
    (hread : ByteStream.read c.stream (room - c.session.inbox.length) = (.ok bytes, stream))
    (hreceive : ({ c.session with
        inboxRoom := room, inbox := c.session.inbox ++ bytes,
        sawEof := bytes.isEmpty } : Session).receive = (some e, t)) :
    Pulled c (.error (.recvFailed (.session e))) (flush { c with session := t, stream }).2

/-- A channel whose inbox is unfinished while its session is open pulls in one of these ways. -/
theorem pull_pulled {c : Channel σ}
    (h : c.session.ended = false → Session.Record.split c.session.inbox = .incomplete) :
    Pulled c c.pull.1 c.pull.2 := by
  rcases hpull : c.pull with ⟨r, d⟩
  dsimp only
  cases pull_pulls hpull with
  | handed hne => exact .handed hne
  | exhausted hnone hended => exact .exhausted hnone hended
  | refused hnone hopen hread =>
    have hroom := Session.length_inbox_lt_nextRoom (h hopen)
    rw [Session.readFrom_eq c.stream hopen (h hopen)] at hread
    split at hread
    · cases hread
    · rename_i hread'
      cases hread
      exact .refused hnone hopen hroom hread'
  | @opened n s t stream failure hnone hopen hread hreceive =>
    have hroom := Session.length_inbox_lt_nextRoom (h hopen)
    rw [Session.readFrom_eq c.stream hopen (h hopen)] at hread
    split at hread
    · rename_i hread'
      cases hread
      cases failure with
      | none => exact .opened hnone hopen hroom hread' hreceive
      | some e => exact .failed hnone hopen hroom hread' hreceive
    · cases hread

/-- Flushing leaves the receive buffer and the bound as they are. -/
theorem flush_buffer (c : Channel σ) :
    c.flush.2.received = c.received ∧ c.flush.2.maxBodyLen = c.maxBodyLen := by
  fun_induction flush c with
  | case1 | case2 | case4 | case6 => exact ⟨rfl, rfl⟩
  | case3 _ _ _ _ _ ih => exact ih
  | case5 _ _ _ _ _ _ _ ih => exact ih

/-- Receiving leaves the bound as it is. -/
theorem maxBodyLen_pull {c d : Channel σ} {r : Except TransportError Pull} (h : c.pull = (r, d)) :
    d.maxBodyLen = c.maxBodyLen := by
  cases pull_pulls h with
  | handed | exhausted | refused => rfl
  | opened => exact (flush_buffer _).2

theorem maxBodyLen_recv (c : Channel σ) (m : Message) :
    (c.recv m).2.1.maxBodyLen = c.maxBodyLen := by
  refine recv_induction m (motive := fun c _ d _ => d.maxBodyLen = c.maxBodyLen)
    ?bad ?frame ?failed ?idle ?eof ?progress c
  case bad => exact fun _ _ _ => rfl
  case frame => exact fun _ _ _ _ => rfl
  case failed => exact fun _ _ _ _ hpull => maxBodyLen_pull hpull
  case idle => exact fun _ _ _ hpull => maxBodyLen_pull hpull
  case eof =>
    intro c d _ hpull
    have hmax := maxBodyLen_pull hpull
    exact hmax
  case progress => exact fun _ _ _ _ _ _ hpull ih => ih.trans (maxBodyLen_pull hpull)

theorem flush_reaches (c : Channel σ) : Reaches c.stream c.flush.2.stream := by
  fun_induction flush c with
  | case1 c _ => exact .refl
  | case2 c _ stream h => exact .of_write h
  | case3 c _ n stream h ih => exact (Reaches.of_write h).trans ih
  | case4 c _ e stream h _ => exact .of_write h
  | case5 c _ e stream h _ _ ih => exact (Reaches.of_write h).trans ih
  | case6 c _ e stream h _ _ => exact .of_write h

end Pulling

/-! ## What a channel hears -/

variable [LosslessStream σ]

/-- What a channel hands over once it has read what is ahead on its stream and then `later`: the
plaintext `plain`, which leaves off as `tail` says.  What has gathered in the buffer is part of it. -/
def Hears (c : Channel σ) (later plain : Bytes) (tail : Tail) : Prop :=
  ∃ rest, plain = c.received ++ rest ∧
    c.session.Hears (LosslessStream.ahead c.stream ++ later) rest tail

namespace Hears

variable {c d : Channel σ} {later plain : Bytes} {tail : Tail}

/-- What a channel hears depends on its receiving half alone. -/
theorem congr (h : c.Hears later plain tail) (heq : d.inward = c.inward) :
    d.Hears later plain tail := by
  obtain ⟨hsession, hahead, hreceived, -⟩ := inward_eq_iff.1 heq
  obtain ⟨rest, hplain, hrest⟩ := h
  refine ⟨rest, by rw [hreceived, hplain], ?_⟩
  rw [hahead]
  exact hrest.congr hsession

/-- While the session is open, its inbox is unfinished. -/
theorem split_inbox (h : c.Hears later plain tail) (hopen : c.session.ended = false) :
    Session.Record.split c.session.inbox = .incomplete := by
  obtain ⟨rest, -, hrest⟩ := h
  cases hrest with
  | spent _ hended _ => rw [hopen] at hended; cases hended
  | live _ _ _ hinbox _ _ => exact hinbox

/-- What stands in the buffer stands at the front of all that is heard. -/
theorem front_of_frame (h : c.Hears later plain tail) {max : Nat} {m : Message} {rest : Bytes}
    (hfront : front max c.received = .frame m rest) :
    ∃ rest', front max plain = .frame m rest' ∧
      ({ c with received := rest } : Channel σ).Hears later rest' tail := by
  obtain ⟨more, rfl, hmore⟩ := h
  exact ⟨rest ++ more, front_append_of_frame hfront more, more, rfl, hmore⟩

theorem front_of_bad (h : c.Hears later plain tail) {max : Nat} {e : TransportError}
    (hfront : front max c.received = .bad e) : front max plain = .bad e := by
  obtain ⟨more, rfl, -⟩ := h
  exact front_append_of_bad hfront more

/-- A session that is over and has handed everything over leaves what is in the buffer. -/
theorem eq_received (h : c.Hears later plain tail) (hended : c.session.ended = true)
    (hnone : c.session.plaintext = []) : plain = c.received := by
  obtain ⟨rest, rfl, hrest⟩ := h
  cases hrest with
  | spent _ _ hplain => rw [hplain, hnone, List.append_nil]
  | live _ _ hopen _ _ _ => rw [hended] at hopen; cases hopen

/-- An open session that has nothing at hand and nothing ahead leaves what is in the buffer, and has
not heard a goodbye. -/
theorem eq_received_of_open (h : c.Hears later plain tail) (hopen : c.session.ended = false)
    (hnone : c.session.plaintext = []) (hahead : LosslessStream.ahead c.stream ++ later = []) :
    plain = c.received ∧ tail ≠ .goodbye := by
  obtain ⟨rest, rfl, hrest⟩ := h
  cases hrest with
  | spent _ hended _ => rw [hopen] at hended; cases hended
  | live more _ _ hinbox hplain hmore =>
    rw [hahead, List.append_nil] at hmore
    obtain ⟨hnil, hbye, -⟩ := hmore.of_incomplete hinbox
    exact ⟨by rw [hplain, hnone, hnil, List.append_nil, List.append_nil], hbye⟩

end Hears

/-! ## What a pull leaves to be heard -/

/-- Receiving took a channel `c` that was going to hear `plain` to a channel `d`, with `plain'` left
of it. -/
structure Advance (later : Bytes) (tail : Tail) (c : Channel σ) (plain : Bytes) (d : Channel σ)
    (plain' : Bytes) : Prop where
  /-- Only what is cut off behind an early end of the stream is lost. -/
  lost : ∃ lost, plain = plain' ++ lost ∧
    (d.session.sawEof = false ∨ later = [] ∧ LosslessStream.EndsHonestly σ → lost = [])
  outward : d.outward = c.outward
  maxBodyLen : d.maxBodyLen = c.maxBodyLen
  reaches : Reaches c.stream d.stream
  /-- Only a goodbye closes the session. -/
  peerClosed : d.session.peerClosed = true → c.session.peerClosed = true ∨ tail = .goodbye
  /-- Only the end of the stream is taken for its end. -/
  sawEof : d.session.sawEof = true → c.session.sawEof = true ∨ EndSeen c.stream
  staysClosed : c.session.peerClosed = true → d.session.peerClosed = true
  staysEof : c.session.sawEof = true → d.session.sawEof = true

namespace Advance

variable {c d e : Channel σ} {later plain plain' plain'' : Bytes} {tail : Tail}

/-- What leaves both ends of the session as they are takes nothing from what is heard. -/
theorem of_same (houtward : d.outward = c.outward) (hmax : d.maxBodyLen = c.maxBodyLen)
    (hclosed : d.session.peerClosed = c.session.peerClosed)
    (heof : d.session.sawEof = c.session.sawEof) (hreaches : Reaches c.stream d.stream) :
    Advance later tail c plain d plain where
  lost := ⟨[], (List.append_nil _).symm, fun _ => rfl⟩
  outward := houtward
  maxBodyLen := hmax
  reaches := hreaches
  peerClosed h := Or.inl (hclosed.symm.trans h)
  sawEof h := Or.inl (heof.symm.trans h)
  staysClosed h := hclosed.trans h
  staysEof h := heof.trans h

theorem trans (h : Advance later tail c plain d plain')
    (h' : Advance later tail d plain' e plain'') : Advance later tail c plain e plain'' where
  lost := by
    obtain ⟨lost, rfl, hlost⟩ := h.lost
    obtain ⟨lost', rfl, hlost'⟩ := h'.lost
    refine ⟨lost' ++ lost, List.append_assoc _ _ _, fun hkept => ?_⟩
    have hopen : e.session.sawEof = false → d.session.sawEof = false := fun he =>
      Bool.eq_false_iff.2 fun hd => Bool.eq_false_iff.1 he (h'.staysEof hd)
    rw [hlost' hkept, hlost (hkept.imp_left hopen), List.append_nil]
  outward := h'.outward.trans h.outward
  maxBodyLen := h'.maxBodyLen.trans h.maxBodyLen
  reaches := h.reaches.trans h'.reaches
  peerClosed hclosed := by
    rcases h'.peerClosed hclosed with hd | hbye
    · exact h.peerClosed hd
    · exact Or.inr hbye
  sawEof heof := by
    rcases h'.sawEof heof with hd | hseen
    · exact h.sawEof hd
    · exact Or.inr (hseen.of_reaches h.reaches)
  staysClosed hclosed := h'.staysClosed (h.staysClosed hclosed)
  staysEof heof := h'.staysEof (h.staysEof heof)

/-- Only a goodbye or the end of the stream ends the session. -/
theorem ended (h : Advance later tail c plain d plain') (hended : d.session.ended = true) :
    c.session.ended = true ∨ tail = .goodbye ∨ EndSeen c.stream := by
  rw [Session.ended, Bool.or_eq_true] at hended ⊢
  rcases hended with hclosed | heof
  · rcases h.peerClosed hclosed with hc | hbye
    · exact Or.inl (Or.inl hc)
    · exact Or.inr (Or.inl hbye)
  · rcases h.sawEof heof with hc | hseen
    · exact Or.inl (Or.inr hc)
    · exact Or.inr (Or.inr hseen)

theorem stays (h : Advance later tail c plain d plain') (hended : c.session.ended = true) :
    d.session.ended = true := by
  rw [Session.ended, Bool.or_eq_true] at hended ⊢
  exact hended.imp h.staysClosed h.staysEof

end Advance

namespace Pulled

variable {c d : Channel σ} {later plain : Bytes} {tail : Tail}

/-- Opening what a read gave takes nothing from what is heard, unless the read reports an end that is
none. -/
theorem advance_opened {room : Nat} {bytes : Bytes} {stream : σ} {t : Session}
    {failure : Option Session.Error} (h : c.Hears later plain tail)
    (hopen : c.session.ended = false) (hroom : c.session.inbox.length < room)
    (hread : ByteStream.read c.stream (room - c.session.inbox.length) = (.ok bytes, stream))
    (hreceive : ({ c.session with
        inboxRoom := room, inbox := c.session.inbox ++ bytes,
        sawEof := bytes.isEmpty } : Session).receive = (failure, t)) :
    failure = none ∧ ∃ plain',
      Advance later tail c plain (flush { c with session := t, stream }).2 plain' ∧
      (flush { c with session := t, stream }).2.Hears later plain' tail := by
  have hpos : 0 < room - c.session.inbox.length := Nat.sub_pos_of_lt hroom
  have hahead := LosslessStream.ahead_read_ok hread
  obtain ⟨rest, rfl, hrest⟩ := h
  rw [hahead, List.append_assoc] at hrest
  obtain ⟨t', ht', hspeaking, heof, hbye, rest', lost, rfl, hhears, hlost⟩ :=
    hrest.receive room hopen
  rw [hreceive, Prod.mk.injEq] at ht'
  obtain ⟨rfl, rfl⟩ := ht'
  have hflush := flush_inbound { c with session := t, stream }
  have hinward := flush_inward { c with session := t, stream }
  have hlistening : (flush { c with session := t, stream }).2.session.listening = t.listening :=
    congrArg Inward.session hinward
  have hclosed : (flush { c with session := t, stream }).2.session.peerClosed = t.peerClosed :=
    congrArg Session.Listening.peerClosed hlistening
  obtain ⟨hnotClosed, hnotEof⟩ : c.session.peerClosed = false ∧ c.session.sawEof = false := by
    simpa [Session.ended] using hopen
  have heof' : (flush { c with session := t, stream }).2.session.sawEof = bytes.isEmpty :=
    hflush.2.1.trans heof
  refine ⟨rfl, c.received ++ rest', ?_,
    Hears.congr (c := { c with session := t, stream }) ⟨rest', rfl, hhears⟩ hinward⟩
  constructor
  case lost =>
    refine ⟨lost, (List.append_assoc _ _ _).symm, ?_⟩
    rw [heof']
    rintro (hmore | ⟨rfl, hhonest⟩)
    · exact hlost (Or.inl fun hnil => by rw [hnil] at hmore; cases hmore)
    · rcases bytes with _ | ⟨b, more⟩
      · rw [hhonest hpos hread] at hahead
        refine hlost (Or.inr ?_)
        rw [List.append_nil]
        exact hahead.symm
      · exact hlost (Or.inl (List.cons_ne_nil _ _))
  case outward =>
    have houtbox : t.outbox = c.session.outbox := congrArg Session.Speaking.outbox hspeaking
    rw [flush_outward]
    simp only [outward, LosslessStream.sent_of_read hread, hspeaking, houtbox]
  case maxBodyLen => exact congrArg Inward.maxBodyLen hinward
  case reaches => exact (Reaches.of_read hread).trans (flush_reaches { c with session := t, stream })
  case peerClosed =>
    intro hpeer
    exact Or.inr (hbye (hclosed.symm.trans hpeer))
  case sawEof =>
    intro hseen
    have hnil : bytes = [] := List.isEmpty_iff.1 (heof'.symm.trans hseen)
    rw [hnil] at hread
    exact Or.inr ⟨c.stream, stream, _, .refl, hpos, hread⟩
  case staysClosed => exact fun hpeer => absurd (hnotClosed.symm.trans hpeer) Bool.false_ne_true
  case staysEof => exact fun hseen => absurd (hnotEof.symm.trans hseen) Bool.false_ne_true

/-- A pull keeps what is heard, unless the stream reports an end that is none. -/
theorem advance {r : Except TransportError Pull} (h : c.Hears later plain tail)
    (hpulled : Pulled c r d) :
    ∃ plain', Advance later tail c plain d plain' ∧ d.Hears later plain' tail := by
  cases hpulled with
  | handed _ =>
    obtain ⟨rest, rfl, hrest⟩ := h
    obtain ⟨rest', rfl, hrest'⟩ := hrest.takePlaintext
    refine ⟨c.received ++ (c.session.plaintext ++ rest'), .of_same rfl rfl rfl rfl .refl,
      rest', ?_, hrest'⟩
    rw [List.append_assoc]
  | exhausted _ _ => exact ⟨plain, .of_same rfl rfl rfl rfl .refl, h⟩
  | refused _ _ _ hread =>
    refine ⟨plain, .of_same ?_ rfl rfl rfl (.of_read hread), h.congr ?_⟩
    · simp only [outward, LosslessStream.sent_of_read hread]
      rfl
    · simp only [inward, LosslessStream.ahead_read_error hread]
      rfl
  | opened _ hopen hroom hread hreceive =>
    exact (advance_opened h hopen hroom hread hreceive).2
  | failed _ hopen hroom hread hreceive =>
    cases (advance_opened h hopen hroom hread hreceive).1

/-- A pull finds the stream over when the session is over and has nothing at hand. -/
theorem of_eof (h : Pulled c (.ok .eof) d) :
    d = c ∧ c.session.plaintext = [] ∧ c.session.ended = true := by
  generalize hr : (Except.ok Pull.eof : Except TransportError Pull) = r at h
  cases h with
  | exhausted hnone hended => exact ⟨rfl, hnone, hended⟩
  | refused _ _ _ _ => unfold refusal at hr; split_ifs at hr <;> cases hr
  | handed _ => cases hr
  | opened _ _ _ _ _ => cases hr
  | failed _ _ _ _ _ => cases hr

/-- A pull is idle when an open session with nothing at hand finds the stream blocked. -/
theorem of_idle (h : Pulled c (.ok .idle) d) :
    d.received = c.received ∧ d.session.plaintext = [] ∧ d.session.ended = false ∧
      ∃ e : IoError, e.kind = .wouldBlock ∧ Refuses c.stream e d.stream := by
  generalize hr : (Except.ok Pull.idle : Except TransportError Pull) = r at h
  cases h with
  | refused hnone hopen _ hread =>
    unfold refusal at hr
    split_ifs at hr with hblock hintr
    · exact ⟨rfl, hnone, hopen, _, hblock, c.stream, _, .refl, hread⟩
    · cases hr
  | exhausted _ _ => cases hr
  | handed _ => cases hr
  | opened _ _ _ _ _ => cases hr
  | failed _ _ _ _ _ => cases hr

/-- A pull of a channel that hears its peer fails only when the stream does. -/
theorem of_error {x : TransportError} (hhears : c.Hears later plain tail)
    (h : Pulled c (.error x) d) :
    ∃ e : IoError, x = .recvFailed e ∧ e.kind ≠ .wouldBlock ∧ e.kind ≠ .interrupted ∧
      Refuses c.stream e d.stream := by
  generalize hr : (Except.error x : Except TransportError Pull) = r at h
  cases h with
  | refused hnone hopen _ hread =>
    unfold refusal at hr
    split_ifs at hr with hblock hintr
    cases hr
    exact ⟨_, rfl, hblock, hintr, c.stream, _, .refl, hread⟩
  | failed _ hopen hroom hread hreceive =>
    cases (advance_opened hhears hopen hroom hread hreceive).1
  | exhausted _ _ => cases hr
  | handed _ => cases hr
  | opened _ _ _ _ _ => cases hr

end Pulled

/-! ## What a call of `recv` answers -/

/-- What a call of `recv` answers on a stream that was `start`, when there was `plain` to be heard:
the result, and the channel and the message that it leaves. -/
inductive Answers (start : σ) (maxBodyLen : Nat) (later plain : Bytes) (tail : Tail) (m : Message) :
    Except TransportError RecvOutcome → Channel σ → Message → Prop
  /-- A frame stood at the front. -/
  | received {m' : Message} {rest : Bytes} {d : Channel σ}
    (hfront : front maxBodyLen plain = .frame m' rest) (h : d.Hears later rest tail) :
    Answers start maxBodyLen later plain tail m (.ok (.received m'.bodyLen)) d m'
  /-- A bad header stood at the front, and stays there. -/
  | bad {e : TransportError} {d : Channel σ}
    (hfront : front maxBodyLen plain = .bad e) (h : d.Hears later plain tail) :
    Answers start maxBodyLen later plain tail m (.error e) d m
  /-- There was less than a frame, and nothing more to come. -/
  | closed {d : Channel σ}
    (hfront : front maxBodyLen plain = .unfinished) (hended : d.session.ended = true)
    (h : d.Hears later [] tail) :
    Answers start maxBodyLen later plain tail m (.ok .closed) d m
  /-- Less than a frame had arrived when the stream blocked. -/
  | empty {e : IoError} {d : Channel σ}
    (hfront : front maxBodyLen d.received = .unfinished) (hnone : d.session.plaintext = [])
    (hopen : d.session.ended = false) (hkind : e.kind = .wouldBlock)
    (hrefuses : Refuses start e d.stream) (h : d.Hears later plain tail) :
    Answers start maxBodyLen later plain tail m (.ok .empty) d m
  /-- The stream failed. -/
  | refused {e : IoError} {d : Channel σ}
    (hblock : e.kind ≠ .wouldBlock) (hintr : e.kind ≠ .interrupted)
    (hrefuses : Refuses start e d.stream) (h : d.Hears later plain tail) :
    Answers start maxBodyLen later plain tail m (.error (.recvFailed e)) d m

/-- A call of `recv` answers by the front of all that the channel hears, and leaves the rest to be
heard. -/
theorem recv_answers {c : Channel σ} {later plain : Bytes} {tail : Tail}
    (h : c.Hears later plain tail) (m : Message) :
    ∃ plain', Advance later tail c plain (c.recv m).2.1 plain' ∧
      Answers c.stream c.maxBodyLen later plain' tail m (c.recv m).1 (c.recv m).2.1
        (c.recv m).2.2 := by
  refine recv_induction m (motive := fun c' r d m' => ∀ plain, Reaches c.stream c'.stream →
    c'.maxBodyLen = c.maxBodyLen → c'.Hears later plain tail →
    ∃ plain', Advance later tail c' plain d plain' ∧
      Answers c.stream c.maxBodyLen later plain' tail m r d m') ?bad ?frame ?failed ?idle ?eof
    ?progress c plain .refl rfl h
  case bad =>
    intro c' e hfront plain _ hmax h
    rw [hmax] at hfront
    exact ⟨plain, .of_same rfl rfl rfl rfl .refl, .bad (h.front_of_bad hfront) h⟩
  case frame =>
    intro c' m' rest hfront plain _ hmax h
    rw [hmax] at hfront
    obtain ⟨rest', hfront', h'⟩ := h.front_of_frame hfront
    exact ⟨plain, .of_same rfl rfl rfl rfl .refl, .received hfront' h'⟩
  case failed =>
    intro c' d e hfront hpull plain hreaches _ h
    have hpulled := pull_pulled h.split_inbox
    rw [hpull] at hpulled
    obtain ⟨plain', hadvance, h'⟩ := hpulled.advance h
    obtain ⟨e, rfl, hblock, hintr, hrefuses⟩ := Pulled.of_error h hpulled
    exact ⟨plain', hadvance, .refused hblock hintr (hrefuses.of_reaches hreaches) h'⟩
  case idle =>
    intro c' d hfront hpull plain hreaches hmax h
    have hpulled := pull_pulled h.split_inbox
    rw [hpull] at hpulled
    obtain ⟨plain', hadvance, h'⟩ := hpulled.advance h
    obtain ⟨hreceived, hnone, hopen, e, hkind, hrefuses⟩ := hpulled.of_idle
    rw [← hreceived, hmax] at hfront
    exact ⟨plain', hadvance,
      .empty hfront hnone hopen hkind (hrefuses.of_reaches hreaches) h'⟩
  case eof =>
    intro c' d hfront hpull plain hreaches hmax h
    have hpulled := pull_pulled h.split_inbox
    rw [hpull] at hpulled
    obtain ⟨rfl, hnone, hended⟩ := hpulled.of_eof
    have hplain := h.eq_received hended hnone
    rw [← hplain, hmax] at hfront
    obtain ⟨rest, hrest, hsession⟩ := h
    have hnil : rest = [] := List.self_eq_append_right.1 (hplain.symm.trans hrest)
    exact ⟨plain, .of_same rfl rfl rfl rfl .refl,
      .closed hfront hended ⟨rest, hnil.symm, hsession⟩⟩
  case progress =>
    intro c' d r f m' hfront hpull ih plain hreaches hmax h
    have hpulled := pull_pulled h.split_inbox
    rw [hpull] at hpulled
    obtain ⟨plain', hadvance, h'⟩ := hpulled.advance h
    obtain ⟨plain'', hadvance', hanswers⟩ := ih plain' (hreaches.trans hadvance.reaches)
      (hadvance.maxBodyLen.trans hmax) h'
    exact ⟨plain'', hadvance.trans hadvance', hanswers⟩

end Channel

end PinnedLink
