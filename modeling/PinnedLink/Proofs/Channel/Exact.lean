import PinnedLink.Proofs.Channel.Blocking
import PinnedLink.Proofs.Channel.Receiving
import PinnedLink.Proofs.Channel.Rejection
import PinnedLink.Proofs.Session.Carried

/-!
# Receiving takes what is there and nothing else

The plaintext that a channel holds and nobody has read stands in its buffer and in its session
(`unread`).  A call of `recv` adds to it what the session opens of the ciphertext that the call has read
(`Session.obtained`), and takes off its front the encoding of the message that it hands out
(`ReceivesExactly`).  A call that hands out none takes nothing and leaves the caller's message alone.

The message that was handed out is within the bound and its lengths agree, so the channel takes it
back, byte for byte as it was read, unless the session has failed in the meantime
(`received_and_refused`).
-/

namespace PinnedLink

open PinnedLink.Frame (Message)
open Schedule (putBack)

namespace Session

/-! ## What a session obtains -/

/-- What a session opens of what several reads give it: nothing without a read, and nothing once it
has failed. -/
def obtained (s : Session) (reads : List Bytes) : Bytes :=
  match s.failure, reads with
  | none, first :: more =>
    carried s.version s.side.other s.openedCount (s.inbox ++ (first :: more).flatten)
  | _, _ => []

@[simp] theorem obtained_nil (s : Session) : s.obtained [] = [] := by
  unfold obtained
  split
  · rename_i h
    cases h
  · rfl

theorem obtained_of_failure {s : Session} {e : Error} (h : s.failure = some e)
    (reads : List Bytes) : s.obtained reads = [] := by
  simp only [obtained, h]

theorem obtained_cons {s : Session} (h : s.failure = none) (first : Bytes) (more : List Bytes) :
    s.obtained (first :: more) =
      carried s.version s.side.other s.openedCount (s.inbox ++ (first :: more).flatten) := by
  simp only [obtained, h]

/-- The receiving half of a session, apart from the plaintext at hand and the end of the stream. -/
structure SameInbox (s t : Session) : Prop where
  version : t.version = s.version
  side : t.side = s.side
  openedCount : t.openedCount = s.openedCount
  inbox : t.inbox = s.inbox
  failure : t.failure = s.failure

theorem SameInbox.of_listening {s t : Session} (h : t.listening = s.listening) : SameInbox s t where
  version := congrArg Listening.version h
  side := congrArg Listening.side h
  openedCount := congrArg Listening.openedCount h
  inbox := congrArg Listening.inbox h
  failure := congrArg Listening.failure h

theorem SameInbox.obtained_eq {s t : Session} (h : SameInbox s t) (reads : List Bytes) :
    t.obtained reads = s.obtained reads := by
  simp only [obtained, h.version, h.side, h.openedCount, h.inbox, h.failure]

/-- A session whose inbox has got some bytes more. -/
def filled (s : Session) (room : Nat) (bytes : Bytes) (eof : Bool) : Session :=
  { s with inboxRoom := room, inbox := s.inbox ++ bytes, sawEof := eof }

/-- What one read of a session in use does to it. -/
theorem readFrom_logged {σ : Type} [ByteStream σ] {s t : Session} {io io' : Logged σ}
    {r : Except IoError Nat} (hopen : s.peerClosed = false) (h : s.readFrom io = (r, t, io')) :
    ∃ calls, io'.calls = io.calls ++ calls ∧
      ((∃ e, r = .error e ∧ given calls = [] ∧ SameInbox s t ∧ t.plaintext = s.plaintext) ∨
        ∃ n room bytes eof, r = .ok n ∧ given calls = [bytes] ∧ t = s.filled room bytes eof) := by
  unfold readFrom at h
  rw [if_neg (by rw [hopen]; exact Bool.false_ne_true)] at h
  split at h
  · cases h
    exact ⟨[], (List.append_nil _).symm, Or.inl ⟨_, rfl, rfl, ⟨rfl, rfl, rfl, rfl, rfl⟩, rfl⟩⟩
  · dsimp only at h
    split at h
    · rename_i bytes io'' hread
      cases h
      exact ⟨_, Logged.calls_read hread, Or.inr ⟨_, _, bytes, _, rfl, rfl, rfl⟩⟩
    · rename_i e io'' hread
      cases h
      exact ⟨_, Logged.calls_read hread,
        Or.inl ⟨e, rfl, rfl, ⟨rfl, rfl, rfl, rfl, rfl⟩, rfl⟩⟩

/-- What a session opens of one read is what its inbox then carries. -/
theorem obtained_one {s : Session} (h : s.failure = none) (bytes : Bytes) :
    s.obtained [bytes] = carried s.version s.side.other s.openedCount (s.inbox ++ bytes) := by
  rw [obtained_cons h, List.flatten_cons, List.flatten_nil, List.append_nil]

/-- Opening what a read has brought puts behind the plaintext what was obtained. -/
theorem plaintext_receive {s t : Session} {room : Nat} {bytes : Bytes} {eof : Bool}
    {failure : Option Error} (hopen : s.peerClosed = false)
    (h : (s.filled room bytes eof).receive = (failure, t)) :
    t.plaintext = s.plaintext ++ s.obtained [bytes] := by
  cases hfailure : s.failure with
  | some e =>
    rw [receive_of_failure (s := s.filled room bytes eof) hfailure] at h
    cases h
    rw [obtained_of_failure hfailure, List.append_nil]
    rfl
  | none =>
    have hplain := plaintext_openRecords (s := s.filled room bytes eof) hopen
    have hrecords : (s.filled room bytes eof).openRecords = (failure, t) := by
      simpa only [receive, filled, hfailure] using h
    rw [hrecords] at hplain
    rw [obtained_one hfailure]
    exact hplain

/-- Unless opening what a read has brought ends the session, what later reads bring is obtained as a
part of the whole. -/
theorem obtained_append {s t : Session} {room : Nat} {bytes : Bytes} {eof : Bool}
    (hopen : s.peerClosed = false) (h : (s.filled room bytes eof).receive = (none, t))
    {more : List Bytes} (hmore : t.peerClosed = true → more = []) :
    s.obtained (bytes :: more) = s.obtained [bytes] ++ t.obtained more := by
  cases hfailure : s.failure with
  | some e =>
    rw [receive_of_failure (s := s.filled room bytes eof) hfailure] at h
    cases h
  | none =>
    have hrecords : (s.filled room bytes eof).openRecords = (none, t) := by
      simpa only [receive, filled, hfailure] using h
    obtain ⟨-, -, hkept, happend⟩ :=
      resumes_of_openRecords (s := s.filled room bytes eof) hopen hrecords
    rcases more with _ | ⟨first, more⟩
    · rw [obtained_nil, List.append_nil]
    · have hlive : t.peerClosed = false := by
        cases hclosed : t.peerClosed with
        | false => rfl
        | true => cases hmore hclosed
      rw [obtained_one hfailure, obtained_cons hfailure, obtained_cons (hkept.trans hfailure),
        List.flatten_cons, ← List.append_assoc]
      exact happend hlive _

end Session

namespace Channel

variable {σ : Type} [ByteStream σ]

/-! ## What is unread -/

omit [ByteStream σ] in
/-- The plaintext that nobody has read yet: what has gathered in the buffer, and what the session has
opened. -/
def unread (c : Channel σ) : Bytes := c.received ++ c.session.plaintext

omit [ByteStream σ] in
/-- The unread plaintext of a channel together with what it obtains in several calls of its stream. -/
def atHand (c : Channel (Logged σ)) (calls : List StreamCall) : Bytes :=
  c.unread ++ c.session.obtained (given calls)

omit [ByteStream σ] in
theorem atHand_of_given_nil {c : Channel (Logged σ)} {calls : List StreamCall}
    (h : given calls = []) : c.atHand calls = c.unread := by
  rw [atHand, h, Session.obtained_nil, List.append_nil]

/-- A drain reads nothing. -/
theorem Drain.given_eq_nil {queue left : Bytes} {calls : List StreamCall}
    {result : Except TransportError FlushStatus} (h : Drain queue calls left result) :
    given calls = [] := by
  induction h with
  | drained => rfl
  | goes _ _ _ ih => exact ih
  | stops _ _ => rfl

/-- What one pull makes of a channel `c`: a channel `d`, behind the calls `calls` of the stream. -/
structure Obtains (c : Channel (Logged σ)) (r : Except TransportError Pull)
    (calls : List StreamCall) (d : Channel (Logged σ)) : Prop where
  log : d.stream.calls = c.stream.calls ++ calls
  /-- Nothing is read behind the end. -/
  ended : c.session.ended = true → given calls = []
  /-- What was obtained is unread. -/
  unread : d.unread = c.atHand calls
  /-- What is obtained later is obtained as a part of the whole. -/
  goesOn : r = .ok .progress → ∀ more, (d.session.ended = true → given more = []) →
    c.atHand (calls ++ more) = d.atHand more
  eof : r = .ok .eof → d.session.plaintext = []

omit [ByteStream σ] in
/-- A pull that reads nothing moves plaintext at most. -/
theorem Obtains.of_same {c d : Channel (Logged σ)} {r : Except TransportError Pull}
    {calls : List StreamCall} (hcalls : d.stream.calls = c.stream.calls ++ calls)
    (hgiven : given calls = []) (hinbox : Session.SameInbox c.session d.session)
    (hunread : d.unread = c.unread) (heof : r = .ok .eof → d.session.plaintext = []) :
    Obtains c r calls d where
  log := hcalls
  ended _ := hgiven
  unread := hunread.trans (atHand_of_given_nil hgiven).symm
  goesOn _ more _ := by
    rw [atHand, atHand, given_append, hgiven, List.nil_append, hunread, hinbox.obtained_eq]
  eof := heof

/-- Flushing reads nothing and leaves the receiving half of the session. -/
theorem flush_keeps (c : Channel (Logged σ)) :
    ∃ calls, c.flush.2.stream.calls = c.stream.calls ++ calls ∧ given calls = [] ∧
      c.flush.2.session.listening = c.session.listening ∧ c.flush.2.received = c.received := by
  obtain ⟨calls, left, hflush, hdrain⟩ := flush_drains c
  rw [hflush]
  exact ⟨calls, rfl, hdrain.given_eq_nil, rfl, rfl⟩

omit [ByteStream σ] in
/-- A session that is not over was not closed by the other end. -/
theorem peerClosed_of_live {c : Channel σ} (h : c.session.ended = false) :
    c.session.peerClosed = false := by
  rw [Session.ended, Bool.or_eq_false_iff] at h
  exact h.1

/-- A read obtains what the session opens of it. -/
theorem opened_obtains {c : Channel (Logged σ)} {n : Nat} {s t : Session} {stream : Logged σ}
    {failure : Option Session.Error} (hlive : c.session.ended = false)
    (hread : c.session.readFrom c.stream = (.ok n, s, stream))
    (hreceive : s.receive = (failure, t)) :
    ∃ calls, Obtains c (verdict failure) calls (flush { c with session := t, stream }).2 := by
  have hopen := peerClosed_of_live hlive
  obtain ⟨calls, hcalls, ⟨_, hok, -⟩ | ⟨_, room, bytes, eof, -, hgiven, rfl⟩⟩ :=
    Session.readFrom_logged hopen hread
  · cases hok
  obtain ⟨writes, hwrites, hnothing, hlistening, hreceived⟩ :=
    flush_keeps { c with session := t, stream }
  generalize (flush { c with session := t, stream }).2 = flushed at *
  have hplain : flushed.session.plaintext = t.plaintext :=
    congrArg Session.Listening.plaintext hlistening
  have hclosed : flushed.session.peerClosed = t.peerClosed :=
    congrArg Session.Listening.peerClosed hlistening
  have hgiven' : given (calls ++ writes) = [bytes] := by rw [given_append, hgiven, hnothing]; rfl
  have hunread : flushed.unread = c.atHand (calls ++ writes) := by
    rw [unread, hplain, hreceived, Session.plaintext_receive hopen hreceive, ← List.append_assoc,
      atHand, hgiven', unread]
  refine ⟨calls ++ writes, ?_, fun hended => ?_, hunread, fun hr more hmore => ?_, fun hr => ?_⟩
  · rw [hwrites, hcalls, List.append_assoc]
  · cases hlive.symm.trans hended
  · -- What is obtained later is opened by a session that has met no bad record.
    cases failure with
    | none =>
      have hended (h : t.peerClosed = true) : given more = [] := by
        refine hmore ?_
        rw [Session.ended, hclosed, h]
        rfl
      rw [atHand, atHand, hunread, atHand, given_append, hgiven', List.append_assoc,
        (Session.SameInbox.of_listening hlistening).obtained_eq, List.singleton_append,
        Session.obtained_append hopen hreceive hended]
    | some e => cases hr
  · cases failure <;> cases hr

/-- A pull obtains what the session opens of what it reads. -/
theorem pull_obtains {c d : Channel (Logged σ)} {r : Except TransportError Pull}
    (h : c.pull = (r, d)) : ∃ calls, Obtains c r calls d := by
  cases pull_pulls h with
  | handed hne =>
    refine ⟨[], .of_same (List.append_nil _).symm rfl ⟨rfl, rfl, rfl, rfl, rfl⟩ ?_ nofun⟩
    rw [unread, unread, Session.takePlaintext, List.append_nil]
  | exhausted hnone hended =>
    exact ⟨[], .of_same (List.append_nil _).symm rfl ⟨rfl, rfl, rfl, rfl, rfl⟩ rfl fun _ => hnone⟩
  | refused hnone hlive hread =>
    obtain ⟨calls, hcalls, ⟨_, -, hgiven, hinbox, hplain⟩ | ⟨_, _, _, _, herror, -⟩⟩ :=
      Session.readFrom_logged (peerClosed_of_live hlive) hread
    · refine ⟨calls, .of_same hcalls hgiven hinbox ?_ fun _ => hplain.trans hnone⟩
      rw [unread, unread, hplain]
    · cases herror
  | opened _ hlive hread hreceive => exact opened_obtains hlive hread hreceive

/-- Behind the end of a session there is only what is at hand. -/
theorem ended_of_progress {c d : Channel (Logged σ)} (h : c.pull = (.ok .progress, d))
    (hended : c.session.ended = true) : d.session.ended = true := by
  generalize hr : (.ok .progress : Except TransportError Pull) = r at h
  cases pull_pulls h with
  | handed => exact hended
  | exhausted => cases hr
  | refused _ hlive => cases hlive.symm.trans hended
  | opened _ hlive => cases hlive.symm.trans hended

/-! ## What a call of `recv` hands out -/

/-- What a call of `recv` by a user with the message `m` makes of the plaintext `all`: what it returns,
what it leaves unread, and the message that the user then has. -/
inductive Hands (maxBodyLen : Nat) (all : Bytes) (m : Message) :
    Except TransportError RecvOutcome → Bytes → Message → Prop where
  | received {m' : Message} {left : Bytes} (hall : m'.encode ++ left = all)
    (hadmits : Admits maxBodyLen m') :
    Hands maxBodyLen all m (.ok (.received m'.bodyLen)) left m'
  /-- The beginning of a frame is discarded with the end of the stream. -/
  | closed : Hands maxBodyLen all m (.ok .closed) [] m
  | empty : Hands maxBodyLen all m (.ok .empty) all m
  | failed (e : TransportError) : Hands maxBodyLen all m (.error e) all m

/-- A call of `recv` deals with what is at hand in one of these ways, whatever it has obtained. -/
theorem recv_hands (c : Channel (Logged σ)) (m : Message) :
    ∃ calls, (c.recv m).2.1.stream.calls = c.stream.calls ++ calls ∧
      (c.session.ended = true → given calls = []) ∧
      Hands c.maxBodyLen (c.atHand calls) m (c.recv m).1 (c.recv m).2.1.unread (c.recv m).2.2 := by
  -- What a pass obtains and what the passes behind it obtain adds up by `Obtains.goesOn`.
  refine recv_induction m (motive := fun c r d m' => ∃ calls,
    d.stream.calls = c.stream.calls ++ calls ∧ (c.session.ended = true → given calls = []) ∧
      Hands c.maxBodyLen (c.atHand calls) m r d.unread m')
    ?bad ?frame ?failed ?idle ?eof ?progress c
  case bad =>
    intro c e _
    refine ⟨[], (List.append_nil _).symm, fun _ => rfl, ?_⟩
    rw [atHand_of_given_nil rfl]
    exact .failed e
  case frame =>
    intro c m' rest hfront
    obtain ⟨hreceived, hvalid, hle⟩ := eq_encode_append_of_front hfront
    refine ⟨[], (List.append_nil _).symm, fun _ => rfl, ?_⟩
    rw [atHand_of_given_nil rfl]
    refine .received ?_ ⟨hvalid, hle⟩
    rw [unread, unread, hreceived, List.append_assoc]
  case failed =>
    intro c d e _ hpull
    obtain ⟨calls, hobtains⟩ := pull_obtains hpull
    rw [hobtains.unread]
    exact ⟨calls, hobtains.log, hobtains.ended, .failed e⟩
  case idle =>
    intro c d _ hpull
    obtain ⟨calls, hobtains⟩ := pull_obtains hpull
    rw [hobtains.unread]
    exact ⟨calls, hobtains.log, hobtains.ended, .empty⟩
  case eof =>
    intro c d _ hpull
    obtain ⟨calls, hobtains⟩ := pull_obtains hpull
    refine ⟨calls, hobtains.log, hobtains.ended, ?_⟩
    rw [unread, hobtains.eof rfl]
    exact .closed
  case progress =>
    rintro c d r f m' _ hpull ⟨more, hmore, hended, hhands⟩
    obtain ⟨calls, hobtains⟩ := pull_obtains hpull
    rw [maxBodyLen_pull hpull, ← hobtains.goesOn rfl more hended] at hhands
    refine ⟨calls ++ more, ?_, fun hover => ?_, hhands⟩
    · rw [hmore, hobtains.log, List.append_assoc]
    · have hcalls := hobtains.ended hover
      rw [given_append, hcalls, hended (ended_of_progress hpull hover), List.nil_append]

/-- What a call of `recv` on a channel `c` by a user with the message `m` does, if it makes the calls
`calls` of the stream, returns `r` and leaves the channel `d` and the message `m'`. -/
structure ReceivesExactly (c : Channel (Logged σ)) (m : Message) (calls : List StreamCall)
    (r : Except TransportError RecvOutcome) (d : Channel (Logged σ)) (m' : Message) : Prop where
  log : d.stream.calls = c.stream.calls ++ calls
  /-- Without a message to hand out, that of the caller stays as it was. -/
  untouched : (∀ n, r ≠ .ok (.received n)) → m' = m
  /-- The message and what is left are what was at hand. -/
  exact : ∀ n, r = .ok (.received n) → m'.encode ++ d.unread = c.atHand calls
  lengths : ∀ n, r = .ok (.received n) →
    n = m'.bodyLen ∧ m'.body.length = n ∧ n ≤ c.maxBodyLen ∧ m'.validate = .ok ()
  /-- The channel takes the message back as the frame that was read, unless its session has failed. -/
  goesBack : ∀ n, r = .ok (.received n) → d.session.failure = none →
    ∃ count wire, d.queue m' =
        (.ok (8 + n),
          { d with session := { d.session with
                                sealedCount := count, outbox := d.session.outbox ++ wire } }) ∧
      Session.Transcript d.session.version d.session.side d.session.sealedCount wire
        ((c.atHand calls).take (8 + n)) (.next count)
  /-- A session that has failed gives its failure for an answer. -/
  refused : ∀ n e, r = .ok (.received n) → d.session.failure = some e →
    d.queue m' = (.error (.sendFailed (.session e)), d)
  /-- What is at hand and makes no message stays. -/
  kept : (r = .ok .empty ∨ ∃ e, r = .error e) → d.unread = c.atHand calls
  /-- Nothing is unread behind the end of the stream. -/
  discarded : r = .ok .closed → d.unread = []

omit [ByteStream σ] in
/-- A message that was handed out goes back as it came. -/
theorem ReceivesExactly.of_received {c d : Channel (Logged σ)} {m m' : Message}
    {calls : List StreamCall} (hlog : d.stream.calls = c.stream.calls ++ calls)
    (hmax : d.maxBodyLen = c.maxBodyLen) (hall : m'.encode ++ d.unread = c.atHand calls)
    (hadmits : Admits c.maxBodyLen m') :
    ReceivesExactly c m calls (.ok (.received m'.bodyLen)) d m' where
  log := hlog
  untouched h := absurd rfl (h m'.bodyLen)
  exact _ _ := hall
  lengths n h := by
    cases h
    exact ⟨rfl, (admits_iff.1 hadmits).1, hadmits.2, hadmits.1⟩
  goesBack n h hfailure := by
    cases h
    have hlength := length_encode hadmits.1
    rw [← hmax] at hadmits
    obtain ⟨count, wire, hqueue, hsaid⟩ := queue_of_admits hadmits hfailure
    refine ⟨count, wire, ?_, ?_⟩
    · rw [hqueue, hlength]
    · rw [← hall, ← hlength, List.take_left]
      exact hsaid
  refused n e _ hfailure := by
    rw [← hmax] at hadmits
    exact queue_of_failure hadmits hfailure
  kept h := by
    obtain h | ⟨_, h⟩ := h <;> cases h
  discarded h := by cases h

/-- A call of `recv` hands out what is at the front of the plaintext at hand, exactly, or leaves the
caller's message alone. -/
theorem recv_exact (c : Channel (Logged σ)) (m : Message) :
    ∃ calls, ReceivesExactly c m calls (c.recv m).1 (c.recv m).2.1 (c.recv m).2.2 := by
  obtain ⟨calls, hlog, -, hhands⟩ := recv_hands c m
  have hmax := maxBodyLen_recv c m
  refine ⟨calls, ?_⟩
  generalize c.recv m = call at hlog hhands hmax
  obtain ⟨r, d, m'⟩ := call
  dsimp only at hlog hhands hmax ⊢
  generalize hleft : d.unread = left at hhands
  cases hhands with
  | received hall hadmits => exact .of_received hlog hmax (hleft.symm ▸ hall) hadmits
  | closed =>
    refine ⟨hlog, fun _ => rfl, nofun, nofun, nofun, nofun, fun h => ?_, fun _ => hleft⟩
    obtain h | ⟨e, h⟩ := h <;> cases h
  | empty => exact ⟨hlog, fun _ => rfl, nofun, nofun, nofun, nofun, fun _ => hleft, nofun⟩
  | failed e => exact ⟨hlog, fun _ => rfl, nofun, nofun, nofun, nofun, fun _ => hleft, nofun⟩

/-- A channel that has read a message together with the garbage behind it. -/
def afterPing : Channel Schedule :=
  ((new (.established .tls13 .server) (bringing (putBack (pingRecord ++ garbage) [])) 16).recv
    (.new 0)).2.1

theorem failed_afterPing : Failed garbled afterPing [ping] ∧ afterPing.maxBodyLen = 16 := by
  let s := Session.established .tls13 .server
  let atOnce := bringing (putBack (pingRecord ++ garbage) [])
  have hspoiled : s.Spoiled atOnce.ahead ping.encode pingRecord (garbage ++ []) garbled := by
    rw [List.append_nil]
    apply spoiled_bringing
    rw [Schedule.flatMap_putBack, List.flatMap_nil, List.append_nil]
  have hread : atOnce.read (s.nextRoom - s.inbox.length) = (.ok (pingRecord ++ garbage), _) :=
    Schedule.read_putBack rfl (List.cons_ne_nil _ _) (by decide)
  obtain ⟨d, hrecv, hfailed, hmax, -⟩ :=
    failed_of_read hspoiled carries_ping rfl hread rfl nofun
  have hafter : afterPing = d := congrArg (fun call => call.2.1) (hrecv (.new 0))
  rw [hafter]
  exact ⟨hfailed, hmax⟩

/-- A message that the channel hands out and does not take back: its session has failed. -/
theorem received_and_refused :
    (afterPing.recv (.new 0)).1 = .ok (.received 4) ∧ (afterPing.recv (.new 0)).2.2 = ping ∧
      Admits (afterPing.recv (.new 0)).2.1.maxBodyLen ping ∧
      (afterPing.recv (.new 0)).2.1.queue ping =
        (.error (.sendFailed (.session garbled)), (afterPing.recv (.new 0)).2.1) := by
  obtain ⟨hfailed, hmax⟩ := failed_afterPing
  obtain ⟨first, rest, htodo, hreport, hleft⟩ | ⟨htodo, -⟩ := hfailed.step (.new 0)
  · obtain ⟨rfl, rfl⟩ := List.cons.inj htodo
    have hbound := maxBodyLen_recv afterPing (.new 0)
    generalize afterPing.recv (.new 0) = call at hreport hleft hbound ⊢
    obtain ⟨r, d, m⟩ := call
    have hadmits : Admits d.maxBodyLen ping := by
      rw [show d.maxBodyLen = 16 from hbound.trans hmax]
      decide
    obtain ⟨hreceived, hping⟩ := received_of_report hreport
    exact ⟨hreceived, hping, hadmits, queue_of_failure hadmits hleft.failure⟩
  · cases htodo

end Channel

end PinnedLink
