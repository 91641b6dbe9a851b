import PinnedLink.Proofs.Channel.Failure
import PinnedLink.Proofs.Channel.Flow
import PinnedLink.Proofs.Channel.Reference
import PinnedLink.Proofs.Session.Rejection

/-!
# Messages ahead of a bad record

A channel whose peer's messages are followed by a bad record loses none of them, but it may report its
failure too early.  All that one read brings is opened at once, and if the bad record is among it, the
failure comes first: the messages that came with it are handed out by the calls that follow
(`tells_of_read`).  So where the failure stands among the messages is a matter of how the stream is
cut into reads (`reports_new_spoiled`); it stands behind all of them if no read takes the end of the
last one together with what shows the bad record to be bad (`Schedule.Apart`).

`Doomed` is a channel that has the bad record ahead and `Failed` one that has met it; `Doomed.step`
and `Failed.step` say what one call of `recv` makes of each.
-/

namespace PinnedLink

open PinnedLink.Frame (Message)
open Session (Spoiled)
open Schedule (putBack)

/-! ## Reads that are kept apart -/

namespace Schedule

/-- No read takes some of the last bytes `far` together with what is ahead of them. -/
def Apart (s : Schedule) (far : Bytes) : Prop :=
  ∃ front back, s.arrivals = front ++ back ∧ back.flatMap Arrival.bytes = far

theorem putBack_append (bytes : Bytes) (front back : List Arrival) :
    putBack bytes (front ++ back) = putBack bytes front ++ back := by
  cases bytes <;> rfl

theorem Apart.ahead {s : Schedule} {far : Bytes} (h : s.Apart far) :
    ∃ near, s.ahead = near ++ far := by
  obtain ⟨front, back, harrivals, rfl⟩ := h
  refine ⟨front.flatMap Arrival.bytes, ?_⟩
  rw [Schedule.ahead, harrivals, List.flatMap_append]

/-- A read that is refused keeps bytes apart. -/
theorem Apart.of_read_error {s t : Schedule} {max : Nat} {e : IoError} {far : Bytes}
    (h : s.Apart far) (hread : s.read max = (.error e, t)) : t.Apart far := by
  obtain ⟨front, back, harrivals, hfar⟩ := h
  rcases read_cases hread with ⟨e', rest, hfault, -, rfl⟩ | ⟨first, more, rest, -, he, -⟩ |
    ⟨-, rfl, -⟩
  · rw [hfault] at harrivals
    rcases front with _ | ⟨a, front⟩
    · rw [List.nil_append] at harrivals
      refine ⟨[], rest, rfl, ?_⟩
      rw [← hfar, ← harrivals]
      rfl
    · rw [List.cons_append, List.cons.injEq] at harrivals
      exact ⟨front, back, harrivals.2, hfar⟩
  · cases he
  · exact ⟨front, back, harrivals, hfar⟩

/-- A read that gives bytes keeps the last ones apart, unless nothing else was ahead. -/
theorem Apart.of_read_ok {s t : Schedule} {max : Nat} {bytes far : Bytes} (h : s.Apart far)
    (hread : s.read max = (.ok bytes, t)) : s.ahead = far ∨ t.Apart far := by
  obtain ⟨front, back, harrivals, hfar⟩ := h
  rcases read_cases hread with ⟨e', rest, -, he, -⟩ | ⟨first, more, rest, hchunk, -, rfl⟩ |
    ⟨-, rfl, -⟩
  · cases he
  · rcases front with _ | ⟨a, front⟩
    · left
      rw [Schedule.ahead, harrivals, List.nil_append, hfar]
    · right
      rw [hchunk, List.cons_append, List.cons.injEq] at harrivals
      refine ⟨putBack ((first :: more).drop max) front, back, ?_, hfar⟩
      rw [harrivals.2]
      exact putBack_append _ front back
  · exact Or.inr ⟨front, back, harrivals, hfar⟩

/-- A read that asks for enough takes all bytes that arrive together. -/
theorem read_putBack {s : Schedule} {bytes : Bytes} {rest : List Arrival} {max : Nat}
    (harrivals : s.arrivals = putBack bytes rest) (hne : bytes ≠ []) (hmax : bytes.length ≤ max) :
    s.read max = (.ok bytes, { s with arrivals := rest }) := by
  rcases bytes with _ | ⟨first, more⟩
  · exact absurd rfl hne
  · unfold read
    rw [harrivals]
    show (Except.ok ((first :: more).take max),
      { s with arrivals := putBack ((first :: more).drop max) rest }) = _
    rw [List.take_of_length_le hmax, List.drop_of_length_le hmax]
    rfl

/-- Writing changes nothing about what the reads meet. -/
theorem arrivals_of_wrote {s t : Schedule} {bytes : Bytes} (h : ByteStream.Wrote s bytes t) :
    t.arrivals = s.arrivals := by
  induction h with
  | refl => rfl
  | @took _ offered t u _ _ hwrite ih =>
    have harrivals := (arrivals_write t offered).1
    rw [show t.write offered = _ from hwrite] at harrivals
    exact harrivals.trans ih
  | @refused _ offered t u _ _ hwrite ih =>
    have harrivals := (arrivals_write t offered).1
    rw [show t.write offered = _ from hwrite] at harrivals
    exact harrivals.trans ih

end Schedule

namespace Channel

/-! ## Frames at the front -/

/-- Plaintext that carries messages within a bound, and less than a frame behind them. -/
structure Carries (maxBodyLen : Nat) (todo : List Message) (plain : Bytes) : Prop where
  admits : ∀ m ∈ todo, Admits maxBodyLen m
  torn : ∃ torn, front maxBodyLen torn = .unfinished ∧ plain = frames todo ++ torn

namespace Carries

variable {maxBodyLen : Nat} {todo : List Message} {m : Message} {plain more rest : Bytes}
  {e : TransportError}

theorem front_cons (h : Carries maxBodyLen (m :: todo) plain) :
    ∃ rest, front maxBodyLen plain = .frame m rest ∧ Carries maxBodyLen todo rest := by
  obtain ⟨torn, htorn, rfl⟩ := h.torn
  obtain ⟨hvalid, hbound⟩ := h.admits m List.mem_cons_self
  refine ⟨frames todo ++ torn, ?_, fun m' hm' => h.admits m' (List.mem_cons_of_mem _ hm'), torn,
    htorn, rfl⟩
  rw [frames_cons, List.append_assoc, front_encode_append maxBodyLen hvalid,
    if_neg (Nat.not_lt.2 hbound)]

theorem front_nil (h : Carries maxBodyLen [] plain) : front maxBodyLen plain = .unfinished := by
  obtain ⟨torn, htorn, rfl⟩ := h.torn
  exact htorn

/-- Nothing bad stands at the front of messages. -/
theorem not_bad (h : Carries maxBodyLen todo (plain ++ more)) :
    front maxBodyLen plain ≠ .bad e := by
  intro hbad
  have hfront := front_append_of_bad hbad more
  cases todo with
  | nil =>
    rw [h.front_nil] at hfront
    cases hfront
  | cons m todo =>
    obtain ⟨rest, hframe, -⟩ := h.front_cons
    rw [hframe] at hfront
    cases hfront

/-- A frame that has arrived is the first message. -/
theorem of_frame (h : Carries maxBodyLen todo (plain ++ more))
    (hfront : front maxBodyLen plain = .frame m rest) :
    ∃ todo', todo = m :: todo' ∧ Carries maxBodyLen todo' (rest ++ more) := by
  have hall := front_append_of_frame hfront more
  cases todo with
  | nil =>
    rw [h.front_nil] at hall
    cases hall
  | cons first todo =>
    obtain ⟨rest', hframe, hrest⟩ := h.front_cons
    rw [hframe] at hall
    cases hall
    exact ⟨todo, rfl, hrest⟩

/-- If no frame has arrived with all that there is, there is no message. -/
theorem eq_nil (h : Carries maxBodyLen todo plain)
    (hfront : front maxBodyLen plain = .unfinished) : todo = [] := by
  cases todo with
  | nil => rfl
  | cons m todo =>
    obtain ⟨rest, hframe, -⟩ := h.front_cons
    rw [hframe] at hfront
    cases hfront

end Carries

/-! ## A channel whose session has failed -/

/-- The report hands out a message. -/
def Report.isReceived : Report → Bool
  | .received _ _ => true
  | _ => false

/-- The report of a message. -/
def Report.ofMessage (m : Message) : Report := .received m.bodyLen m

/-- A channel whose session has failed, and that still has the messages `todo` to hand out. -/
structure Failed (e : Session.Error) (c : Channel Schedule) (todo : List Message) : Prop where
  failure : c.session.failure = some e
  carries : Carries c.maxBodyLen todo (c.received ++ c.session.plaintext)

namespace Failed

variable {e : Session.Error} {c d : Channel Schedule} {todo : List Message}

/-- What a failed channel still has depends on its receiving half alone. -/
theorem of_inward (h : Failed e c todo) (heq : d.inward = c.inward) : Failed e d todo := by
  obtain ⟨hsession, -, hreceived, hmax⟩ := inward_eq_iff.1 heq
  have hfailure : d.session.failure = c.session.failure :=
    congrArg Session.Listening.failure hsession
  have hplaintext : d.session.plaintext = c.session.plaintext :=
    congrArg Session.Listening.plaintext hsession
  refine ⟨hfailure.trans h.failure, ?_⟩
  rw [hmax, hreceived, hplaintext]
  exact h.carries

/-- A read leaves what a failed channel still has. -/
theorem of_read (h : Failed e c todo) {r : Except IoError Nat} {s : Session} {stream : Schedule}
    (hread : c.session.readFrom c.stream = (r, s, stream)) :
    Failed e { c with session := s, stream } todo := by
  obtain ⟨hfailure, hplaintext⟩ := Session.readFrom_keeps hread
  refine ⟨hfailure.trans h.failure, ?_⟩
  show Carries c.maxBodyLen todo (c.received ++ s.plaintext)
  rw [hplaintext]
  exact h.carries

/-- A pull of a failed channel moves what is at hand, and brings nothing more. -/
theorem pull (h : Failed e c todo) :
    Failed e c.pull.2 todo ∧
      (c.session.plaintext ≠ [] ∧ c.pull.1 = .ok .progress ∨
        c.session.plaintext = [] ∧ c.pull.2.session.plaintext = []) := by
  rcases hpull : c.pull with ⟨r, d⟩
  dsimp only
  cases pull_pulls hpull with
  | handed hne =>
    refine ⟨⟨h.failure, ?_⟩, Or.inl ⟨hne, rfl⟩⟩
    show Carries c.maxBodyLen todo (c.received ++ c.session.plaintext ++ [])
    rw [List.append_nil]
    exact h.carries
  | exhausted hnone => exact ⟨h, Or.inr ⟨hnone, hnone⟩⟩
  | refused hnone _ hread =>
    exact ⟨h.of_read hread, Or.inr ⟨hnone, (Session.readFrom_keeps hread).2.trans hnone⟩⟩
  | @opened n s t stream failure hnone _ hread hreceive =>
    -- With nothing at hand, a read cannot bring anything: what it gives is passed over.
    have hd := h.of_read hread
    have hnothing : s.plaintext = [] := (Session.readFrom_keeps hread).2.trans hnone
    rw [Session.receive_of_failure hd.failure] at hreceive
    cases hreceive
    have hinward := flush_inward { c with session := s, stream }
    have hlistening := congrArg Inward.session hinward
    exact ⟨hd.of_inward hinward,
      Or.inr ⟨hnone, (congrArg Session.Listening.plaintext hlistening).trans hnothing⟩⟩

/-- A pull that does not make progress finds that there is no message any more. -/
theorem eq_nil_of_pull (h : Failed e c todo) (hfront : front c.maxBodyLen c.received = .unfinished)
    (hpull : c.pull.1 ≠ .ok .progress) : todo = [] := by
  obtain ⟨-, ⟨-, hprogress⟩ | ⟨hnone, -⟩⟩ := h.pull
  · exact absurd hprogress hpull
  · have hcarries := h.carries
    rw [hnone, List.append_nil] at hcarries
    exact hcarries.eq_nil hfront

/-- A call of `recv` hands out the next message that a failed channel still has, or finds that there
is none. -/
theorem step (h : Failed e c todo) (m : Message) :
    (∃ first rest, todo = first :: rest ∧
        report? (c.recv m).1 (c.recv m).2.2 = some (.ofMessage first) ∧
        Failed e (c.recv m).2.1 rest) ∨
      (todo = [] ∧ (∀ r ∈ report? (c.recv m).1 (c.recv m).2.2, r.isReceived = false) ∧
        Failed e (c.recv m).2.1 []) := by
  refine recv_induction m (motive := fun c r d m' => Failed e c todo →
    (∃ first rest, todo = first :: rest ∧ report? r m' = some (.ofMessage first) ∧
        Failed e d rest) ∨
      (todo = [] ∧ (∀ report ∈ report? r m', report.isReceived = false) ∧ Failed e d []))
    ?bad ?frame ?failed ?idle ?eof ?progress c h
  case bad =>
    intro c e' hfront h
    exact absurd hfront h.carries.not_bad
  case frame =>
    intro c m' rest hfront h
    obtain ⟨todo', rfl, hrest⟩ := h.carries.of_frame hfront
    exact Or.inl ⟨m', todo', rfl, rfl, h.failure, hrest⟩
  case failed =>
    intro c d e' hfront hpull h
    have hnil := h.eq_nil_of_pull hfront (by rw [hpull]; exact nofun)
    have hd := h.pull.1
    rw [hpull, hnil] at hd
    exact Or.inr ⟨hnil, by rintro _ ⟨⟩; rfl, hd⟩
  case idle =>
    intro c d hfront hpull h
    have hnil := h.eq_nil_of_pull hfront (by rw [hpull]; exact nofun)
    have hd := h.pull.1
    rw [hpull, hnil] at hd
    exact Or.inr ⟨hnil, by rintro _ ⟨⟩, hd⟩
  case eof =>
    intro c d hfront hpull h
    have hnil := h.eq_nil_of_pull hfront (by rw [hpull]; exact nofun)
    obtain ⟨hd, ⟨-, hprogress⟩ | ⟨-, hnothing⟩⟩ := h.pull
    · rw [hpull] at hprogress
      cases hprogress
    · rw [hpull] at hd hnothing
      refine Or.inr ⟨hnil, by rintro _ ⟨⟩; rfl, hd.failure, nofun, [], rfl, ?_⟩
      rw [hnothing]
      rfl
  case progress =>
    intro c d r f m' hfront hpull ih h
    have hd := h.pull.1
    rw [hpull] at hd
    exact ih hd

/-- The reports of a failed channel are those of the messages that it still has, one for each call,
and then none of a message. -/
theorem run (h : Failed e c todo) (calls : List Message) :
    ∃ later, (∀ r ∈ later, r.isReceived = false) ∧
      reports c calls <+: todo.map Report.ofMessage ++ later ∧
      (todo.map Report.ofMessage).take calls.length <+: reports c calls := by
  induction calls generalizing c todo with
  | nil => exact ⟨[], List.forall_mem_nil _, List.nil_prefix, List.prefix_rfl⟩
  | cons m calls ih =>
    rw [reports]
    rcases h.step m with ⟨first, rest, rfl, hreport, hd⟩ | ⟨rfl, hreport, hd⟩
    · obtain ⟨later, hlater, hfirst, hall⟩ := ih hd
      rw [hreport]
      exact ⟨later, hlater, (List.prefix_cons_inj _).2 hfirst, (List.prefix_cons_inj _).2 hall⟩
    · obtain ⟨later, hlater, hfirst, -⟩ := ih hd
      refine ⟨(report? (c.recv m).1 (c.recv m).2.2).toList ++ later, fun r hr => ?_, ?_, ?_⟩
      · rcases List.mem_append.1 hr with hr | hr
        · exact hreport r (Option.mem_toList.1 hr)
        · exact hlater r hr
      · exact (List.prefix_append_right_inj _).2 hfirst
      · exact List.nil_prefix

end Failed

/-! ## A channel with a bad record ahead -/

/-- What is wrong with a bad record shows only with some of its last bytes, `far`, and no read takes
some of these together with what is ahead of them. -/
def Orderly (bad : Bytes) (io : Schedule) : Prop :=
  ∃ before far, Session.Record.split before = .incomplete ∧ bad = before ++ far ∧ io.Apart far

/-- A channel that has the messages `todo` to hand out, and behind them a bad record ahead. -/
structure Doomed (orderly : Prop) (e : Session.Error) (c : Channel Schedule)
    (todo : List Message) : Prop where
  transient : c.stream.Transient
  spoiled : ∃ plain wire bad, c.session.Spoiled c.stream.ahead plain wire bad e ∧
    Carries c.maxBodyLen todo (c.received ++ plain) ∧
    (orderly → todo = [] ∨ Orderly bad c.stream)

namespace Doomed

variable {orderly : Prop} {e : Session.Error} {c d : Channel Schedule} {todo : List Message}

/-- What awaits a channel depends on its receiving half alone, and on what its reads meet. -/
theorem congr (h : Doomed orderly e c todo) (hinward : d.inward = c.inward)
    (harrivals : d.stream.arrivals = c.stream.arrivals) : Doomed orderly e d todo := by
  obtain ⟨hsession, -, hreceived, hmax⟩ := inward_eq_iff.1 hinward
  have hahead : d.stream.ahead = c.stream.ahead := by
    rw [Schedule.ahead, harrivals, Schedule.ahead]
  obtain ⟨plain, wire, bad, hspoiled, hcarries, horder⟩ := h.spoiled
  refine ⟨fun e he => h.transient e (harrivals ▸ he), plain, wire, bad, ?_, ?_, fun hord => ?_⟩
  · rw [hahead]
    exact hspoiled.congr hsession
  · rw [hmax, hreceived]
    exact hcarries
  · refine (horder hord).imp_right fun horderly => ?_
    obtain ⟨before, far, hsplit, hbad, front, back, harr, hfar⟩ := horderly
    exact ⟨before, far, hsplit, hbad, front, back, harrivals.trans harr, hfar⟩

/-- A channel that waits for the last bytes of the bad record has nothing to hand out but what it can
see. -/
theorem eq_nil_of_ahead {plain wire bad before far : Bytes}
    (hspoiled : c.session.Spoiled c.stream.ahead plain wire bad e)
    (hcarries : Carries c.maxBodyLen todo (c.received ++ plain))
    (hnone : c.session.plaintext = []) (hfront : front c.maxBodyLen c.received = .unfinished)
    (hbad : bad = before ++ far) (hahead : c.stream.ahead = far) : todo = [] := by
  have hall := hspoiled.all
  rw [hahead, hbad, ← List.append_assoc] at hall
  have hplain := (hspoiled.eq_of_inbox (List.append_cancel_right hall)).2
  rw [hplain, hnone, List.append_nil] at hcarries
  exact hcarries.eq_nil hfront

/-- A read of a channel with a bad record ahead gives bytes, if it succeeds. -/
theorem ne_nil_of_read {plain wire bad bytes : Bytes} {stream : Schedule} {room : Nat}
    (hspoiled : c.session.Spoiled c.stream.ahead plain wire bad e)
    (hroom : c.session.inbox.length < room)
    (hread : c.stream.read (room - c.session.inbox.length) = (.ok bytes, stream)) :
    bytes ≠ [] := by
  rintro rfl
  exact hspoiled.ahead_ne_nil (Schedule.endsHonestly (Nat.sub_pos_of_lt hroom) hread)

/-- A read keeps a bad record in order, unless there was no message left when it was made. -/
theorem order_of_read {plain wire bad bytes : Bytes} {stream : Schedule} {max : Nat}
    (hspoiled : c.session.Spoiled c.stream.ahead plain wire bad e)
    (hcarries : Carries c.maxBodyLen todo (c.received ++ plain))
    (hnone : c.session.plaintext = []) (hfront : front c.maxBodyLen c.received = .unfinished)
    (hread : c.stream.read max = (.ok bytes, stream)) (horder : todo = [] ∨ Orderly bad c.stream) :
    todo = [] ∨ Orderly bad stream := by
  rcases horder with hnil | ⟨before, far, hsplit, hbad, hapart⟩
  · exact Or.inl hnil
  · rcases hapart.of_read_ok hread with hahead | hapart'
    · exact Or.inl (eq_nil_of_ahead hspoiled hcarries hnone hfront hbad hahead)
    · exact Or.inr ⟨before, far, hsplit, hbad, hapart'⟩

/-- What is left of a bad record that is in order does not show yet what is wrong with it. -/
theorem not_orderly {bad inbox : Bytes} {stream : Schedule} (hbad : inbox ++ stream.ahead = bad)
    (hsplit : Session.Record.split inbox ≠ .incomplete) : ¬ Orderly bad stream := by
  rintro ⟨before, far, hbefore, rfl, hapart⟩
  obtain ⟨near, hahead⟩ := hapart.ahead
  rw [hahead, ← List.append_assoc] at hbad
  rw [← List.append_cancel_right hbad, Session.Record.split_append near hsplit] at hbefore
  cases hinbox : Session.Record.split inbox with
  | incomplete => exact hsplit hinbox
  | malformed fault => rw [hinbox] at hbefore; cases hbefore
  | whole r rest => rw [hinbox] at hbefore; cases hbefore

/-- What a read that gives bytes makes of a channel with a bad record ahead: it stays such a channel,
or fails with all its messages at hand, and if the record was in order, there are none. -/
theorem of_read {room : Nat} {bytes : Bytes} {stream : Schedule} {t : Session}
    {failure : Option Session.Error} (h : Doomed orderly e c todo)
    (hfront : front c.maxBodyLen c.received = .unfinished) (hnone : c.session.plaintext = [])
    (hroom : c.session.inbox.length < room)
    (hread : c.stream.read (room - c.session.inbox.length) = (.ok bytes, stream))
    (hreceive : ({ c.session with
        inboxRoom := room, inbox := c.session.inbox ++ bytes,
        sawEof := bytes.isEmpty } : Session).receive = (failure, t)) :
    (flush { c with session := t, stream }).2.stream.stalls ≤ c.stream.stalls ∧
      (failure = none ∧ Doomed orderly e (flush { c with session := t, stream }).2 todo ∨
        failure = some e ∧ Failed e (flush { c with session := t, stream }).2 todo ∧
          (orderly → todo = [])) := by
  obtain ⟨plain, wire, bad, hspoiled, hcarries, horder⟩ := h.spoiled
  have hne := ne_nil_of_read hspoiled hroom hread
  have hspends := Schedule.Spends.of_read hread
  have hflush := Schedule.spends_of_reaches (flush_reaches { c with session := t, stream })
  have hinward := flush_inward { c with session := t, stream }
  obtain ⟨written, hwrote, -⟩ := flush_wrote { c with session := t, stream }
  have horder' (hord : orderly) :=
    order_of_read hspoiled hcarries hnone hfront hread (horder hord)
  refine ⟨(hspends.trans hflush).stalls, ?_⟩
  rw [Schedule.ahead_read_ok hread] at hspoiled
  rcases hspoiled.receive room hne with
    ⟨t', wire', ht', hleft⟩ | ⟨t', inbox, ht', hfailure, hplaintext, hbad, hsplit⟩
  · obtain ⟨rfl, rfl⟩ := Prod.mk.inj (hreceive.symm.trans ht')
    have hd : Doomed orderly e { c with session := t, stream } todo :=
      ⟨h.transient.of_spends hspends, plain, wire', bad, hleft, hcarries, horder'⟩
    exact Or.inl ⟨rfl, hd.congr hinward (Schedule.arrivals_of_wrote hwrote)⟩
  · obtain ⟨rfl, rfl⟩ := Prod.mk.inj (hreceive.symm.trans ht')
    have hd : Failed e { c with session := t, stream } todo := by
      refine ⟨hfailure, ?_⟩
      rw [← hplaintext] at hcarries
      exact hcarries
    exact Or.inr ⟨rfl, hd.of_inward hinward,
      fun hord => (horder' hord).resolve_right (not_orderly hbad hsplit)⟩

/-- What a pull makes of a channel with a bad record ahead: it stays such a channel, or meets the bad
record. -/
theorem of_pulled {r : Except TransportError Pull} (h : Doomed orderly e c todo)
    (hfront : front c.maxBodyLen c.received = .unfinished) (hpulled : Pulled c r d) :
    d.stream.stalls ≤ c.stream.stalls ∧
      (r = .ok .progress ∧ Doomed orderly e d todo ∨
        r = .ok .idle ∧ Doomed orderly e d todo ∧ d.stream.stalls < c.stream.stalls ∨
        r = .error (.recvFailed (.session e)) ∧ Failed e d todo ∧ (orderly → todo = [])) := by
  obtain ⟨plain, wire, bad, hspoiled, hcarries, horder⟩ := h.spoiled
  cases hpulled with
  | handed _ =>
    obtain ⟨rest, rfl, hrest⟩ := hspoiled.takePlaintext
    refine ⟨Nat.le_refl _, Or.inl ⟨rfl, h.transient, rest, wire, bad, hrest, ?_, horder⟩⟩
    rw [List.append_assoc]
    exact hcarries
  | exhausted _ hended =>
    rw [hspoiled.live] at hended
    cases hended
  | @refused room cause stream hnone _ hroom hread =>
    have hspends := Schedule.Spends.of_read hread
    have hahead : stream.ahead = c.stream.ahead := Schedule.ahead_read_error hread
    have hd : Doomed orderly e
        { c with session := { c.session with inboxRoom := room }, stream } todo := by
      refine ⟨h.transient.of_spends hspends, plain, wire, bad, ?_, hcarries, fun hord => ?_⟩
      · show ({ c.session with inboxRoom := room } : Session).Spoiled stream.ahead plain wire bad e
        rw [hahead]
        exact hspoiled.congr rfl
      · exact (horder hord).imp_right fun ⟨before, far, hsplit, hbad, hapart⟩ =>
          ⟨before, far, hsplit, hbad, hapart.of_read_error hread⟩
    obtain ⟨hkind, hstalls⟩ := Schedule.stalls_of_refuses h.transient ⟨c.stream, _, .refl, hread⟩
    refine ⟨hspends.stalls, ?_⟩
    unfold refusal
    by_cases hblock : cause.kind = .wouldBlock
    · rw [if_pos hblock]
      refine Or.inr (Or.inl ⟨rfl, hd, (hstalls hblock).resolve_right ?_⟩)
      rintro ⟨hnil, -⟩
      refine hspoiled.ahead_ne_nil ?_
      rw [← hahead, Schedule.ahead, hnil]
      rfl
    · rw [if_neg hblock, if_pos (hkind.resolve_left hblock)]
      exact Or.inl ⟨rfl, hd⟩
  | opened hnone _ hroom hread hreceive =>
    obtain ⟨hstalls, ⟨-, hd⟩ | ⟨hfailure, -⟩⟩ := h.of_read hfront hnone hroom hread hreceive
    · exact ⟨hstalls, Or.inl ⟨rfl, hd⟩⟩
    · cases hfailure
  | failed hnone _ hroom hread hreceive =>
    obtain ⟨hstalls, ⟨hfailure, -⟩ | ⟨hfailure, hd, horder⟩⟩ :=
      h.of_read hfront hnone hroom hread hreceive
    · cases hfailure
    · rw [Option.some.inj hfailure]
      exact ⟨hstalls, Or.inr (Or.inr ⟨rfl, hd, horder⟩)⟩

theorem pulled {r : Except TransportError Pull} (h : Doomed orderly e c todo)
    (hpull : c.pull = (r, d)) : Pulled c r d := by
  obtain ⟨plain, wire, bad, hspoiled, -, -⟩ := h.spoiled
  have hpulled := pull_pulled fun _ => hspoiled.inbox
  rw [hpull] at hpulled
  exact hpulled

/-- One call of `recv` of a channel with a bad record ahead hands out the next message, or is blocked,
or meets the bad record. -/
theorem step (h : Doomed orderly e c todo) (m : Message) :
    (c.recv m).2.1.stream.stalls ≤ c.stream.stalls ∧
      ((∃ first rest, todo = first :: rest ∧
          report? (c.recv m).1 (c.recv m).2.2 = some (.ofMessage first) ∧
          Doomed orderly e (c.recv m).2.1 rest) ∨
        (report? (c.recv m).1 (c.recv m).2.2 = none ∧ Doomed orderly e (c.recv m).2.1 todo ∧
          (c.recv m).2.1.stream.stalls < c.stream.stalls) ∨
        (report? (c.recv m).1 (c.recv m).2.2 = some (.failed (.recvFailed (.session e))) ∧
          Failed e (c.recv m).2.1 todo ∧ (orderly → todo = []))) := by
  refine recv_induction m (motive := fun c r d m' => Doomed orderly e c todo →
    d.stream.stalls ≤ c.stream.stalls ∧
      ((∃ first rest, todo = first :: rest ∧ report? r m' = some (.ofMessage first) ∧
          Doomed orderly e d rest) ∨
        (report? r m' = none ∧ Doomed orderly e d todo ∧
          d.stream.stalls < c.stream.stalls) ∨
        (report? r m' = some (.failed (.recvFailed (.session e))) ∧ Failed e d todo ∧
          (orderly → todo = []))))
    ?bad ?frame ?failed ?idle ?eof ?progress c h
  case bad =>
    intro c e' hfront h
    obtain ⟨plain, wire, bad, -, hcarries, -⟩ := h.spoiled
    exact absurd hfront hcarries.not_bad
  case frame =>
    intro c m' rest hfront h
    obtain ⟨plain, wire, bad, hspoiled, hcarries, horder⟩ := h.spoiled
    obtain ⟨todo', rfl, hrest⟩ := hcarries.of_frame hfront
    refine ⟨Nat.le_refl _, Or.inl ⟨m', todo', rfl, rfl, h.transient, plain, wire, bad, hspoiled,
      hrest, fun hord => Or.inr ((horder hord).resolve_left (List.cons_ne_nil _ _))⟩⟩
  case failed =>
    intro c d e' hfront hpull h
    obtain ⟨hstalls, ⟨hr, -⟩ | ⟨hr, -⟩ | ⟨hr, hd, horder⟩⟩ := h.of_pulled hfront (h.pulled hpull)
    · cases hr
    · cases hr
    · cases hr
      exact ⟨hstalls, Or.inr (Or.inr ⟨rfl, hd, horder⟩)⟩
  case idle =>
    intro c d hfront hpull h
    obtain ⟨hstalls, ⟨hr, -⟩ | ⟨-, hd, hlt⟩ | ⟨hr, -⟩⟩ := h.of_pulled hfront (h.pulled hpull)
    · cases hr
    · exact ⟨hstalls, Or.inr (Or.inl ⟨rfl, hd, hlt⟩)⟩
    · cases hr
  case eof =>
    intro c d hfront hpull h
    obtain ⟨-, ⟨hr, -⟩ | ⟨hr, -⟩ | ⟨hr, -⟩⟩ := h.of_pulled hfront (h.pulled hpull)
    · cases hr
    · cases hr
    · cases hr
  case progress =>
    intro c d r f m' hfront hpull ih h
    obtain ⟨hstalls, ⟨-, hd⟩ | ⟨hr, -⟩ | ⟨hr, -⟩⟩ := h.of_pulled hfront (h.pulled hpull)
    · obtain ⟨hle, hcases⟩ := ih hd
      refine ⟨Nat.le_trans hle hstalls, hcases.imp_right (Or.imp_left ?_)⟩
      rintro ⟨hreport, hd', hlt⟩
      exact ⟨hreport, hd', Nat.lt_of_lt_of_le hlt hstalls⟩
    · cases hr
    · cases hr

end Doomed

/-! ## What is reported around a bad record -/

/-- What a call of `recv` reports and leaves does not depend on the message that its caller brings. -/
theorem recv_caller {σ : Type} [ByteStream σ] (c : Channel σ) (m m' : Message) :
    report? (c.recv m').1 (c.recv m').2.2 = report? (c.recv m).1 (c.recv m).2.2 ∧
      (c.recv m').2.1 = (c.recv m).2.1 := by
  refine recv_induction m (motive := fun c r d f =>
    report? (c.recv m').1 (c.recv m').2.2 = report? r f ∧ (c.recv m').2.1 = d)
    ?bad ?frame ?failed ?idle ?eof ?progress c
  case bad => intro c e hfront; rw [recv_eq, hfront]; exact ⟨rfl, rfl⟩
  case frame => intro c f rest hfront; rw [recv_eq, hfront]; exact ⟨rfl, rfl⟩
  case failed => intro c d e hfront hpull; rw [recv_eq, hfront, hpull]; exact ⟨rfl, rfl⟩
  case idle => intro c d hfront hpull; rw [recv_eq, hfront, hpull]; exact ⟨rfl, rfl⟩
  case eof => intro c d hfront hpull; rw [recv_eq, hfront, hpull]; exact ⟨rfl, rfl⟩
  case progress => intro c d r f g hfront hpull ih; rw [recv_eq, hfront, hpull]; exact ih

/-- What a channel reports that meets a bad record behind the messages `before` while it still has the
messages `after` to hand out. -/
def story (before : List Message) (e : Session.Error) (after : List Message) : List Report :=
  before.map Report.ofMessage ++
    .failed (.recvFailed (.session e)) :: after.map Report.ofMessage

/-- The reports of any calls are the first ones of `reported`, all of them once the stalls are used
up, and then none of a message. -/
def Tells (c : Channel Schedule) (reported : List Report) : Prop :=
  ∀ calls : List Message, ∃ later, (∀ r ∈ later, r.isReceived = false) ∧
    reports c calls <+: reported ++ later ∧
    reported.take (calls.length - c.stream.stalls) <+: reports c calls

namespace Tells

variable {c d : Channel Schedule} {r : Report} {reported : List Report}

/-- A first call that reports `r` puts it ahead of what is reported after it. -/
theorem cons (hstalls : d.stream.stalls ≤ c.stream.stalls)
    (hrecv : ∀ m, report? (c.recv m).1 (c.recv m).2.2 = some r ∧ (c.recv m).2.1 = d)
    (h : Tells d reported) : Tells c (r :: reported) := by
  intro calls
  cases calls with
  | nil =>
    refine ⟨[], List.forall_mem_nil _, List.nil_prefix, ?_⟩
    rw [List.length_nil, Nat.zero_sub, List.take_zero]
    exact List.nil_prefix
  | cons m calls =>
    obtain ⟨later, hlater, hfirst, hall⟩ := h calls
    obtain ⟨hreport, hnext⟩ := hrecv m
    refine ⟨later, hlater, ?_, ?_⟩
    · rw [reports, hreport, hnext]
      exact (List.prefix_cons_inj r).2 hfirst
    · rw [reports, hreport, hnext, List.length_cons]
      have hle : calls.length + 1 - c.stream.stalls ≤ calls.length - d.stream.stalls + 1 := by
        omega
      refine (List.take_prefix_take_left hle).trans ?_
      rw [List.take_succ_cons]
      exact (List.prefix_cons_inj r).2 hall

/-- A first call that is blocked uses up a stall. -/
theorem stalled (hstalls : d.stream.stalls < c.stream.stalls)
    (hrecv : ∀ m, report? (c.recv m).1 (c.recv m).2.2 = none ∧ (c.recv m).2.1 = d)
    (h : Tells d reported) : Tells c reported := by
  intro calls
  cases calls with
  | nil =>
    refine ⟨[], List.forall_mem_nil _, List.nil_prefix, ?_⟩
    rw [List.length_nil, Nat.zero_sub, List.take_zero]
    exact List.nil_prefix
  | cons m calls =>
    obtain ⟨later, hlater, hfirst, hall⟩ := h calls
    obtain ⟨hreport, hnext⟩ := hrecv m
    refine ⟨later, hlater, ?_, ?_⟩
    · rw [reports, hreport, hnext]
      exact hfirst
    · rw [reports, hreport, hnext, List.length_cons]
      have hle : calls.length + 1 - c.stream.stalls ≤ calls.length - d.stream.stalls := by omega
      exact (List.take_prefix_take_left hle).trans hall

end Tells

theorem Failed.tells {e : Session.Error} {c : Channel Schedule} {todo : List Message}
    (h : Failed e c todo) : Tells c (todo.map Report.ofMessage) := by
  intro calls
  obtain ⟨later, hlater, hfirst, hall⟩ := h.run calls
  exact ⟨later, hlater, hfirst, (List.take_prefix_take_left (Nat.sub_le _ _)).trans hall⟩

/-- A channel with a bad record ahead hands out some of its messages, reports its failure, and hands
out the others; if the bad record is in order, there are no others. -/
theorem Doomed.tells {orderly : Prop} {e : Session.Error} {c : Channel Schedule}
    {todo : List Message} (h : Doomed orderly e c todo) :
    ∃ before after, todo = before ++ after ∧ (orderly → after = []) ∧
      Tells c (story before e after) := by
  -- Each call hands out a message or uses up a stall, until the bad record is met.
  induction hsize : c.stream.stalls + todo.length using Nat.strong_induction_on
    generalizing c todo with
  | _ size ih =>
    obtain ⟨d, hd⟩ : ∃ d, (c.recv (.new 0)).2.1 = d := ⟨_, rfl⟩
    have hsame (m : Message) : (c.recv m).2.1 = d := (recv_caller c (.new 0) m).2.trans hd
    have hstep := h.step (.new 0)
    rw [hd] at hstep
    obtain ⟨hstalls, ⟨first, rest, rfl, hreport, hnext⟩ | ⟨hreport, hnext, hlt⟩ |
      ⟨hreport, hnext, horder⟩⟩ := hstep
    · have hless : d.stream.stalls + rest.length < size := by
        rw [List.length_cons] at hsize
        omega
      obtain ⟨before, after, rfl, horder, htells⟩ := ih _ hless hnext rfl
      refine ⟨first :: before, after, rfl, horder, htells.cons hstalls fun m => ⟨?_, hsame m⟩⟩
      exact (recv_caller c (.new 0) m).1.trans hreport
    · obtain ⟨before, after, htodo, horder, htells⟩ := ih _ (by omega) hnext rfl
      refine ⟨before, after, htodo, horder, htells.stalled hlt fun m => ⟨?_, hsame m⟩⟩
      exact (recv_caller c (.new 0) m).1.trans hreport
    · refine ⟨[], todo, rfl, horder, hnext.tells.cons hstalls fun m => ⟨?_, hsame m⟩⟩
      exact (recv_caller c (.new 0) m).1.trans hreport

theorem length_reports_le {σ : Type} [ByteStream σ] (c : Channel σ) (calls : List Message) :
    (reports c calls).length ≤ calls.length := by
  induction calls generalizing c with
  | nil => exact Nat.le_refl _
  | cons m calls ih =>
    have hrest := ih (c.recv m).2.1
    rw [reports, List.length_append, List.length_cons]
    cases report? (c.recv m).1 (c.recv m).2.2 with
    | none =>
      rw [Option.toList_none, List.length_nil]
      omega
    | some r =>
      rw [Option.toList_some, List.length_singleton]
      omega

/-- On a stream that never stalls, as many calls report all that there is to report. -/
theorem Tells.reports_eq {c : Channel Schedule} {reported : List Report} (h : Tells c reported)
    (hstalls : c.stream.stalls = 0) {calls : List Message}
    (hcalls : calls.length = reported.length) : reports c calls = reported := by
  obtain ⟨later, -, -, hall⟩ := h calls
  rw [hstalls, Nat.sub_zero, hcalls, List.take_length] at hall
  have hlength := length_reports_le c calls
  exact (hall.eq_of_length_le (by omega)).symm

/-- A pull that reads what fails the session reports the failure. -/
theorem pull_of_read {σ : Type} [ByteStream σ] {c : Channel σ} {bytes : Bytes} {stream : σ}
    {t : Session} {e : Session.Error} (hnone : c.session.plaintext = [])
    (hlive : c.session.ended = false) (hinbox : Session.Record.split c.session.inbox = .incomplete)
    (hread : ByteStream.read c.stream (c.session.nextRoom - c.session.inbox.length) =
      (.ok bytes, stream))
    (hreceive : ({ c.session with
        inboxRoom := c.session.nextRoom, inbox := c.session.inbox ++ bytes,
        sawEof := bytes.isEmpty } : Session).receive = (some e, t)) :
    c.pull = (.error (.recvFailed (.session e)), (flush { c with session := t, stream }).2) := by
  unfold pull
  dsimp only [Session.takePlaintext]
  rw [if_neg (not_not_intro hnone), hlive, if_neg Bool.false_ne_true]
  unfold fetch
  rw [Session.readFrom_eq c.stream hlive hinbox, hread]
  dsimp only
  rw [hreceive]

/-- If the first read brings all messages and shows the bad record, the first call reports the failure
and leaves a failed channel with all messages still to hand out. -/
theorem failed_of_read {s : Session} {io io' : Schedule} {maxBodyLen : Nat} {todo : List Message}
    {plain wire shown hidden bytes : Bytes} {e : Session.Error}
    (hspoiled : s.Spoiled io.ahead plain wire (shown ++ hidden) e)
    (hcarries : Carries maxBodyLen todo plain) (hnone : s.plaintext = [])
    (hread : io.read (s.nextRoom - s.inbox.length) = (.ok bytes, io'))
    (hshown : s.inbox ++ bytes = wire ++ shown)
    (hsplit : Session.Record.split shown ≠ .incomplete) :
    ∃ d : Channel Schedule,
      (∀ m, (Channel.new s io maxBodyLen).recv m = (.error (.recvFailed (.session e)), d, m)) ∧
      Failed e d todo ∧ d.maxBodyLen = maxBodyLen ∧ d.stream.stalls ≤ io.stalls := by
  have hroom := Session.length_inbox_lt_nextRoom hspoiled.inbox
  have hne := Doomed.ne_nil_of_read (c := Channel.new s io maxBodyLen) hspoiled hroom hread
  have hall := hspoiled
  rw [Schedule.ahead_read_ok hread] at hall
  obtain ⟨t, ht, hfailure, hplaintext⟩ := hall.receive_of_shown s.nextRoom hne hshown hsplit
  let opened : Channel Schedule := { Channel.new s io maxBodyLen with session := t, stream := io' }
  have hopened : Failed e opened todo := by
    refine ⟨hfailure, ?_⟩
    show Carries maxBodyLen todo ([] ++ t.plaintext)
    rw [hplaintext]
    exact hcarries
  have hpull : (Channel.new s io maxBodyLen).pull =
      (.error (.recvFailed (.session e)), (flush opened).2) :=
    pull_of_read hnone hspoiled.live hspoiled.inbox hread ht
  have hspends := (Schedule.Spends.of_read hread).trans
    (Schedule.spends_of_reaches (flush_reaches opened))
  have hinward := flush_inward opened
  refine ⟨(flush opened).2, fun m => ?_, hopened.of_inward hinward,
    (inward_eq_iff.1 hinward).2.2.2, hspends.stalls⟩
  rw [recv_eq]
  have hfront : front (Channel.new s io maxBodyLen).maxBodyLen
    (Channel.new s io maxBodyLen).received = .unfinished := rfl
  rw [hfront, hpull]

/-- If the first read brings all messages and shows the bad record, the failure is reported ahead of
all of them. -/
theorem tells_of_read {s : Session} {io io' : Schedule} {maxBodyLen : Nat} {todo : List Message}
    {plain wire shown hidden bytes : Bytes} {e : Session.Error}
    (hspoiled : s.Spoiled io.ahead plain wire (shown ++ hidden) e)
    (hcarries : Carries maxBodyLen todo plain) (hnone : s.plaintext = [])
    (hread : io.read (s.nextRoom - s.inbox.length) = (.ok bytes, io'))
    (hshown : s.inbox ++ bytes = wire ++ shown)
    (hsplit : Session.Record.split shown ≠ .incomplete) :
    Tells (Channel.new s io maxBodyLen) (story [] e todo) := by
  obtain ⟨d, hrecv, hfailed, -, hstalls⟩ :=
    failed_of_read hspoiled hcarries hnone hread hshown hsplit
  refine Tells.cons hstalls (fun m => ?_) hfailed.tells
  rw [hrecv m]
  exact ⟨rfl, rfl⟩

/-- However the stream is cut into reads, a channel that was just made hands out all messages that a
bad record follows, in order and each once, and reports the failure once among them.  If the bad
record is in order, it reports the failure behind all of them. -/
theorem reports_new_spoiled (s : Session) (io : Schedule) (maxBodyLen : Nat) (todo : List Message)
    (plain wire bad : Bytes) (e : Session.Error) (hspoiled : s.Spoiled io.ahead plain wire bad e)
    (hcarries : Carries maxBodyLen todo plain) (htransient : io.Transient) :
    ∃ before after, todo = before ++ after ∧ (Orderly bad io → after = []) ∧
      Tells (Channel.new s io maxBodyLen) (story before e after) := by
  have hdoomed : Doomed (Orderly bad io) e (Channel.new s io maxBodyLen) todo :=
    ⟨htransient, plain, wire, bad, hspoiled, hcarries, Or.inr⟩
  exact hdoomed.tells

/-! ## A message and garbage -/

/-- A message with a body of four bytes. -/
def ping : Message := { header := { kind := 1, bodyLen := 4 }, body := [0x50, 0x49, 0x4e, 0x47] }

/-- The message as a client's first record. -/
def pingRecord : Bytes :=
  (Session.Record.sealed .tls13 .client 0 .applicationData ping.encode).encode

/-- Bytes that cannot become a record. -/
def garbage : Bytes := [0x47, 0x41, 0x52, 0x42, 0x41, 0x47, 0x45, 0x21]

/-- What is wrong with them. -/
def garbled : Session.Error := .invalidMessage .invalidContentType

/-- A stream that brings the record and the garbage in these arrivals. -/
def bringing (arrivals : List Arrival) : Schedule :=
  { arrivals, closed := false, written := [], writes := [], modes := [] }

theorem spoiled_bringing {arrivals : List Arrival}
    (h : arrivals.flatMap Arrival.bytes = pingRecord ++ garbage) :
    (Session.established .tls13 .server).Spoiled (bringing arrivals).ahead ping.encode pingRecord
      garbage garbled where
  failure := rfl
  live := rfl
  inbox := rfl
  all := h
  carries := by
    have hping : Session.Transcript .tls13 .client 0 (pingRecord ++ []) (ping.encode ++ [])
        (.next 1) := .data (by decide) (.nil 1)
    rw [List.append_nil, List.append_nil] at hping
    exact ⟨1, ping.encode, rfl, hping, rfl⟩

theorem orderly_inTwo : Orderly garbage (bringing (putBack pingRecord (putBack garbage []))) :=
  ⟨[], garbage, rfl, rfl, putBack pingRecord [], putBack garbage [],
    Schedule.putBack_append pingRecord [] _, rfl⟩

theorem carries_ping : Carries 16 [ping] ping.encode where
  admits := by
    intro m hm
    rw [List.mem_singleton.1 hm]
    exact ⟨rfl, by decide⟩
  torn := ⟨[], rfl, by rw [frames_cons, frames_nil, List.append_nil, List.append_nil]⟩

/-- A record that is cut by a blocked read, and garbage that comes with its second half. -/
def stalledPing : Schedule :=
  bringing (putBack (pingRecord.take 9) (.fault (.bare .wouldBlock) ::
    putBack (pingRecord.drop 9 ++ garbage) []))

theorem reports_stalledPing :
    (Session.established .tls13 .server).Spoiled stalledPing.ahead ping.encode pingRecord garbage
        garbled ∧
      Carries 16 [ping] ping.encode ∧ stalledPing.Transient ∧
      ∃ before after, [ping] = before ++ after ∧ (Orderly garbage stalledPing → after = []) ∧
        Tells (Channel.new (Session.established .tls13 .server) stalledPing 16)
          (story before garbled after) := by
  have hspoiled : (Session.established .tls13 .server).Spoiled stalledPing.ahead ping.encode
      pingRecord garbage garbled := by
    apply spoiled_bringing
    simp only [Schedule.flatMap_putBack, List.flatMap_cons, Arrival.bytes, List.nil_append,
      List.flatMap_nil, List.append_nil]
    rw [← List.append_assoc, List.take_append_drop]
  have htransient : stalledPing.Transient := by
    intro e he
    simp only [stalledPing, bringing] at he
    rcases List.mem_cons.1 (Schedule.fault_mem_putBack he) with hfault | hmem
    · exact Or.inl (by rw [Arrival.fault.inj hfault]; rfl)
    · cases Schedule.fault_mem_putBack hmem
  exact ⟨hspoiled, carries_ping, htransient,
    reports_new_spoiled _ stalledPing 16 [ping] _ _ garbage garbled hspoiled carries_ping htransient⟩

/-- One record and the garbage behind it, in one read or in two: it is a matter of the cut whether the
message or the failure is reported first. -/
theorem failed_before_received :
    let s := Session.established .tls13 .server
    let atOnce := bringing (putBack (pingRecord ++ garbage) [])
    let inTwo := bringing (putBack pingRecord (putBack garbage []))
    (s.Spoiled atOnce.ahead ping.encode pingRecord garbage garbled ∧
      s.Spoiled inTwo.ahead ping.encode pingRecord garbage garbled) ∧
    Carries 16 [ping] ping.encode ∧
    reports (Channel.new s atOnce 16) [.new 0, .new 0] =
      [.failed (.recvFailed (.session garbled)), .received 4 ping] ∧
    reports (Channel.new s inTwo 16) [.new 0, .new 0] =
      [.received 4 ping, .failed (.recvFailed (.session garbled))] := by
  intro s atOnce inTwo
  have hatOnce : s.Spoiled atOnce.ahead ping.encode pingRecord garbage garbled := by
    apply spoiled_bringing
    rw [Schedule.flatMap_putBack, List.flatMap_nil, List.append_nil]
  have hinTwo : s.Spoiled inTwo.ahead ping.encode pingRecord garbage garbled := by
    apply spoiled_bringing
    rw [Schedule.flatMap_putBack, Schedule.flatMap_putBack, List.flatMap_nil, List.append_nil]
  refine ⟨⟨hatOnce, hinTwo⟩, carries_ping, ?_, ?_⟩
  · have hread : atOnce.read (s.nextRoom - s.inbox.length) = (.ok (pingRecord ++ garbage), _) :=
      Schedule.read_putBack rfl (List.cons_ne_nil _ _) (by decide)
    have hshown : s.Spoiled atOnce.ahead ping.encode pingRecord (garbage ++ []) garbled := by
      rw [List.append_nil]
      exact hatOnce
    exact (tells_of_read hshown carries_ping rfl hread rfl nofun).reports_eq rfl rfl
  · have hdoomed : Doomed True garbled (Channel.new s inTwo 16) [ping] := by
      refine ⟨fun e he => ?_, _, _, _, hinTwo, carries_ping, fun _ => Or.inr orderly_inTwo⟩
      have hmem : .fault e ∈ putBack pingRecord (putBack garbage []) := he
      cases Schedule.fault_mem_putBack (Schedule.fault_mem_putBack hmem)
    obtain ⟨before, after, hping, horder, htells⟩ := hdoomed.tells
    rw [horder trivial, List.append_nil] at hping
    rw [horder trivial, ← hping] at htells
    exact htells.reports_eq rfl rfl

end Channel

end PinnedLink
