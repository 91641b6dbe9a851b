import PinnedLink.Proofs.Channel.Act
import PinnedLink.Proofs.Channel.Queueing
import PinnedLink.Proofs.Session.Rejection

/-!
# The receive buffer is bounded

A channel uses its receive buffer in four ways (`BufferUse`).  `recvUses` lists the uses of one call of
`recv`, in the order in which `takeFrame` and `pull` make them, and replaying them gives the buffer
that the call leaves.

Each of them has its place (`BufferUse.Fits`): the session is drained only behind the beginning of a
frame that may still come (`Begins`), and room for a body is made only once its header has been
accepted.  So whatever a user and a stream do, the buffer is at most a byte short of the largest frame
and the plaintext of one drain (`length_replay_le`).
-/

namespace PinnedLink

open PinnedLink.Frame (Header Message)

namespace Channel

/-! ## Beginnings of frames -/

/-- A buffer that holds the beginning of a frame and no more: less than a header, or a header that
declares a body within the bound, with less than that body behind it. -/
def Begins (maxBodyLen : Nat) (buffer : Bytes) : Prop :=
  buffer.length < Frame.headerLen ∨
    ∃ header, Header.decode (buffer.take Frame.headerLen) = .ok header ∧
      header.bodyLen.toNat ≤ maxBodyLen ∧
      buffer.length < Frame.headerLen + header.bodyLen.toNat

theorem Begins.length_lt {maxBodyLen : Nat} {buffer : Bytes} (h : Begins maxBodyLen buffer) :
    buffer.length < Frame.headerLen + maxBodyLen := by
  obtain hshort | ⟨header, -, hle, hbody⟩ := h
  · omega
  · omega

/-- The beginning of a frame is neither a whole one nor one that a receiver refuses. -/
theorem front_eq_unfinished_iff {maxBodyLen : Nat} {buffer : Bytes} :
    front maxBodyLen buffer = .unfinished ↔ Begins maxBodyLen buffer := by
  unfold front Begins
  by_cases hshort : buffer.length < Frame.headerLen
  · rw [if_pos hshort]
    exact iff_of_true rfl (Or.inl hshort)
  rw [if_neg hshort]
  simp only [hshort, false_or]
  cases hdecode : Header.decode (buffer.take Frame.headerLen) with
  | error e => simp
  | ok header =>
    simp only [Except.ok.injEq, exists_eq_left']
    by_cases hlarge : maxBodyLen < header.bodyLen.toNat
    · simp only [if_pos hlarge, reduceCtorEq, Nat.not_le.2 hlarge, false_and]
    rw [if_neg hlarge, List.length_drop]
    by_cases hbody : buffer.length - Frame.headerLen < header.bodyLen.toNat
    · rw [if_pos hbody]
      exact iff_of_true rfl ⟨Nat.not_lt.1 hlarge, by omega⟩
    rw [if_neg hbody]
    refine iff_of_false ?_ fun h => hbody (by omega)
    split <;> exact nofun

/-! ## Uses of the buffer -/

/-- What a channel does with its receive buffer. -/
inductive BufferUse where
  /-- Makes room for some bytes more than there are. -/
  | reserve (more : Nat)
  /-- Moves all that the session has at hand behind what is there. -/
  | drain (plain : Bytes)
  /-- Takes bytes off the front. -/
  | advance (n : Nat)
  /-- Discards everything. -/
  | clear

namespace BufferUse

/-- What a use makes of the bytes of a buffer. -/
def apply (buffer : Bytes) : BufferUse → Bytes
  | reserve _ => buffer
  | drain plain => buffer ++ plain
  | advance n => buffer.drop n
  | clear => []

/-- A use is in its place: the session is drained behind the beginning of a frame, room is made for the
rest of a frame whose header was accepted, and only bytes that are there are taken off. -/
def Fits (maxBodyLen : Nat) (buffer : Bytes) : BufferUse → Prop
  | reserve more =>
    ∃ header, Header.decode (buffer.take Frame.headerLen) = .ok header ∧
      header.bodyLen.toNat ≤ maxBodyLen ∧
      buffer.length + more = Frame.headerLen + header.bodyLen.toNat
  | drain _ => Begins maxBodyLen buffer
  | advance n => n ≤ buffer.length
  | clear => Begins maxBodyLen buffer

end BufferUse

open BufferUse (Fits)

/-- The bytes of a buffer behind several uses of it. -/
def replay (buffer : Bytes) (uses : List BufferUse) : Bytes := uses.foldl BufferUse.apply buffer

@[simp] theorem replay_nil (buffer : Bytes) : replay buffer [] = buffer := rfl

@[simp] theorem replay_cons (buffer : Bytes) (use : BufferUse) (uses : List BufferUse) :
    replay buffer (use :: uses) = replay (use.apply buffer) uses := rfl

@[simp] theorem replay_append (buffer : Bytes) (uses more : List BufferUse) :
    replay buffer (uses ++ more) = replay (replay buffer uses) more := List.foldl_append

/-- Several uses of a buffer are in their places. -/
def AllFit (maxBodyLen : Nat) : Bytes → List BufferUse → Prop
  | _, [] => True
  | buffer, use :: uses => use.Fits maxBodyLen buffer ∧ AllFit maxBodyLen (use.apply buffer) uses

theorem allFit_append {maxBodyLen : Nat} {buffer : Bytes} {uses more : List BufferUse} :
    AllFit maxBodyLen buffer (uses ++ more) ↔
      AllFit maxBodyLen buffer uses ∧ AllFit maxBodyLen (replay buffer uses) more := by
  induction uses generalizing buffer with
  | nil => exact (true_and _).symm.to_iff
  | cons use uses ih =>
    rw [List.cons_append, AllFit, AllFit, replay_cons, ih, and_assoc]

/-- How much the last of several uses that is a drain has moved, or `last` if none is. -/
def lastDrain (last : Nat) (uses : List BufferUse) : Nat :=
  uses.foldl (fun last use => match use with
    | .drain plain => plain.length
    | _ => last) last

theorem AllFit.fits {maxBodyLen : Nat} {buffer : Bytes} {before after : List BufferUse}
    {use : BufferUse} (h : AllFit maxBodyLen buffer (before ++ use :: after)) :
    use.Fits maxBodyLen (replay buffer before) :=
  (allFit_append.1 h).2.1

/-- Uses in their places keep a buffer below the largest frame and what was drained last. -/
theorem length_replay_le {maxBodyLen last : Nat} {buffer : Bytes} {uses : List BufferUse}
    (h : AllFit maxBodyLen buffer uses)
    (hle : buffer.length ≤ Frame.headerLen + maxBodyLen - 1 + last) :
    (replay buffer uses).length ≤ Frame.headerLen + maxBodyLen - 1 + lastDrain last uses := by
  induction uses generalizing buffer last with
  | nil => exact hle
  | cons use uses ih =>
    obtain ⟨hfits, hrest⟩ := h
    cases use with
    | reserve more => exact ih hrest hle
    | drain plain =>
      have hlt := Begins.length_lt hfits
      have hdrained : (buffer ++ plain).length ≤
          Frame.headerLen + maxBodyLen - 1 + plain.length := by
        rw [List.length_append]
        omega
      exact ih hrest hdrained
    | advance n =>
      have hadvanced : (buffer.drop n).length ≤ Frame.headerLen + maxBodyLen - 1 + last := by
        rw [List.length_drop]
        omega
      exact ih hrest hadvanced
    | clear =>
      have hnone : ([] : Bytes).length ≤ Frame.headerLen + maxBodyLen - 1 + last := Nat.zero_le _
      exact ih hrest hnone

/-! ## Looking for a frame -/

/-- How `takeFrame` uses the buffer. -/
def frameUses (maxBodyLen : Nat) (buffer : Bytes) : List BufferUse :=
  if buffer.length < Frame.headerLen then []
  else
    match Header.decode (buffer.take Frame.headerLen) with
    | .error _ => []
    | .ok header =>
      let needed := Frame.headerLen + header.bodyLen.toNat
      if maxBodyLen < header.bodyLen.toNat then []
      else if buffer.length < needed then [.reserve (needed - buffer.length)]
      else [.advance Frame.headerLen, .advance header.bodyLen.toNat]

theorem replay_frameUses (maxBodyLen : Nat) (buffer : Bytes) (m : Message) :
    replay buffer (frameUses maxBodyLen buffer) = (takeFrame maxBodyLen buffer m).2.1 := by
  unfold frameUses takeFrame
  by_cases hshort : buffer.length < Frame.headerLen
  · rw [if_pos hshort, if_pos hshort, replay_nil]
  rw [if_neg hshort, if_neg hshort]
  cases hdecode : Header.decode (buffer.take Frame.headerLen) with
  | error e => rfl
  | ok header =>
    dsimp only
    by_cases hlarge : maxBodyLen < header.bodyLen.toNat
    · rw [if_pos hlarge, if_pos hlarge, replay_nil]
    rw [if_neg hlarge, if_neg hlarge]
    by_cases hbody : buffer.length < Frame.headerLen + header.bodyLen.toNat
    · rw [if_pos hbody, if_pos hbody]
      rfl
    rw [if_neg hbody, if_neg hbody, Message.setHeader_of_decode hdecode]
    dsimp only
    rw [Message.resize_bodyLen]
    rfl

theorem allFit_frameUses (maxBodyLen : Nat) (buffer : Bytes) :
    AllFit maxBodyLen buffer (frameUses maxBodyLen buffer) := by
  unfold frameUses
  split_ifs with hshort
  · trivial
  split
  · trivial
  · rename_i header hdecode
    dsimp only
    split_ifs with hlarge hbody
    · trivial
    · exact ⟨⟨header, hdecode, Nat.not_lt.1 hlarge, by omega⟩, trivial⟩
    · refine ⟨Nat.not_lt.1 hshort, ?_, trivial⟩
      show header.bodyLen.toNat ≤ (buffer.drop Frame.headerLen).length
      rw [List.length_drop]
      omega

/-! ## Receiving -/

variable {σ : Type} [ByteStream σ]

/-- How `pull` uses the buffer. -/
def pullUses (c : Channel σ) : List BufferUse :=
  if c.session.plaintext = [] then [] else [.drain c.session.plaintext]

/-- How a pass that looks for a frame and then pulls uses the buffer. -/
def passUses (c : Channel σ) : List BufferUse := frameUses c.maxBodyLen c.received ++ pullUses c

/-- How a call of `recv` uses the buffer, pass by pass. -/
def recvUses (c : Channel σ) : List BufferUse :=
  match front c.maxBodyLen c.received with
  | .unfinished =>
    passUses c ++
      match _h : c.pull with
      | (.ok .progress, d) => recvUses d
      | (.ok .eof, d) => if d.received = [] then [] else [.clear]
      | _ => []
  | _ => frameUses c.maxBodyLen c.received
termination_by c.recvMeasure
decreasing_by exact recvMeasure_lt_of_pull _h

theorem recvUses_of_unfinished {c d : Channel σ} {r : Except TransportError Pull}
    (hfront : front c.maxBodyLen c.received = .unfinished) :
    c.pull = (r, d) → recvUses c = passUses c ++
      match r with
      | .ok .progress => recvUses d
      | .ok .eof => if d.received = [] then [] else [.clear]
      | _ => [] := by
  intro hpull
  rw [recvUses, hfront]
  dsimp only
  rcases r with _ | _ | _ | _
  all_goals split <;> simp_all

/-- A pull does to the buffer what `pullUses` says.  One that comes to nothing does nothing to it and
leaves no plaintext in the session. -/
theorem pull_buffer {c d : Channel σ} {r : Except TransportError Pull} (h : c.pull = (r, d)) :
    d.received = replay c.received (pullUses c) ∧
      (r = .ok .idle ∨ r = .ok .eof → pullUses c = [] ∧ d.session.plaintext = []) := by
  unfold pullUses
  cases pull_pulls h with
  | handed hne =>
    rw [if_neg hne]
    exact ⟨rfl, fun hnothing => by obtain h | h := hnothing <;> cases h⟩
  | exhausted hnone hended =>
    rw [if_pos hnone]
    exact ⟨rfl, fun _ => ⟨rfl, hnone⟩⟩
  | refused hnone hopen hread =>
    rw [if_pos hnone]
    exact ⟨rfl, fun _ => ⟨rfl, (Session.readFrom_keeps hread).2.trans hnone⟩⟩
  | @opened n s t stream failure hnone hopen hread hreceive =>
    rw [if_pos hnone]
    refine ⟨(flush_buffer _).1, fun hnothing => ?_⟩
    cases failure <;> obtain h | h := hnothing <;> cases h

omit [ByteStream σ] in
theorem allFit_passUses {c : Channel σ} (hfront : front c.maxBodyLen c.received = .unfinished) :
    AllFit c.maxBodyLen c.received (passUses c) ∧
      replay c.received (passUses c) = replay c.received (pullUses c) := by
  have hlook : replay c.received (frameUses c.maxBodyLen c.received) = c.received := by
    rw [replay_frameUses c.maxBodyLen c.received (.new 0), takeFrame_eq, hfront]
  rw [passUses, allFit_append, replay_append, hlook]
  refine ⟨⟨allFit_frameUses _ _, ?_⟩, rfl⟩
  unfold pullUses
  split_ifs with hplain
  · trivial
  · exact ⟨front_eq_unfinished_iff.1 hfront, trivial⟩

/-- A pass that pulls uses the buffer in its place, and the beginning of a frame is still there if the
pull comes to nothing. -/
theorem pass_buffer {c d : Channel σ} {r : Except TransportError Pull}
    (hfront : front c.maxBodyLen c.received = .unfinished) (hpull : c.pull = (r, d)) :
    AllFit c.maxBodyLen c.received (passUses c) ∧ replay c.received (passUses c) = d.received ∧
      (r = .ok .idle ∨ r = .ok .eof →
        front c.maxBodyLen d.received = .unfinished ∧ d.session.plaintext = []) := by
  obtain ⟨hfits, hreplay⟩ := allFit_passUses hfront
  obtain ⟨hreceived, hnothing⟩ := pull_buffer hpull
  refine ⟨hfits, hreplay.trans hreceived.symm, fun hr => ?_⟩
  obtain ⟨hunused, hplain⟩ := hnothing hr
  rw [hunused, replay_nil] at hreceived
  rw [hreceived]
  exact ⟨hfront, hplain⟩

/-- A call of `recv` uses the buffer as `recvUses` says, each time in its place, and finds nothing only
if there is no more than the beginning of a frame. -/
theorem recv_buffer (c : Channel σ) (m : Message) :
    AllFit c.maxBodyLen c.received (recvUses c) ∧
      replay c.received (recvUses c) = (c.recv m).2.1.received ∧
      ((c.recv m).1 = .ok .empty → (c.recv m).2.1.session.plaintext = [] ∧
        front c.maxBodyLen (c.recv m).2.1.received = .unfinished) := by
  refine recv_induction m (motive := fun c r d _ =>
    AllFit c.maxBodyLen c.received (recvUses c) ∧
      replay c.received (recvUses c) = d.received ∧
      (r = .ok .empty → d.session.plaintext = [] ∧ front c.maxBodyLen d.received = .unfinished))
    ?bad ?frame ?failed ?idle ?eof ?progress c
  case bad =>
    intro c e hfront
    rw [recvUses, hfront, replay_frameUses _ _ m, takeFrame_eq, hfront]
    exact ⟨allFit_frameUses _ _, rfl, nofun⟩
  case frame =>
    intro c m' rest hfront
    rw [recvUses, hfront, replay_frameUses _ _ m, takeFrame_eq, hfront]
    exact ⟨allFit_frameUses _ _, rfl, nofun⟩
  case failed =>
    intro c d e hfront hpull
    obtain ⟨hfits, hreplay, -⟩ := pass_buffer hfront hpull
    rw [recvUses_of_unfinished hfront hpull, List.append_nil]
    exact ⟨hfits, hreplay, nofun⟩
  case idle =>
    intro c d hfront hpull
    obtain ⟨hfits, hreplay, hnothing⟩ := pass_buffer hfront hpull
    rw [recvUses_of_unfinished hfront hpull, List.append_nil]
    exact ⟨hfits, hreplay, fun _ => (hnothing (Or.inl rfl)).symm⟩
  case eof =>
    intro c d hfront hpull
    obtain ⟨hfits, hreplay, hnothing⟩ := pass_buffer hfront hpull
    rw [recvUses_of_unfinished hfront hpull]
    dsimp only
    split_ifs with hnone
    · rw [List.append_nil]
      exact ⟨hfits, hreplay.trans hnone, nofun⟩
    · rw [allFit_append, replay_append, hreplay]
      have hbegins := front_eq_unfinished_iff.1 (hnothing (Or.inr rfl)).1
      exact ⟨⟨hfits, hbegins, trivial⟩, rfl, nofun⟩
  case progress =>
    rintro c d r f m' hfront hpull ⟨hrest, hends, hempty⟩
    obtain ⟨hfits, hreplay, -⟩ := pass_buffer hfront hpull
    rw [maxBodyLen_pull hpull] at hrest hempty
    rw [recvUses_of_unfinished hfront hpull]
    dsimp only
    rw [allFit_append, replay_append, hreplay]
    exact ⟨⟨hfits, hrest⟩, hends, hempty⟩

/-! ## Runs -/

/-- What leaves the buffer and the bound of a channel as they are. -/
def SameBuffer (c d : Channel σ) : Prop := d.received = c.received ∧ d.maxBodyLen = c.maxBodyLen

omit [ByteStream σ] in
theorem SameBuffer.trans {c d e : Channel σ} (h : SameBuffer c d) (h' : SameBuffer d e) :
    SameBuffer c e :=
  ⟨h'.1.trans h.1, h'.2.trans h.2⟩

omit [ByteStream σ] in
theorem sameBuffer_queue (c : Channel σ) (m : Message) : SameBuffer c (c.queue m).2 := by
  by_cases haccepts : c.Accepts m
  · obtain ⟨session, -, hqueue⟩ := queue_of_accepts haccepts
    rw [hqueue]
    exact ⟨rfl, rfl⟩
  · obtain ⟨e, hqueue⟩ := queue_of_not_accepts haccepts
    rw [hqueue]
    exact ⟨rfl, rfl⟩

theorem sameBuffer_flush (c : Channel σ) : SameBuffer c c.flush.2 := flush_buffer c

theorem sameBuffer_drainBlocking (c : Channel σ) : SameBuffer c c.drainBlocking.2 := by
  rcases drainBlocking_snd c with h | h
  · rw [h]
    exact ⟨rfl, rfl⟩
  · rw [h]
    exact sameBuffer_flush { c with stream := (ByteStream.setBlocking c.stream true).2 }

theorem sameBuffer_send (c : Channel σ) (m : Message) : SameBuffer c (c.send m).2 := by
  have hqueue := sameBuffer_queue c m
  rcases send_snd c m with h | h | h
  · rw [h]
    exact hqueue
  · rw [h]
    exact hqueue.trans (sameBuffer_flush _)
  · rw [h]
    exact (hqueue.trans (sameBuffer_flush _)).trans (sameBuffer_drainBlocking _)

theorem sameBuffer_trySend (c : Channel σ) (m : Message) : SameBuffer c (c.trySend m).2 := by
  rcases trySend_snd c m with h | h
  · rw [h]
    exact sameBuffer_queue c m
  · rw [h]
    exact (sameBuffer_queue c m).trans (sameBuffer_flush _)

/-- How an operation uses the buffer: only `recv` does. -/
def Act.uses (c : Channel σ) : Act → List BufferUse
  | .recv => recvUses c
  | _ => []

/-- How several operations use the buffer. -/
def Act.usesAll (c : Channel σ) (own : Message) : List Act → List BufferUse
  | [] => []
  | a :: acts => a.uses c ++ usesAll (a.run c own).1 (a.run c own).2 acts

theorem Act.run_buffer (a : Act) (c : Channel σ) (own : Message) :
    AllFit c.maxBodyLen c.received (a.uses c) ∧
      replay c.received (a.uses c) = (a.run c own).1.received ∧
      (a.run c own).1.maxBodyLen = c.maxBodyLen := by
  have hsame {d : Channel σ} (h : SameBuffer c d) : AllFit c.maxBodyLen c.received [] ∧
      replay c.received [] = d.received ∧ d.maxBodyLen = c.maxBodyLen := ⟨trivial, h.1.symm, h.2⟩
  cases a with
  | send m => exact hsame (sameBuffer_send c m)
  | trySend m => exact hsame (sameBuffer_trySend c m)
  | flush => exact hsame (sameBuffer_flush c)
  | recv =>
    obtain ⟨hfits, hreplay, -⟩ := recv_buffer c own
    exact ⟨hfits, hreplay, maxBodyLen_recv c own⟩
  | shutdown => exact hsame (sameBuffer_flush { c with session := c.session.closeNotify })
  | own m => exact hsame ⟨rfl, rfl⟩

theorem Act.runAll_buffer (c : Channel σ) (own : Message) (acts : List Act) :
    AllFit c.maxBodyLen c.received (Act.usesAll c own acts) ∧
      replay c.received (Act.usesAll c own acts) = (Act.runAll c own acts).1.received := by
  induction acts generalizing c own with
  | nil => exact ⟨trivial, rfl⟩
  | cons a acts ih =>
    obtain ⟨hfits, hreplay, hmax⟩ := a.run_buffer c own
    obtain ⟨hrest, hends⟩ := ih (a.run c own).1 (a.run c own).2
    rw [hmax] at hrest
    rw [Act.usesAll, allFit_append, replay_append, hreplay]
    exact ⟨⟨hfits, hrest⟩, hends⟩

/-! ## The bound -/

/-- What is done to a buffer that was empty at first keeps it small. -/
structure KeepsSmall (maxBodyLen : Nat) (uses : List BufferUse) : Prop where
  /-- Nothing is put behind a whole frame or behind a header that is refused. -/
  drains : ∀ before plain after, uses = before ++ .drain plain :: after →
    Begins maxBodyLen (replay [] before)
  /-- Room is made for what a header that was accepted declares, and for no more. -/
  reserves : ∀ before more after, uses = before ++ .reserve more :: after →
    ∃ header, Header.decode ((replay [] before).take Frame.headerLen) = .ok header ∧
      header.bodyLen.toNat ≤ maxBodyLen ∧
      (replay [] before).length + more = Frame.headerLen + header.bodyLen.toNat ∧
      (replay [] before).length + more ≤ Frame.headerLen + maxBodyLen
  /-- There is never more than the beginning of a frame and what was drained last. -/
  length_le : ∀ before after, uses = before ++ after →
    (replay [] before).length ≤ Frame.headerLen + maxBodyLen - 1 + lastDrain 0 before

theorem KeepsSmall.of_allFit {maxBodyLen : Nat} {uses : List BufferUse}
    (h : AllFit maxBodyLen [] uses) : KeepsSmall maxBodyLen uses where
  drains before plain after hall := by
    rw [hall] at h
    exact h.fits
  reserves before more after hall := by
    rw [hall] at h
    obtain ⟨header, hdecode, hle, hroom⟩ := h.fits
    exact ⟨header, hdecode, hle, hroom, by omega⟩
  length_le before after hall := by
    rw [hall, allFit_append] at h
    exact length_replay_le h.1 (Nat.zero_le _)

/-- Whatever is done with a channel that was just made, over whatever stream, its receive buffer stays
small; and a call of `recv` that finds nothing leaves the beginning of a frame and nothing that the
buffer could still get. -/
theorem buffer_bounded :
    (∀ (session : Session) (stream : σ) (maxBodyLen : Nat) (own : Message) (acts : List Act),
      let c := Channel.new session stream maxBodyLen
      KeepsSmall maxBodyLen (Act.usesAll c own acts) ∧
        replay [] (Act.usesAll c own acts) = (Act.runAll c own acts).1.received) ∧
    ∀ (c : Channel σ) (m : Message), (c.recv m).1 = .ok .empty →
      (c.recv m).2.1.session.plaintext = [] ∧ Begins c.maxBodyLen (c.recv m).2.1.received ∧
        front c.maxBodyLen (c.recv m).2.1.received = .unfinished := by
  refine ⟨fun session stream maxBodyLen own acts => ?_, fun c m hempty => ?_⟩
  · obtain ⟨hfits, hreplay⟩ := Act.runAll_buffer (Channel.new session stream maxBodyLen) own acts
    exact ⟨.of_allFit hfits, hreplay⟩
  · obtain ⟨hplain, hfront⟩ := (recv_buffer c m).2.2 hempty
    exact ⟨hplain, front_eq_unfinished_iff.1 hfront, hfront⟩

end Channel

end PinnedLink
