import PinnedLink.Proofs.Session.Carried

/-!
# What a session adds to what it says

All that a session ever does to its sending half is to seal plaintext or an alert behind what it has
sealed before (`Speaking.Adds`), and it seals no plaintext but what it is given: receiving adds nothing
or one alert (`receive_adds`).

`Speaking.Said` reads the whole of what an end has said as the plaintext that it was given before its
first alert.  That is what the other end opens, however much of it has arrived
(`Speaking.Said.opens`).
-/

namespace PinnedLink.Session

/-! ## Adding to what was said -/

namespace Speaking

/-- What an end has done to its sending half: it has sealed the plaintext `plain`, or an alert, or
nothing.  It may have come to know of a failure. -/
inductive Adds (out : Speaking) : Bytes → Speaking → Prop where
  | nothing (failure : Option Error) : Adds out [] { out with failure }
  | data {count : Nat} {wire plain : Bytes}
      (h : Transcript out.version out.side out.sealedCount wire plain (.next count)) :
      Adds out plain { out with sealedCount := count, outbox := out.outbox ++ wire }
  | alert (level code : UInt8) (failure : Option Error) :
      Adds out [] { out with
        sealedCount := out.sealedCount + 1
        outbox := out.outbox
          ++ (Record.sealed out.version out.side out.sealedCount .alert [level, code]).encode
        saidGoodbye := true
        failure }

theorem Adds.refl (out : Speaking) : Adds out [] out := .nothing out.failure

/-- An alert, and what an end has sealed behind it. -/
def IsFarewell (version : Version) (side : Side) (seq : Nat) (bytes : Bytes) : Prop :=
  ∃ level code more,
    bytes = (Record.sealed version side seq .alert [level, code]).encode ++ more

theorem IsFarewell.append {version : Version} {side : Side} {seq : Nat} {bytes : Bytes}
    (h : IsFarewell version side seq bytes) (more : Bytes) :
    IsFarewell version side seq (bytes ++ more) := by
  obtain ⟨level, code, behind, rfl⟩ := h
  exact ⟨level, code, behind ++ more, List.append_assoc _ _ _⟩

/-- Behind `start`, a side has sealed the plaintext `plain`, and then nothing or a farewell. -/
structure Said (out : Speaking) (version : Version) (side : Side) (start plain : Bytes) : Prop where
  version_eq : out.version = version
  side_eq : out.side = side
  said : ∃ n wire rest, out.outbox = start ++ (wire ++ rest) ∧
    Transcript version side 0 wire plain (.next n) ∧
    (out.saidGoodbye = false ∧ rest = [] ∧ n = out.sealedCount ∨
      out.saidGoodbye = true ∧ IsFarewell version side n rest)

/-- What is sealed before the first alert goes behind what was said, and nothing else counts. -/
theorem Said.adds {out out' : Speaking} {version : Version} {side : Side} {start plain more : Bytes}
    (h : out.Said version side start plain) (hadds : out.Adds more out') :
    out'.Said version side start (plain ++ if out.saidGoodbye then [] else more) := by
  obtain ⟨rfl, rfl, n, wire, rest, hall, hwire, hrest⟩ := h
  cases hadds with
  | nothing failure =>
    rw [ite_self, List.append_nil]
    exact ⟨rfl, rfl, n, wire, rest, hall, hwire, hrest⟩
  | @data count more plain' hmore =>
    rcases hrest with ⟨hsaid, rfl, rfl⟩ | ⟨hsaid, hfarewell⟩
    · rw [if_neg (Bool.eq_false_iff.1 hsaid)]
      refine ⟨rfl, rfl, count, wire ++ more, [], ?_, hwire.append hmore,
        Or.inl ⟨hsaid, rfl, rfl⟩⟩
      simp only [hall, List.append_nil, List.append_assoc]
    · rw [if_pos hsaid, List.append_nil]
      refine ⟨rfl, rfl, n, wire, rest ++ more, ?_, hwire, Or.inr ⟨hsaid, hfarewell.append more⟩⟩
      simp only [hall, List.append_assoc]
  | alert level code failure =>
    rw [ite_self, List.append_nil]
    rcases hrest with ⟨hsaid, rfl, rfl⟩ | ⟨hsaid, hfarewell⟩
    · refine ⟨rfl, rfl, out.sealedCount, wire, _, ?_, hwire, Or.inr ⟨rfl, level, code, [], rfl⟩⟩
      simp only [hall, List.append_nil, List.append_assoc]
    · have hbehind := hfarewell.append
        (Record.sealed out.version out.side out.sealedCount .alert [level, code]).encode
      refine ⟨rfl, rfl, n, wire, _, ?_, hwire, Or.inr ⟨rfl, hbehind⟩⟩
      simp only [hall, List.append_assoc]

end Speaking

open Speaking (Adds)

/-! ## What a session adds -/

/-- Plaintext that a session takes is sealed. -/
theorem send?_adds {s t : Session} {plain : Bytes} (h : s.send? plain = .ok t) :
    s.speaking.Adds plain t.speaking ∧ t.listening = s.listening := by
  have hfailure : s.failure = none := by
    unfold send? at h
    split at h
    · cases h
    · assumption
  obtain ⟨count, wire, hsend, hwire⟩ := send?_speaks hfailure plain
  rw [hsend] at h
  cases h
  exact ⟨.data hwire, rfl⟩

theorem fail_adds (s : Session) (e : Error) : s.speaking.Adds [] (s.fail e).speaking := by
  unfold fail
  dsimp only
  split
  · exact .alert _ _ (some e)
  · exact .nothing (some e)

theorem closeNotify_adds (s : Session) : s.speaking.Adds [] s.closeNotify.speaking := by
  unfold closeNotify
  split
  · exact .refl _
  · exact .alert _ _ s.failure

theorem accept_speaking {s t : Session} {r : Record} (h : s.accept r = .ok t) :
    t.speaking = s.speaking := by
  unfold accept at h
  split at h
  · cases h
  · split at h
    · cases h
    · dsimp only at h
      split at h
      · cases h
        rfl
      · split at h
        · cases h
          rfl
        · cases h
        · cases h
      · cases h

/-- Opening records adds nothing, or the alert for the record that is refused. -/
theorem openRecords_adds (s : Session) :
    s.speaking.Adds [] s.openRecords.2.speaking ∧
      (s.openRecords.1 = none → s.openRecords.2.speaking = s.speaking) := by
  fun_induction openRecords s with
  | case1 s hsplit => exact ⟨.refl _, fun _ => rfl⟩
  | case2 s fault hsplit => exact ⟨fail_adds s _, fun h => by cases h⟩
  | case3 s r rest hsplit e he =>
    exact ⟨fail_adds { s with inbox := rest } e, fun h => by cases h⟩
  | case4 s r rest hsplit t ht hclosed =>
    have hsame : t.speaking = s.speaking := accept_speaking ht
    exact ⟨hsame ▸ .refl s.speaking, fun _ => hsame⟩
  | case5 s r rest hsplit t ht hclosed ih =>
    have hsame : t.speaking = s.speaking := accept_speaking ht
    rw [← hsame]
    exact ih

theorem receive_adds (s : Session) :
    s.speaking.Adds [] s.receive.2.speaking ∧
      (s.receive.1 = none → s.receive.2.speaking = s.speaking) := by
  unfold receive
  split
  · exact ⟨.refl _, fun h => by cases h⟩
  · exact openRecords_adds s

/-! ## What the other end opens -/

/-- The plaintext that a fresh session opens of what the other side has sealed and what has arrived of
that. -/
def opened (version : Version) (side : Side) (arrived : Bytes) : Bytes :=
  ({ established version side.other with inbox := arrived } : Session).openRecords.2.plaintext

theorem opened_eq_carried (version : Version) (side : Side) (arrived : Bytes) :
    opened version side arrived = carried version side 0 arrived := by
  have hplain : opened version side arrived = [] ++ carried version side.other.other 0 arrived :=
    Session.plaintext_openRecords rfl
  rw [hplain, List.nil_append, side.other_other]

/-- What arrives later takes nothing back of what was opened. -/
theorem opened_prefix_append (version : Version) (side : Side) (arrived more : Bytes) :
    opened version side arrived <+: opened version side (arrived ++ more) := by
  rw [opened_eq_carried, opened_eq_carried]
  exact carried_prefix_append version side 0 arrived more

/-- An alert takes nothing back and gives nothing. -/
theorem plaintext_openRecords_of_alert {s : Session} {level code : UInt8} {after : Bytes}
    (hsplit : Record.split s.inbox =
      .whole (.sealed s.version s.side.other s.openedCount .alert [level, code]) after) :
    s.openRecords.2.plaintext = s.plaintext := by
  have haccept : ∀ t, s.accept (.sealed s.version s.side.other s.openedCount .alert [level, code]) =
      .ok t → t.plaintext = s.plaintext ∧ t.peerClosed = true := by
    intro t ht
    unfold accept at ht
    split at ht
    · cases ht
    · rw [Record.open?_sealed] at ht
      dsimp only at ht
      split at ht
      · cases ht
        exact ⟨rfl, rfl⟩
      · cases ht
      · cases ht
  rw [openRecords]
  split
  · rfl
  · exact plaintext_fail s _
  · rename_i r rest hwhole
    obtain ⟨rfl, -⟩ : _ ∧ after = rest := by
      simpa only [Record.Split.whole.injEq] using hsplit.symm.trans hwhole
    split
    · exact plaintext_fail _ _
    · rename_i t ht
      obtain ⟨hplain, hclosed⟩ := haccept t ht
      rw [if_pos hclosed]
      exact hplain

/-- If a record has arrived of a farewell, it is the alert. -/
theorem Speaking.IsFarewell.split {version : Version} {side : Side} {seq : Nat}
    {inbox ahead : Bytes} (h : IsFarewell version side seq (inbox ++ ahead))
    (hsplit : Record.split inbox ≠ .incomplete) :
    ∃ level code after,
      Record.split inbox = .whole (.sealed version side seq .alert [level, code]) after := by
  obtain ⟨level, code, more, hall⟩ := h
  have hlen : [level, code].length ≤ Record.maxFragment := by
    simp only [List.length_cons, List.length_nil, Record.maxFragment]
    omega
  have hfront := congrArg Record.split hall
  rw [Record.split_encode_sealed_append _ _ _ _ _ hlen, Record.split_append ahead hsplit] at hfront
  cases hinbox : Record.split inbox with
  | incomplete => exact absurd hinbox hsplit
  | malformed fault =>
    rw [hinbox] at hfront
    cases hfront
  | whole r after =>
    rw [hinbox] at hfront
    obtain ⟨rfl, -⟩ : r = _ ∧ _ := by
      simpa only [Record.Split.append, Record.Split.whole.injEq] using hfront
    exact ⟨level, code, after, rfl⟩

namespace Opens

variable {s : Session} {ahead bad plain inbox got wire left : Bytes} {n count : Nat}

/-- A farewell behind a transcript takes nothing back and gives nothing. -/
theorem plaintext_openRecords (h : s.Opens ahead bad plain n count inbox got wire left)
    (hbad : bad = [] ∨ Speaking.IsFarewell s.version s.side.other n bad) :
    s.openRecords.2.plaintext = s.plaintext ++ got := by
  rw [h.opened]
  by_cases hsplit : Record.split inbox = .incomplete
  · rw [openRecords_of_incomplete hsplit]
  · have hall := h.all
    have htranscript := h.transcript
    rw [h.stops.resolve_left hsplit] at hall htranscript
    cases htranscript with
    | nil seq =>
      rw [List.nil_append] at hall
      rcases hbad with rfl | hfarewell
      · rw [(List.append_eq_nil_iff.1 hall).1] at hsplit
        exact absurd rfl hsplit
      · rw [← hall] at hfarewell
        obtain ⟨level, code, after, hwhole⟩ := hfarewell.split hsplit
        exact plaintext_openRecords_of_alert hwhole

/-- Once a transcript has arrived, nothing of it is left to be opened. -/
theorem left_eq_nil (h : s.Opens [] bad plain n count inbox got wire left) : left = [] := by
  have hall := h.all
  rw [List.append_nil] at hall
  have htranscript := h.transcript
  cases htranscript with
  | nil seq => rfl
  | data hlen _ =>
    rcases h.stops with hsplit | hnil
    · rw [hall, List.append_assoc, Record.split_encode_sealed_append _ _ _ _ _ hlen] at hsplit
      cases hsplit
    · cases hnil

end Opens

/-- Of all that a side has said the other one opens just the plaintext, and of a part of it a part. -/
theorem Speaking.Said.opens {out : Speaking} {version : Version} {side : Side} {start plain : Bytes}
    (h : out.Said version side start plain) :
    ∃ wire, out.outbox = start ++ wire ∧ ∀ arrived ahead, arrived ++ ahead = wire →
      ∃ left, plain = opened version side arrived ++ left ∧ (ahead = [] → left = []) := by
  obtain ⟨n, wire, rest, hall, hwire, hrest⟩ := h.said
  refine ⟨wire ++ rest, hall, fun arrived ahead harrived => ?_⟩
  have hside : side.other.other = side := side.other_other
  obtain ⟨count, inbox, got, wire', left, hopens⟩ := opens_of_transcript
    (s := { established version side.other with inbox := arrived }) rfl (hside ▸ hwire) harrived
  have hgot : opened version side arrived = got := by
    refine hopens.plaintext_openRecords ?_
    rcases hrest with ⟨-, hnil, -⟩ | ⟨-, hfarewell⟩
    · exact Or.inl hnil
    · exact Or.inr (hside.symm ▸ hfarewell)
  refine ⟨left, by rw [hgot, ← hopens.carried], ?_⟩
  rintro rfl
  exact hopens.left_eq_nil

end PinnedLink.Session
