import PinnedLink.Config.Basic
import PinnedLink.Proofs.Text.Spelling

/-!
# Settings from texts

`Accepts` is the grammar of the three settings: which texts each of them takes, white space at their
ends apart, and the `Change` that they ask for.  A call with such a text makes that change and no other,
and any other call is refused and leaves the configuration as it is (`call_eq_ok_iff`,
`call_eq_error_iff`).

A setting only listens to its own calls (`value_called`).  So behind any number of calls it holds what
the last accepted one of its own has asked for (`LastAccepted`), however they were mixed with calls of
the other settings.
-/

namespace PinnedLink

open Text (Trims Numeral)

/-! ## The grammar of settings -/

namespace Setting

/-- A setting and a value for it. -/
inductive Change where
  | host (value : String)
  | port (value : UInt16)
  | maxBodyLen (value : UInt64)
deriving DecidableEq, Repr

/-- The configuration with a change made to it. -/
def Change.make (c : Config) : Change → Config
  | .host value => { c with host := value }
  | .port value => { c with port := value }
  | .maxBodyLen value => { c with maxBodyLen := value }

/-- The setting that a change is made to. -/
def Change.setting : Change → Setting
  | .host _ => .host
  | .port _ => .port
  | .maxBodyLen _ => .maxBodyLen

/-- The texts that a setting takes, without white space at their ends, and what they ask for. -/
inductive Accepts : Setting → List Char → Change → Prop where
  | host {text : List Char} (hne : text ≠ []) : Accepts .host text (.host (String.ofList text))
  | port {text : List Char} {n : Nat} (h : Numeral text n) (hle : n ≤ 65535) :
      Accepts .port text (.port (UInt16.ofNat n))
  | maxBodyLen {text : List Char} {n : Nat} (h : Numeral text n) (hpos : 1 ≤ n)
      (hle : n ≤ 4294967295) : Accepts .maxBodyLen text (.maxBodyLen (UInt64.ofNat n))

/-- What a setting reports of a text that it does not take. -/
def refusal (s : Setting) (text : List Char) : ConfigError :=
  match s with
  | .host => .emptyHost
  | .port => .invalidPort (String.ofList text)
  | .maxBodyLen => .invalidMaxBodyLen (String.ofList text)

theorem Accepts.setting_eq {s : Setting} {text : List Char} {change : Change}
    (h : s.Accepts text change) : change.setting = s := by
  cases h <;> rfl

/-- A text that a setting takes makes its change. -/
theorem Accepts.setTrimmed {s : Setting} {text : List Char} {change : Change}
    (h : s.Accepts text change) (c : Config) : c.setTrimmed s text = .ok (change.make c) := by
  cases h with
  | host hne => exact if_neg hne
  | port h hle => rw [Config.setTrimmed, Text.readNumeral?_eq_some_iff.2 ⟨h, hle⟩]; rfl
  | @maxBodyLen _ n h hpos hle =>
    have hlimit : n ≤ Config.maxBodyLenLimit := hle
    rw [Config.setTrimmed, Text.readNumeral?_eq_some_iff.2 ⟨h, hlimit⟩]
    exact if_neg (Nat.ne_of_gt hpos)

/-- A text that a setting does not take is reported. -/
theorem setTrimmed_of_not_accepts {s : Setting} {text : List Char}
    (h : ∀ change, ¬ s.Accepts text change) (c : Config) :
    c.setTrimmed s text = .error (s.refusal text) := by
  cases s with
  | host =>
    have hnil : text = [] := not_not.1 fun hne => h _ (.host hne)
    exact if_pos hnil
  | port =>
    have hread : Text.readNumeral? 65535 text = none :=
      Text.readNumeral?_eq_none_iff.2 fun n hn => Nat.lt_of_not_le fun hle => h _ (.port hn hle)
    rw [Config.setTrimmed, hread]
    rfl
  | maxBodyLen =>
    rw [Config.setTrimmed]
    cases hread : Text.readNumeral? Config.maxBodyLenLimit text with
    | none => rfl
    | some n =>
      -- a numeral within the limit is only refused for being zero
      obtain ⟨hn, hle⟩ := Text.readNumeral?_eq_some_iff.1 hread
      have hzero : n = 0 := by
        by_contra hne
        exact h _ (.maxBodyLen hn (Nat.pos_of_ne_zero hne) hle)
      exact if_pos hzero

end Setting

/-! ## Calls -/

namespace Config

open Setting (Change)

/-- What a configuration holds in a setting. -/
def value (c : Config) : Setting → Change
  | .host => .host c.host
  | .port => .port c.port
  | .maxBodyLen => .maxBodyLen c.maxBodyLen

/-- A call that gives a setting a text. -/
structure Call where
  setting : Setting
  text : String
deriving DecidableEq, Repr

namespace Call

/-- The call asks for a change with a text that its setting takes. -/
def Grants (call : Call) (change : Change) : Prop :=
  ∃ inner, Trims call.text.toList inner ∧ call.setting.Accepts inner change

/-- The call is refused: its setting takes no such text, and reports it without the white space at its
ends. -/
def Refused (call : Call) (e : ConfigError) : Prop :=
  ∃ inner, Trims call.text.toList inner ∧ (∀ change, ¬ call.setting.Accepts inner change) ∧
    e = call.setting.refusal inner

/-- The calls of one setting. -/
def own (s : Setting) (calls : List Call) : List Call := calls.filter (·.setting = s)

theorem own_cons_of_eq {s : Setting} {call : Call} (h : call.setting = s) (calls : List Call) :
    own s (call :: calls) = call :: own s calls := List.filter_cons_of_pos (decide_eq_true h)

theorem own_cons_of_ne {s : Setting} {call : Call} (h : call.setting ≠ s) (calls : List Call) :
    own s (call :: calls) = own s calls :=
  List.filter_cons_of_neg (by rw [decide_eq_false h]; exact Bool.false_ne_true)

end Call

/-- The answer to a call and the configuration behind it. -/
def call (c : Config) (call : Call) : Except ConfigError Unit × Config :=
  match c.set call.setting call.text with
  | .ok d => (.ok (), d)
  | .error e => (.error e, c)

variable {c : Config}

theorem call_of_grants {call : Call} {change : Change} (h : call.Grants change) :
    c.call call = (.ok (), change.make c) := by
  obtain ⟨inner, htrim, haccepts⟩ := h
  have hset : c.set call.setting call.text = .ok (change.make c) := by
    rw [set, ← Text.trims_iff.1 htrim]
    exact haccepts.setTrimmed c
  rw [Config.call, hset]

theorem call_of_refused {call : Call} {e : ConfigError} (h : call.Refused e) :
    c.call call = (.error e, c) := by
  obtain ⟨inner, htrim, hrefused, rfl⟩ := h
  have hset : c.set call.setting call.text = .error (call.setting.refusal inner) := by
    rw [set, ← Text.trims_iff.1 htrim]
    exact Setting.setTrimmed_of_not_accepts hrefused c
  rw [Config.call, hset]

theorem grants_or_refused (call : Call) :
    (∃ change, call.Grants change) ∨ ∃ e, call.Refused e := by
  have htrim : Trims call.text.toList (Text.trim call.text.toList) := Text.trims_iff.2 rfl
  by_cases h : ∃ change, call.setting.Accepts (Text.trim call.text.toList) change
  · obtain ⟨change, haccepts⟩ := h
    exact .inl ⟨change, _, htrim, haccepts⟩
  · exact .inr ⟨_, _, htrim, not_exists.1 h, rfl⟩

/-- A call is accepted exactly if its text is in the grammar of its setting, and then it makes the change
that the text asks for. -/
theorem call_eq_ok_iff {call : Call} {d : Config} :
    c.call call = (.ok (), d) ↔ ∃ change, call.Grants change ∧ d = change.make c := by
  constructor
  · intro h
    obtain ⟨change, hgrants⟩ | ⟨e, hrefused⟩ := grants_or_refused call
    · rw [call_of_grants hgrants] at h
      cases h
      exact ⟨change, hgrants, rfl⟩
    · rw [call_of_refused hrefused] at h
      cases h
  · rintro ⟨change, hgrants, rfl⟩
    exact call_of_grants hgrants

/-- Any other call is refused, and changes nothing. -/
theorem call_eq_error_iff {call : Call} {e : ConfigError} {d : Config} :
    c.call call = (.error e, d) ↔ call.Refused e ∧ d = c := by
  constructor
  · intro h
    obtain ⟨change, hgrants⟩ | ⟨e', hrefused⟩ := grants_or_refused call
    · rw [call_of_grants hgrants] at h
      cases h
    · rw [call_of_refused hrefused] at h
      cases h
      exact ⟨hrefused, rfl⟩
  · rintro ⟨hrefused, rfl⟩
    exact call_of_refused hrefused

/-! ## What a call leaves alone -/

theorem value_make_of_eq {change : Change} {s : Setting} (h : change.setting = s) :
    (change.make c).value s = change := by
  subst h
  cases change <;> rfl

theorem value_make_of_ne {change : Change} {s : Setting} (h : change.setting ≠ s) :
    (change.make c).value s = c.value s := by
  cases change <;> cases s <;> first | rfl | exact absurd rfl h

/-- A setting does not listen to calls of the others. -/
theorem value_call_of_ne {call : Call} {s : Setting} (h : call.setting ≠ s) :
    (c.call call).2.value s = c.value s := by
  obtain ⟨change, hgrants⟩ | ⟨e, hrefused⟩ := grants_or_refused call
  · rw [call_of_grants hgrants]
    obtain ⟨inner, -, haccepts⟩ := hgrants
    exact value_make_of_ne (haccepts.setting_eq ▸ h)
  · rw [call_of_refused hrefused]

/-- What a setting holds behind a call goes by what it held in front of it. -/
theorem value_call_congr {d : Config} {s : Setting} (h : c.value s = d.value s) (call : Call) :
    (c.call call).2.value s = (d.call call).2.value s := by
  by_cases hs : call.setting = s
  · obtain ⟨change, hgrants⟩ | ⟨e, hrefused⟩ := grants_or_refused call
    · have hsetting : change.setting = s := by
        obtain ⟨inner, -, haccepts⟩ := hgrants
        exact haccepts.setting_eq.trans hs
      rw [call_of_grants hgrants, call_of_grants hgrants, value_make_of_eq hsetting,
        value_make_of_eq hsetting]
    · rw [call_of_refused hrefused, call_of_refused hrefused]
      exact h
  · rw [value_call_of_ne hs, value_call_of_ne hs, h]

/-- No call reaches the fields that are no settings. -/
theorem call_keeps (call : Call) :
    (c.call call).2.versions = c.versions ∧ (c.call call).2.trustedPeerPem = c.trustedPeerPem := by
  obtain ⟨change, hgrants⟩ | ⟨e, hrefused⟩ := grants_or_refused call
  · rw [call_of_grants hgrants]
    cases change <;> exact ⟨rfl, rfl⟩
  · rw [call_of_refused hrefused]
    exact ⟨rfl, rfl⟩

/-- A configuration is known by its settings and the two other fields. -/
theorem eq_of_values {d : Config} (hvalue : ∀ s, c.value s = d.value s)
    (hversions : c.versions = d.versions) (hpem : c.trustedPeerPem = d.trustedPeerPem) : c = d := by
  have hhost := hvalue .host
  have hport := hvalue .port
  have hlen := hvalue .maxBodyLen
  cases c
  cases d
  simp_all [value]

/-! ## Runs of calls -/

/-- The configuration behind several calls, in order. -/
def called (c : Config) (calls : List Call) : Config :=
  calls.foldl (fun c call => (c.call call).2) c

@[simp] theorem called_nil (c : Config) : c.called [] = c := rfl

@[simp] theorem called_cons (c : Config) (call : Call) (calls : List Call) :
    c.called (call :: calls) = (c.call call).2.called calls := rfl

theorem called_append (c : Config) (calls more : List Call) :
    c.called (calls ++ more) = (c.called calls).called more := List.foldl_append

theorem called_keeps (c : Config) (calls : List Call) :
    (c.called calls).versions = c.versions ∧
      (c.called calls).trustedPeerPem = c.trustedPeerPem := by
  induction calls generalizing c with
  | nil => exact ⟨rfl, rfl⟩
  | cons call calls ih =>
    rw [called_cons]
    exact ⟨(ih _).1.trans (call_keeps call).1, (ih _).2.trans (call_keeps call).2⟩

/-- A setting only listens to its own calls. -/
theorem value_called {d : Config} {s : Setting} (h : c.value s = d.value s) (calls : List Call) :
    (c.called calls).value s = (d.called (Call.own s calls)).value s := by
  induction calls generalizing c d with
  | nil => exact h
  | cons call calls ih =>
    rw [called_cons]
    by_cases hs : call.setting = s
    · rw [Call.own_cons_of_eq hs, called_cons]
      exact ih (value_call_congr h call)
    · rw [Call.own_cons_of_ne hs]
      exact ih ((value_call_of_ne hs).trans h)

/-- Calls that are the same for each setting come to the same, in whatever order the settings take
turns. -/
theorem called_eq_of_own {calls other : List Call}
    (h : ∀ s, Call.own s calls = Call.own s other) : c.called calls = c.called other := by
  refine eq_of_values (fun s => ?_) ?_ ?_
  · rw [value_called rfl calls, value_called rfl other, h s]
  · rw [(called_keeps c calls).1, (called_keeps c other).1]
  · rw [(called_keeps c calls).2, (called_keeps c other).2]

/-- What the last accepted of some calls of a setting has asked for; if none was accepted, what the
setting held in front of them. -/
inductive LastAccepted (c : Config) (calls : List Call) (s : Setting) : Change → Prop where
  | granted {before later : List Call} {call : Call} {change : Change}
      (hsplit : calls = before ++ call :: later) (hs : call.setting = s) (h : call.Grants change)
      (hlater : ∀ call ∈ later, call.setting = s → ∃ e, call.Refused e) :
      LastAccepted c calls s change
  | kept (h : ∀ call ∈ calls, call.setting = s → ∃ e, call.Refused e) :
      LastAccepted c calls s (c.value s)

/-- A call that its setting refuses, or that is not one of the setting, is not the last accepted one. -/
theorem LastAccepted.append {calls : List Call} {s : Setting} {change : Change}
    (h : LastAccepted c calls s change) {call : Call}
    (hcall : call.setting = s → ∃ e, call.Refused e) : LastAccepted c (calls ++ [call]) s change := by
  have hlast : ∀ x ∈ [call], x.setting = s → ∃ e, x.Refused e := List.forall_mem_singleton.2 hcall
  cases h with
  | granted hsplit hs h hlater =>
    subst hsplit
    exact .granted (by rw [List.append_assoc, List.cons_append]) hs h
      (List.forall_mem_append.2 ⟨hlater, hlast⟩)
  | kept h => exact .kept (List.forall_mem_append.2 ⟨h, hlast⟩)

theorem lastAccepted_called (c : Config) (calls : List Call) (s : Setting) :
    LastAccepted c calls s ((c.called calls).value s) := by
  -- from the last call backwards, since that is the one that decides
  induction calls using List.reverseRecOn with
  | nil => exact .kept fun _ hmem => absurd hmem List.not_mem_nil
  | append_singleton calls call ih =>
    rw [called_append, called_cons, called_nil]
    by_cases hs : call.setting = s
    · obtain ⟨change, hgrants⟩ | ⟨e, hrefused⟩ := grants_or_refused call
      · have hsetting : change.setting = s := by
          obtain ⟨inner, -, haccepts⟩ := hgrants
          exact haccepts.setting_eq.trans hs
        rw [call_of_grants hgrants, value_make_of_eq hsetting]
        exact .granted rfl hs hgrants fun _ hmem => absurd hmem List.not_mem_nil
      · rw [call_of_refused hrefused]
        exact ih.append fun _ => ⟨e, hrefused⟩
    · rw [value_call_of_ne hs]
      exact ih.append fun heq => absurd heq hs

/-- Texts change settings by their grammar alone.  A call is accepted exactly if its setting takes its
text, and then it changes that setting to the value that the text writes; any other call reports the
setting's error and changes nothing.  So behind any calls each setting holds what the last accepted one
of its own has asked for, or what it held at first, however calls of different settings take turns; and
the version policy and the trusted certificates stay. -/
theorem called_holds_last_accepted (c : Config) (calls : List Call) :
    (∀ (d : Config) (call : Call),
        (∀ after, d.call call = (.ok (), after) ↔
          ∃ change, call.Grants change ∧ after = change.make d) ∧
        ∀ e after, d.call call = (.error e, after) ↔ call.Refused e ∧ after = d) ∧
      (∀ s, LastAccepted c calls s ((c.called calls).value s)) ∧
      (∀ other, (∀ s, Call.own s other = Call.own s calls) → c.called other = c.called calls) ∧
      (c.called calls).versions = c.versions ∧
      (c.called calls).trustedPeerPem = c.trustedPeerPem :=
  ⟨fun _ _ => ⟨fun _ => call_eq_ok_iff, fun _ _ => call_eq_error_iff⟩, lastAccepted_called c calls,
    fun _ => called_eq_of_own, called_keeps c calls⟩

/-- A port with white space around it and zeros in front, an empty host, and a port that is too large. -/
example :
    fresh.called [⟨.port, "\u3000 +0080\n"⟩, ⟨.host, " \t"⟩, ⟨.port, "65536"⟩] =
      { fresh with port := 80 } := by
  decide

end Config

end PinnedLink
