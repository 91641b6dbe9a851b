import PinnedLink.Json.Number

/-!
# Passing over JSON values

`skipValue` checks the form of one value of any depth and gives what is left behind it.  The
brackets that are open are kept on a stack, so depth costs nothing but its length.  Each step either
consumes a character or goes from an opening bracket to its first element, which makes the walk end.
-/

namespace PinnedLink.Json

/-- A bracket that is open. -/
inductive Bracket where
  | list
  | object
deriving DecidableEq, Repr

/-- The character that closes a bracket. -/
def Bracket.closing : Bracket → Char
  | .list => ']'
  | .object => '\x7d'

/-- The fault of a text that ends inside a bracket. -/
def Bracket.eof : Bracket → Fault
  | .list => .eofInList
  | .object => .eofInObject

/-- The fault of an element that neither a comma nor the closing bracket follows. -/
def Bracket.expectedCommaOrEnd : Bracket → Fault
  | .list => .expectedListCommaOrEnd
  | .object => .expectedObjectCommaOrEnd

/-- Passes over the colon behind a key. -/
def expectColon (cs : List Char) : Except Failure (List Char) :=
  match skipBlanks cs with
  | [] => .error (.here .eofInObject [])
  | ':' :: rest => .ok rest
  | cs => .error (.past .expectedColon cs)

theorem length_expectColon_lt {cs rest : List Char} (h : expectColon cs = .ok rest) :
    rest.length < cs.length := by
  have hb := length_skipBlanks_le cs
  unfold expectColon at h
  split at h
  · cases h
  · rename_i hr
    cases h
    rw [hr] at hb
    exact hb
  · cases h

/-- Passes over the key of a member and its colon; an element of a list has none. -/
def Bracket.skipKey (b : Bracket) (cs : List Char) : Except Failure (List Char) :=
  match b with
  | .list => .ok cs
  | .object =>
    match skipBlanks cs with
    | [] => .error (.here .eofInObject [])
    | '"' :: rest =>
      match skipString rest with
      | .ok rest => expectColon rest
      | .error e => .error e
    | cs => .error (.past .keyMustBeString cs)

theorem Bracket.length_skipKey_le {b : Bracket} {cs rest : List Char}
    (h : b.skipKey cs = .ok rest) : rest.length ≤ cs.length := by
  have hb := length_skipBlanks_le cs
  unfold Bracket.skipKey at h
  split at h
  · cases h; exact Nat.le_refl _
  · split at h
    · cases h
    · rename_i tail hr
      rw [hr, List.length_cons] at hb
      split at h
      · rename_i after hs
        have h1 := length_skipString_lt hs
        have h2 := length_expectColon_lt h
        omega
      · cases h
    · cases h

/-- Passes over a value without brackets. -/
def skipScalar (cs : List Char) : Except Failure (List Char) :=
  match cs with
  | [] => .error (.here .eofInValue [])
  | 'n' :: rest => expectWord ['u', 'l', 'l'] rest
  | 't' :: rest => expectWord ['r', 'u', 'e'] rest
  | 'f' :: rest => expectWord ['a', 'l', 's', 'e'] rest
  | '"' :: rest => skipString rest
  | '-' :: rest => skipNumber rest
  | c :: rest =>
    if Text.isDigit c then skipNumber (c :: rest) else .error (.past .expectedValue (c :: rest))

theorem length_skipScalar_le {cs rest : List Char} (h : skipScalar cs = .ok rest) :
    rest.length ≤ cs.length := by
  unfold skipScalar at h
  split at h
  · cases h
  · exact Nat.le_succ_of_le (length_expectWord_le h)
  · exact Nat.le_succ_of_le (length_expectWord_le h)
  · exact Nat.le_succ_of_le (length_expectWord_le h)
  · exact Nat.le_succ_of_le (Nat.le_of_lt (length_skipString_lt h))
  · exact Nat.le_succ_of_le (length_skipNumber_le h)
  · split at h
    · exact length_skipNumber_le h
    · cases h

/-- Where a walk over a value stands. -/
inductive Stand where
  /-- Behind a value. -/
  | after
  /-- In front of a value. -/
  | value
  /-- Behind an opening bracket. -/
  | opened
deriving DecidableEq, Repr

/-- Weight of a stand, by which the walk gets shorter when no character is consumed. -/
def Stand.rank : Stand → Nat
  | .after => 0
  | .value => 1
  | .opened => 2

/-- What one step of the walk finds behind a value or an opening bracket. -/
inductive Turn where
  /-- The innermost bracket is closed. -/
  | closed (rest : List Char)
  /-- An element follows. -/
  | element (rest : List Char)

/-- What is left after a turn. -/
def Turn.rest : Turn → List Char
  | .closed rest => rest
  | .element rest => rest

/-- The turn behind an opening bracket. -/
def Bracket.enter (b : Bracket) (cs : List Char) : Except Failure Turn :=
  match skipBlanks cs with
  | [] => .error (.here b.eof [])
  | c :: rest =>
    if c = b.closing then .ok (.closed rest)
    else match b.skipKey (c :: rest) with
      | .ok rest => .ok (.element rest)
      | .error e => .error e

/-- The turn behind an element. -/
def Bracket.advance (b : Bracket) (cs : List Char) : Except Failure Turn :=
  match skipBlanks cs with
  | [] => .error (.here b.eof [])
  | c :: rest =>
    if c = ',' then
      match b.skipKey rest with
      | .ok rest => .ok (.element rest)
      | .error e => .error e
    else if c = b.closing then .ok (.closed rest)
    else .error (.past b.expectedCommaOrEnd (c :: rest))

theorem Bracket.length_enter {b : Bracket} {cs : List Char} {t : Turn} (h : b.enter cs = .ok t) :
    t.rest.length ≤ cs.length ∧ ∀ rest, t = .closed rest → rest.length < cs.length := by
  have hb := length_skipBlanks_le cs
  unfold Bracket.enter at h
  split at h
  · cases h
  · rename_i c tail hr
    rw [hr, List.length_cons] at hb
    split at h
    · cases h
      refine ⟨Nat.le_of_lt hb, fun rest hc => ?_⟩
      cases hc
      exact hb
    · split at h
      · rename_i after hk
        cases h
        have hl := Bracket.length_skipKey_le hk
        rw [List.length_cons] at hl
        exact ⟨Nat.le_trans hl hb, fun rest hc => by cases hc⟩
      · cases h

theorem Bracket.length_advance {b : Bracket} {cs : List Char} {t : Turn}
    (h : b.advance cs = .ok t) : t.rest.length < cs.length := by
  have hb := length_skipBlanks_le cs
  unfold Bracket.advance at h
  split at h
  · cases h
  · rename_i c tail hr
    rw [hr, List.length_cons] at hb
    split at h
    · split at h
      · rename_i after hk
        cases h
        have hl := Bracket.length_skipKey_le hk
        exact Nat.lt_of_le_of_lt hl hb
      · cases h
    · split at h
      · cases h; exact hb
      · cases h

/-- Walks to the end of the value whose open brackets are given, innermost first. -/
def skipFrom (stand : Stand) (stack : List Bracket) (cs : List Char) :
    Except Failure (List Char) :=
  match stand, stack with
  | .value, stack =>
    match _hb : skipBlanks cs with
    | '[' :: rest => skipFrom .opened (.list :: stack) rest
    | '\x7b' :: rest => skipFrom .opened (.object :: stack) rest
    | tail =>
      match _h : skipScalar tail with
      | .error e => .error e
      | .ok rest => skipFrom .after stack rest
  | .after, [] | .opened, [] => .ok cs
  | .after, b :: stack =>
    match _h : b.advance cs with
    | .error e => .error e
    | .ok (.closed rest) => skipFrom .after stack rest
    | .ok (.element rest) => skipFrom .value (b :: stack) rest
  | .opened, b :: stack =>
    match _h : b.enter cs with
    | .error e => .error e
    | .ok (.closed rest) => skipFrom .after stack rest
    | .ok (.element rest) => skipFrom .value (b :: stack) rest
termination_by 3 * cs.length + stand.rank
decreasing_by
  all_goals simp only [Stand.rank]
  all_goals first
    | (have hl := length_skipBlanks_le cs; rw [_hb, List.length_cons] at hl; omega)
    | (have hl := Bracket.length_advance _h; simp only [Turn.rest] at hl; omega)
    | (have hl := (Bracket.length_enter _h).2 _ rfl; omega)
    | (have hl := (Bracket.length_enter _h).1; simp only [Turn.rest] at hl; omega)
    | (have hl := length_skipBlanks_le cs
       have hs := length_skipScalar_le _h
       rw [_hb] at hl
       omega)

theorem length_skipFrom_le {stand : Stand} {stack : List Bracket} {cs rest : List Char}
    (h : skipFrom stand stack cs = .ok rest) : rest.length ≤ cs.length := by
  fun_induction skipFrom stand stack cs with
  | case1 cs stack tail hb ih | case2 cs stack tail hb ih =>
    have hl := length_skipBlanks_le cs
    rw [hb, List.length_cons] at hl
    exact Nat.le_trans (ih h) (Nat.le_trans (Nat.le_succ _) hl)
  | case3 => cases h
  | case4 cs stack _ _ after hs ih =>
    exact Nat.le_trans (ih h)
      (Nat.le_trans (length_skipScalar_le hs) (length_skipBlanks_le cs))
  | case5 => cases h; exact Nat.le_refl _
  | case6 => cases h; exact Nat.le_refl _
  | case7 => cases h
  | case8 cs b stack after ht ih | case9 cs b stack after ht ih =>
    exact Nat.le_trans (ih h) (Nat.le_of_lt (Bracket.length_advance ht))
  | case10 => cases h
  | case11 cs b stack after ht ih | case12 cs b stack after ht ih =>
    exact Nat.le_trans (ih h) (Bracket.length_enter ht).1

/-- What is left behind a value of any kind. -/
def skipValue (cs : List Char) : Except Failure (List Char) := skipFrom .value [] cs

theorem length_skipValue_le {cs rest : List Char} (h : skipValue cs = .ok rest) :
    rest.length ≤ cs.length :=
  length_skipFrom_le h

end PinnedLink.Json
