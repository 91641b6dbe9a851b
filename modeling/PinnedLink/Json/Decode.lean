import PinnedLink.Json.Skip

/-!
# Reading typed values

Readers for the types that documents hold: texts, natural numbers up to a limit, values that may be
`null`, and choices from a list of names.  A reader takes what is left of a text and gives the value
with what is left behind it, never more than it was given.  Where the text holds a value of another
type, the message shows the value found.
-/

namespace PinnedLink.Json

/-- The failure of finding a value of another type than the one expected. -/
def unexpected (expected : String) (cs : List Char) : Failure :=
  let shown (f : Found) (rest : List Char) : Failure := .here (.invalidType f expected) rest
  let word (letters : List Char) (f : Found) (rest : List Char) : Failure :=
    match expectWord letters rest with
    | .ok rest => shown f rest
    | .error e => e
  let number (positive : Bool) (cs : List Char) : Failure :=
    match readNumber positive cs with
    | .ok (n, rest) => shown n.found rest
    | .error e => e
  match cs with
  | [] => .here .eofInValue []
  | 'n' :: rest => word ['u', 'l', 'l'] .null rest
  | 't' :: rest => word ['r', 'u', 'e'] (.boolean true) rest
  | 'f' :: rest => word ['a', 'l', 's', 'e'] (.boolean false) rest
  | '-' :: rest => number false rest
  | '"' :: rest =>
    match readString rest with
    | .ok (text, rest) => shown (.text (String.ofList text)) rest
    | .error e => e
  | '[' :: _ => shown .sequence cs
  | '\x7b' :: _ => shown .map cs
  | c :: _ => if Text.isDigit c then number true cs else .past .expectedValue cs

/-- Reads a text. -/
def readText (cs : List Char) : Except Failure (String × List Char) :=
  match skipBlanks cs with
  | '"' :: rest =>
    match readString rest with
    | .ok (text, rest) => .ok (String.ofList text, rest)
    | .error e => .error e
  | cs => .error (unexpected "a string" cs)

theorem length_readText_le {cs rest : List Char} {text : String}
    (h : readText cs = .ok (text, rest)) : rest.length ≤ cs.length := by
  have hb := length_skipBlanks_le cs
  unfold readText at h
  split at h
  · rename_i tail hr
    rw [hr, List.length_cons] at hb
    split at h
    · rename_i inner after hs
      cases h
      have hl := length_readString_lt hs
      omega
    · cases h
  · cases h

/-- A number as a natural number up to a limit. -/
def Number.toNatural (limit : Nat) (expected : String) (rest : List Char) :
    Number → Except Failure (Nat × List Char)
  | .natural n =>
    if n ≤ limit then .ok (n, rest) else .error (.here (.invalidValue n expected) rest)
  | .negative n => .error (.here (.invalidValue n expected) rest)
  | .real x => .error (.here (.invalidType (.real x) expected) rest)

/-- Reads a natural number up to a limit. -/
def readNatural (limit : Nat) (expected : String) (cs : List Char) :
    Except Failure (Nat × List Char) :=
  let number (positive : Bool) (cs : List Char) : Except Failure (Nat × List Char) :=
    match readNumber positive cs with
    | .ok (n, rest) => n.toNatural limit expected rest
    | .error e => .error e
  match skipBlanks cs with
  | '-' :: rest => number false rest
  | c :: rest =>
    if Text.isDigit c then number true (c :: rest) else .error (unexpected expected (c :: rest))
  | [] => .error (.here .eofInValue [])

theorem Number.rest_of_toNatural {limit value : Nat} {expected : String} {cs rest : List Char}
    {n : Number} (h : n.toNatural limit expected cs = .ok (value, rest)) :
    rest = cs ∧ value ≤ limit := by
  unfold Number.toNatural at h
  split at h
  · split at h
    · rename_i hle
      cases h
      exact ⟨rfl, hle⟩
    · cases h
  · cases h
  · cases h

theorem readNatural_bounds {limit value : Nat} {expected : String} {cs rest : List Char}
    (h : readNatural limit expected cs = .ok (value, rest)) :
    rest.length ≤ cs.length ∧ value ≤ limit := by
  have hb := length_skipBlanks_le cs
  unfold readNatural at h
  simp only at h
  split at h
  · rename_i tail hr
    rw [hr, List.length_cons] at hb
    split at h
    · rename_i n after hn
      obtain ⟨rfl, hv⟩ := Number.rest_of_toNatural h
      have hl := length_readNumber_le hn
      exact ⟨by omega, hv⟩
    · cases h
  · rename_i c tail _ hr
    rw [hr] at hb
    split at h
    · split at h
      · rename_i n after hn
        obtain ⟨rfl, hv⟩ := Number.rest_of_toNatural h
        exact ⟨Nat.le_trans (length_readNumber_le hn) hb, hv⟩
      · cases h
    · cases h
  · cases h

/-- Reads `null`, or else a value. -/
def readOption {α : Type} (read : List Char → Except Failure (α × List Char)) (cs : List Char) :
    Except Failure (Option α × List Char) :=
  match skipBlanks cs with
  | 'n' :: rest =>
    match expectWord ['u', 'l', 'l'] rest with
    | .ok rest => .ok (none, rest)
    | .error e => .error e
  | cs =>
    match read cs with
    | .ok (a, rest) => .ok (some a, rest)
    | .error e => .error e

theorem length_readOption_le {α : Type} {read : List Char → Except Failure (α × List Char)}
    (hread : ∀ {cs rest : List Char} {a : α}, read cs = .ok (a, rest) → rest.length ≤ cs.length)
    {cs rest : List Char} {a : Option α} (h : readOption read cs = .ok (a, rest)) :
    rest.length ≤ cs.length := by
  have hb := length_skipBlanks_le cs
  unfold readOption at h
  split at h
  · rename_i tail hr
    rw [hr, List.length_cons] at hb
    split at h
    · rename_i after hw
      cases h
      have hl := length_expectWord_le hw
      omega
    · cases h
  · split at h
    · rename_i hx
      cases h
      exact Nat.le_trans (hread hx) hb
    · cases h

/-- Reads `null`. -/
def readUnit (cs : List Char) : Except Failure (List Char) :=
  match skipBlanks cs with
  | 'n' :: rest => expectWord ['u', 'l', 'l'] rest
  | cs => .error (unexpected "unit" cs)

theorem length_readUnit_le {cs rest : List Char} (h : readUnit cs = .ok rest) :
    rest.length ≤ cs.length := by
  have hb := length_skipBlanks_le cs
  unfold readUnit at h
  split at h
  · rename_i tail hr
    rw [hr, List.length_cons] at hb
    have hl := length_expectWord_le h
    omega
  · cases h

/-- Reads a name, behind its opening quote, as one of the variants. -/
def readName {α : Type} (variants : List (String × α)) (cs : List Char) :
    Except Failure (α × List Char) :=
  match readString cs with
  | .error e => .error e
  | .ok (text, rest) =>
    let name := String.ofList text
    match variants.lookup name with
    | some a => .ok (a, rest)
    | none => .error (.here (.unknownVariant name (variants.map Prod.fst)) rest)

theorem length_readName_lt {α : Type} {variants : List (String × α)} {cs rest : List Char} {a : α}
    (h : readName variants cs = .ok (a, rest)) : rest.length < cs.length := by
  unfold readName at h
  split at h
  · cases h
  · rename_i hs
    simp only at h
    split at h
    · cases h
      exact length_readString_lt hs
    · cases h

/-- Reads the rest of a choice written as an object with one member whose value is `null`, behind
the opening brace. -/
def readTagged {α : Type} (variants : List (String × α)) (cs : List Char) :
    Except Failure (α × List Char) :=
  match skipBlanks cs with
  | [] => .error (.here .eofInObject [])
  | '"' :: rest => do
    let (a, rest) ← readName variants rest
    let rest ← readUnit (← expectColon rest)
    match skipBlanks rest with
    | [] => .error (.here .eofInObject [])
    | '\x7d' :: rest => .ok (a, rest)
    | cs => .error (.here .expectedValue cs)
  | '\x7d' :: rest => .error (.past .expectedValue ('\x7d' :: rest))
  | cs => .error (.past .keyMustBeString cs)

theorem length_readTagged_le {α : Type} {variants : List (String × α)} {cs rest : List Char}
    {a : α} (h : readTagged variants cs = .ok (a, rest)) : rest.length ≤ cs.length := by
  have hb := length_skipBlanks_le cs
  unfold readTagged at h
  split at h
  · cases h
  · rename_i tail hr
    rw [hr, List.length_cons] at hb
    simp only [bind, Except.bind] at h
    split at h
    · cases h
    · rename_i named hn
      have h1 := length_readName_lt hn
      split at h
      · cases h
      · rename_i behind hc
        have h2 := length_expectColon_lt hc
        split at h
        · cases h
        · rename_i value hu
          have h3 := length_readUnit_le hu
          have h4 := length_skipBlanks_le value
          split at h
          · cases h
          · rename_i last hl
            cases h
            rw [hl, List.length_cons] at h4
            omega
          · cases h
  · cases h
  · cases h

/-- Reads one of the variants: its name, or an object with its name and `null`. -/
def readVariant {α : Type} (variants : List (String × α)) (cs : List Char) :
    Except Failure (α × List Char) :=
  match skipBlanks cs with
  | [] => .error (.here .eofInValue [])
  | '"' :: rest => readName variants rest
  | '\x7b' :: rest => readTagged variants rest
  | cs => .error (.past .expectedValue cs)

theorem length_readVariant_le {α : Type} {variants : List (String × α)} {cs rest : List Char}
    {a : α} (h : readVariant variants cs = .ok (a, rest)) : rest.length ≤ cs.length := by
  have hb := length_skipBlanks_le cs
  unfold readVariant at h
  split at h
  · cases h
  · rename_i tail hr
    rw [hr, List.length_cons] at hb
    have hl := length_readName_lt h
    omega
  · rename_i tail hr
    rw [hr, List.length_cons] at hb
    have hl := length_readTagged_le h
    omega
  · cases h

/-! ## Members and elements -/

/-- Behind the opening brace of an object: in front of its end, or behind the quote that opens the
first key. -/
def firstMember (cs : List Char) : Except Failure Turn :=
  match skipBlanks cs with
  | [] => .error (.here .eofInObject [])
  | '\x7d' :: rest => .ok (.closed rest)
  | '"' :: rest => .ok (.element rest)
  | cs => .error (.past .keyMustBeString cs)

/-- Behind a member: at the end of the object, or behind the quote that opens the next key. -/
def nextMember (cs : List Char) : Except Failure Turn :=
  match skipBlanks cs with
  | [] => .error (.here .eofInObject [])
  | '\x7d' :: rest => .ok (.closed rest)
  | ',' :: rest =>
    match skipBlanks rest with
    | [] => .error (.here .eofInValue [])
    | '"' :: rest => .ok (.element rest)
    | '\x7d' :: rest => .error (.past .trailingComma ('\x7d' :: rest))
    | cs => .error (.past .keyMustBeString cs)
  | cs => .error (.past .expectedObjectCommaOrEnd cs)

theorem length_nextMember_lt {cs : List Char} {t : Turn} (h : nextMember cs = .ok t) :
    t.rest.length < cs.length := by
  have hb := length_skipBlanks_le cs
  unfold nextMember at h
  split at h
  · cases h
  · rename_i tail hr
    rw [hr, List.length_cons] at hb
    cases h
    exact hb
  · rename_i tail hr
    rw [hr, List.length_cons] at hb
    have ht := length_skipBlanks_le tail
    split at h
    · cases h
    · rename_i last hl
      rw [hl, List.length_cons] at ht
      cases h
      simp only [Turn.rest]
      omega
    · cases h
    · cases h
  · cases h

/-- Behind the opening bracket of a list: at its end, or in front of the first element. -/
def firstElement (cs : List Char) : Except Failure Turn :=
  match skipBlanks cs with
  | [] => .error (.here .eofInList [])
  | ']' :: rest => .ok (.closed rest)
  | cs => .ok (.element cs)

/-- Behind an element: at the end of the list, or in front of the next element. -/
def nextElement (cs : List Char) : Except Failure Turn :=
  match skipBlanks cs with
  | [] => .error (.here .eofInList [])
  | ']' :: rest => .ok (.closed rest)
  | ',' :: rest =>
    match skipBlanks rest with
    | [] => .error (.here .eofInValue [])
    | ']' :: rest => .error (.past .trailingComma (']' :: rest))
    | cs => .ok (.element cs)
  | cs => .error (.past .expectedListCommaOrEnd cs)

/-- Behind the last element that a list may have: at the end of the list. -/
def endList (cs : List Char) : Except Failure (List Char) :=
  match skipBlanks cs with
  | [] => .error (.here .eofInList [])
  | ']' :: rest => .ok rest
  | ',' :: rest =>
    match skipBlanks rest with
    | ']' :: rest => .error (.past .trailingComma (']' :: rest))
    | cs => .error (.past .trailingCharacters cs)
  | cs => .error (.past .trailingCharacters cs)

/-- Reads a whole text as one value. -/
def readAll {α : Type} (read : List Char → Except Failure (α × List Char)) (text : String) :
    Except Error α :=
  match read text.toList with
  | .error f => .error (f.locate text)
  | .ok (a, rest) =>
    match skipBlanks rest with
    | [] => .ok a
    | cs => .error ((Failure.past .trailingCharacters cs).locate text)

end PinnedLink.Json
