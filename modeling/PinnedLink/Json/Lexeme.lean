import PinnedLink.Bytes.Hex
import PinnedLink.Json.Failure
import PinnedLink.Text.Numeral

/-!
# The leaves of a JSON text

Blanks, words and strings.  A string is read, with its escapes resolved, or skipped, with its
escapes only checked for their form; both start behind the opening quote and end behind the closing
one.  What is left is never longer than what was given (`length_expectWord_le`,
`length_readString_lt`, `length_skipString_lt`), so loops over it end.
-/

namespace PinnedLink.Json

/-- A blank between the parts of a JSON text. -/
def isBlank (c : Char) : Bool := c == ' ' || c == '\n' || c == '\t' || c == '\r'

/-- What is left behind blanks. -/
def skipBlanks (cs : List Char) : List Char := cs.dropWhile isBlank

theorem length_skipBlanks_le (cs : List Char) : (skipBlanks cs).length ≤ cs.length :=
  (List.dropWhile_sublist isBlank).length_le

/-- Reads the rest of a word such as `null`. -/
def expectWord : List Char → List Char → Except Failure (List Char)
  | [], cs => .ok cs
  | _ :: _, [] => .error (.here .eofInValue [])
  | w :: ws, c :: cs =>
    if c = w then expectWord ws cs else .error (.past .expectedIdent (c :: cs))

theorem length_expectWord_le {ws cs rest : List Char} (h : expectWord ws cs = .ok rest) :
    rest.length ≤ cs.length := by
  induction ws generalizing cs with
  | nil => cases h; exact Nat.le_refl _
  | cons w ws ih =>
    rcases cs with _ | ⟨c, cs⟩
    · cases h
    · unfold expectWord at h
      split at h
      · exact Nat.le_succ_of_le (ih h)
      · cases h

/-! ## Escapes -/

/-- The value of four hexadecimal digits. -/
def hexValues? (a b c d : Char) : Option Nat := do
  return (((← Hex.value? a) * 16 + (← Hex.value? b)) * 16 + (← Hex.value? c)) * 16 + (← Hex.value? d)

/-- The failure of a hexadecimal escape: four bytes that are not digits, or fewer than four. -/
def hexFailure (cs : List Char) : Failure :=
  if 4 ≤ byteLen cs then ⟨.invalidEscape, byteLen cs - 4⟩ else ⟨.eofInString, 0⟩

/-- Reads four hexadecimal digits. -/
def readHex (cs : List Char) : Except Failure (Nat × List Char) :=
  match cs with
  | a :: b :: c :: d :: rest =>
    match hexValues? a b c d with
    | some n => .ok (n, rest)
    | none => .error (hexFailure cs)
  | _ => .error (hexFailure cs)

theorem length_readHex_lt {cs rest : List Char} {n : Nat} (h : readHex cs = .ok (n, rest)) :
    rest.length < cs.length := by
  unfold readHex at h
  split at h
  · split at h
    · cases h
      simp only [List.length_cons]
      omega
    · cases h
  · cases h

/-- Reads the second half of a surrogate pair, whose first half is given. -/
def readTrailing (leading : Nat) (cs : List Char) : Except Failure (Char × List Char) :=
  match cs with
  | [] => .error (.here .eofInString [])
  | '\\' :: [] => .error (.here .eofInString [])
  | '\\' :: 'u' :: rest =>
    match readHex rest with
    | .error e => .error e
    | .ok (n, rest) =>
      if n < 0xdc00 ∨ 0xdfff < n then .error (.here .loneSurrogate rest)
      else .ok (Char.ofNat ((leading - 0xd800) * 0x400 + (n - 0xdc00) + 0x10000), rest)
  | '\\' :: rest => .error (.past .unexpectedEndOfHexEscape rest)
  | cs => .error (.past .unexpectedEndOfHexEscape cs)

theorem length_readTrailing_lt {leading : Nat} {cs rest : List Char} {c : Char}
    (h : readTrailing leading cs = .ok (c, rest)) : rest.length < cs.length := by
  unfold readTrailing at h
  split at h
  · cases h
  · cases h
  · split at h
    · cases h
    · rename_i n tail hx
      split at h
      · cases h
      · simp only [Except.ok.injEq, Prod.mk.injEq] at h
        have hlt := length_readHex_lt hx
        rw [← h.2]
        simp only [List.length_cons]
        omega
  · cases h
  · cases h

/-- The character of a one-letter escape. -/
def simpleEscape? : Char → Option Char
  | '"' => some '"'
  | '\\' => some '\\'
  | '/' => some '/'
  | 'b' => some '\x08'
  | 'f' => some '\x0c'
  | 'n' => some '\n'
  | 'r' => some '\r'
  | 't' => some '\t'
  | _ => none

/-- Reads an escape, behind its backslash. -/
def readEscape (cs : List Char) : Except Failure (Char × List Char) :=
  match cs with
  | [] => .error (.here .eofInString [])
  | 'u' :: rest =>
    match readHex rest with
    | .error e => .error e
    | .ok (n, rest) =>
      if 0xdc00 ≤ n ∧ n ≤ 0xdfff then .error (.here .loneSurrogate rest)
      else if 0xd800 ≤ n ∧ n ≤ 0xdbff then readTrailing n rest
      else .ok (Char.ofNat n, rest)
  | c :: rest =>
    match simpleEscape? c with
    | some e => .ok (e, rest)
    | none => .error (.past .invalidEscape (c :: rest))

theorem length_readEscape_lt {cs rest : List Char} {c : Char}
    (h : readEscape cs = .ok (c, rest)) : rest.length < cs.length := by
  unfold readEscape at h
  split at h
  · cases h
  · split at h
    · cases h
    · rename_i n tail hx
      have hlt := length_readHex_lt hx
      split at h
      · cases h
      · split at h
        · have := length_readTrailing_lt h
          simp only [List.length_cons]
          omega
        · cases h
          simp only [List.length_cons]
          omega
  · split at h
    · cases h
      simp only [List.length_cons]
      omega
    · cases h

/-- Passes over an escape, behind its backslash. -/
def skipEscape (cs : List Char) : Except Failure (List Char) :=
  match cs with
  | [] => .error (.here .eofInString [])
  | 'u' :: rest =>
    match readHex rest with
    | .error e => .error e
    | .ok (_, rest) => .ok rest
  | c :: rest =>
    match simpleEscape? c with
    | some _ => .ok rest
    | none => .error (.past .invalidEscape (c :: rest))

theorem length_skipEscape_lt {cs rest : List Char} (h : skipEscape cs = .ok rest) :
    rest.length < cs.length := by
  unfold skipEscape at h
  split at h
  · cases h
  · split at h
    · cases h
    · rename_i n tail hx
      have hlt := length_readHex_lt hx
      cases h
      simp only [List.length_cons]
      omega
  · split at h
    · cases h
      simp only [List.length_cons]
      omega
    · cases h

/-! ## Strings -/

/-- Reads a string, behind its opening quote. -/
def readString (cs : List Char) : Except Failure (List Char × List Char) :=
  match cs with
  | [] => .error (.here .eofInString [])
  | '"' :: rest => .ok ([], rest)
  | '\\' :: rest =>
    match _h : readEscape rest with
    | .error e => .error e
    | .ok (c, rest) =>
      match readString rest with
      | .error e => .error e
      | .ok (text, rest) => .ok (c :: text, rest)
  | c :: rest =>
    if c < ' ' then .error (.past .controlCharacter (c :: rest))
    else
      match readString rest with
      | .error e => .error e
      | .ok (text, rest) => .ok (c :: text, rest)
termination_by cs.length
decreasing_by
  · have := length_readEscape_lt _h
    simp only [List.length_cons]
    omega
  · simp only [List.length_cons]
    omega

theorem length_readString_lt {cs text rest : List Char} (h : readString cs = .ok (text, rest)) :
    rest.length < cs.length := by
  fun_induction readString cs generalizing text with
  | case1 => cases h
  | case2 tail => cases h; exact Nat.lt_succ_self _
  | case3 => cases h
  | case4 => cases h
  | case5 tail c after hx text' after' hs ih =>
    cases h
    have h1 := ih hs
    have h2 := length_readEscape_lt hx
    simp only [List.length_cons]
    omega
  | case6 => cases h
  | case7 => cases h
  | case8 c tail _ _ _ text' after' hs ih =>
    cases h
    have h1 := ih hs
    simp only [List.length_cons]
    omega

/-- Passes over a string, behind its opening quote. -/
def skipString (cs : List Char) : Except Failure (List Char) :=
  match cs with
  | [] => .error (.here .eofInString [])
  | '"' :: rest => .ok rest
  | '\\' :: rest =>
    match _h : skipEscape rest with
    | .error e => .error e
    | .ok rest => skipString rest
  | c :: rest =>
    if c < ' ' then .error (.here .controlCharacter (c :: rest)) else skipString rest
termination_by cs.length
decreasing_by
  · have := length_skipEscape_lt _h
    simp only [List.length_cons]
    omega
  · simp only [List.length_cons]
    omega

theorem length_skipString_lt {cs rest : List Char} (h : skipString cs = .ok rest) :
    rest.length < cs.length := by
  fun_induction skipString cs with
  | case1 => cases h
  | case2 tail => cases h; exact Nat.lt_succ_self _
  | case3 => cases h
  | case4 tail after hx ih =>
    have h1 := ih h
    have h2 := length_skipEscape_lt hx
    simp only [List.length_cons]
    omega
  | case5 => cases h
  | case6 c tail _ _ _ ih =>
    have h1 := ih h
    simp only [List.length_cons]
    omega

end PinnedLink.Json
