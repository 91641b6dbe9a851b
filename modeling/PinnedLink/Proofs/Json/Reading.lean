import PinnedLink.Json.Decode
import PinnedLink.Proofs.Json.Grammar
import PinnedLink.Proofs.Text.Spelling

/-!
# Readers read what the grammar writes

Each reader, in front of a text of the grammar, gives what that text spells and stops right behind it,
whatever follows.
-/

namespace PinnedLink.Json

open Text (Digits isDigit digitValue digitsValue isHighUnit isLowUnit pairPoint)

/-! ## Blanks -/

theorem Blanks.nil : Blanks [] := fun _ h => absurd h List.not_mem_nil

theorem skipBlanks_append {bs : List Char} (h : Blanks bs) (cs : List Char) :
    skipBlanks (bs ++ cs) = skipBlanks cs := List.dropWhile_append_of_pos h

/-- What does not begin with a blank is left as it is. -/
theorem skipBlanks_cons {c : Char} (h : isBlank c = false) (cs : List Char) :
    skipBlanks (c :: cs) = c :: cs :=
  List.dropWhile_cons_of_neg (by rw [h]; exact Bool.false_ne_true)

theorem skipBlanks_append_cons {bs : List Char} (hbs : Blanks bs) {c : Char}
    (hc : isBlank c = false) (cs : List Char) : skipBlanks (bs ++ c :: cs) = c :: cs := by
  rw [skipBlanks_append hbs, skipBlanks_cons hc]

theorem expectColon_append {bs : List Char} (h : Blanks bs) (cs : List Char) :
    expectColon (bs ++ ':' :: cs) = .ok cs := by
  rw [expectColon, skipBlanks_append_cons h rfl]
  rfl

/-! ## Strings -/

theorem readHex_append {hex : List Char} {n : Nat} (h : HexUnit hex n) (rest : List Char) :
    readHex (hex ++ rest) = .ok (n, rest) := by
  obtain ⟨ha, hb, hc, hd⟩ := h
  rename_i a b c d w x y z
  have hvalues : hexValues? a b c d = some (((w * 16 + x) * 16 + y) * 16 + z) := by
    rw [hexValues?, ha, hb, hc, hd]
    rfl
  show readHex (a :: b :: c :: d :: rest) = _
  rw [readHex, hvalues]

theorem isHighUnit_iff {n : Nat} : isHighUnit n = true ↔ 0xd800 ≤ n ∧ n < 0xdc00 := by
  simp [isHighUnit]

theorem isLowUnit_iff {n : Nat} : isLowUnit n = true ↔ 0xdc00 ≤ n ∧ n < 0xe000 := by
  simp [isLowUnit]

theorem readEscape_letter {c e : Char} (he : simpleEscape? c = some e) (rest : List Char) :
    readEscape (c :: rest) = .ok (e, rest) := by
  rw [readEscape, he]
  rintro rfl
  cases he

theorem readEscape_unit {hex : List Char} {n : Nat} (hn : HexUnit hex n)
    (hhigh : isHighUnit n = false) (hlow : isLowUnit n = false) (rest : List Char) :
    readEscape ('u' :: (hex ++ rest)) = .ok (Char.ofNat n, rest) := by
  have hhigh : ¬ (0xd800 ≤ n ∧ n < 0xdc00) := by rw [← isHighUnit_iff, hhigh]; exact Bool.false_ne_true
  have hlow : ¬ (0xdc00 ≤ n ∧ n < 0xe000) := by rw [← isLowUnit_iff, hlow]; exact Bool.false_ne_true
  rw [readEscape, readHex_append hn]
  dsimp only
  rw [if_neg (by omega), if_neg (by omega)]

theorem readEscape_pair {hex more : List Char} {n m : Nat} (hn : HexUnit hex n)
    (hm : HexUnit more m) (hhigh : isHighUnit n = true) (hlow : isLowUnit m = true)
    (rest : List Char) :
    readEscape ('u' :: (hex ++ ('\\' :: 'u' :: (more ++ rest)))) =
      .ok (Char.ofNat (pairPoint n m), rest) := by
  have hhigh := isHighUnit_iff.1 hhigh
  have hlow := isLowUnit_iff.1 hlow
  have hpoint : (n - 0xd800) * 0x400 + (m - 0xdc00) + 0x10000 = pairPoint n m := by
    unfold pairPoint
    omega
  rw [readEscape, readHex_append hn]
  dsimp only
  rw [if_neg (by omega), if_pos (by omega), readTrailing, readHex_append hm]
  dsimp only
  rw [if_neg (by omega), hpoint]

theorem readString_escape {cs rest text behind : List Char} {c : Char}
    (hescape : readEscape cs = .ok (c, rest)) (hrest : readString rest = .ok (text, behind)) :
    readString ('\\' :: cs) = .ok (c :: text, behind) := by
  rw [readString]
  split
  · rename_i herror
    rw [hescape] at herror
    cases herror
  · rename_i hok
    rw [hescape] at hok
    cases hok
    rw [hrest]

/-- A string is read as the text that its letters spell. -/
theorem readString_append {cs text : List Char} (h : Letters cs text) (rest : List Char) :
    readString (cs ++ '"' :: rest) = .ok (text, rest) := by
  induction h with
  | nil => rw [List.nil_append, readString]
  | plain hquote hescape hcontrol h ih =>
    rw [List.cons_append, readString, if_neg hcontrol, ih]
    · exact hquote
    · exact hescape
  | letter he h ih => exact readString_escape (readEscape_letter he _) ih
  | unit hn hhigh hlow h ih =>
    rw [List.cons_append, List.cons_append, List.append_assoc]
    exact readString_escape (readEscape_unit hn hhigh hlow _) ih
  | pair hn hm hhigh hlow h ih =>
    simp only [List.cons_append, List.append_assoc]
    exact readString_escape (readEscape_pair hn hm hhigh hlow _) ih

theorem readText_append {bs cs : List Char} {text : String} (hbs : Blanks bs)
    (h : Letters cs text.toList) (rest : List Char) :
    readText (bs ++ '"' :: (cs ++ '"' :: rest)) = .ok (text, rest) := by
  have hstart : skipBlanks (bs ++ '"' :: (cs ++ '"' :: rest)) = '"' :: (cs ++ '"' :: rest) :=
    skipBlanks_append_cons hbs rfl _
  unfold readText
  rw [hstart]
  simp only [readString_append h, String.ofList_toList]

/-! ## Numbers -/

theorem Ends.of_cons {c : Char} {rest : List Char} (h : Ends (c :: rest)) :
    isDigit c = false ∧ c ≠ '.' ∧ c ≠ 'e' ∧ c ≠ 'E' := h c rfl

/-- Digits go as far as they can. -/
theorem spanDigits_append {cs rest : List Char} (h : ∀ c ∈ cs, isDigit c = true)
    (hrest : ∀ c ∈ rest.head?, isDigit c = false) : spanDigits (cs ++ rest) = (cs, rest) := by
  rw [spanDigits, List.takeWhile_append_of_pos h, List.dropWhile_append_of_pos h]
  cases rest with
  | nil => rw [List.takeWhile_nil, List.dropWhile_nil, List.append_nil]
  | cons c rest =>
    have hc : ¬ isDigit c = true := by rw [hrest c rfl]; exact Bool.false_ne_true
    rw [List.takeWhile_cons_of_neg hc, List.dropWhile_cons_of_neg hc, List.append_nil]

theorem le_foldl_digitValue (cs : List Char) (n : Nat) :
    n ≤ cs.foldl (fun acc c => acc * 10 + digitValue c) n := by
  induction cs generalizing n with
  | nil => exact Nat.le_refl n
  | cons c cs ih =>
    rw [List.foldl_cons]
    exact Nat.le_trans (by omega) (ih _)

/-- Digits whose value is within the limit are all taken. -/
theorem accumulate_eq {limit n : Nat} {cs : List Char}
    (h : cs.foldl (fun acc c => acc * 10 + digitValue c) n ≤ limit) :
    accumulate limit n cs = (cs.foldl (fun acc c => acc * 10 + digitValue c) n, []) := by
  induction cs generalizing n with
  | nil => rfl
  | cons c cs ih =>
    rw [List.foldl_cons] at h ⊢
    have hstep := Nat.le_trans (le_foldl_digitValue cs _) h
    rw [accumulate, if_pos hstep, ih h]

theorem readTail_natural {n : Nat} {rest : List Char} (h : Ends rest) :
    readTail true n 0 rest = .ok (.natural n, rest) := by
  unfold readTail
  split
  · exact absurd rfl h.of_cons.2.1
  · exact absurd rfl h.of_cons.2.2.1
  · exact absurd rfl h.of_cons.2.2.2
  · rfl

theorem Ends.isDigit_head {rest : List Char} (h : Ends rest) :
    ∀ c ∈ rest.head?, isDigit c = false := fun c hc => (h c hc).1

theorem startsWithDigit_eq_false {rest : List Char} (h : ∀ c ∈ rest.head?, isDigit c = false) :
    startsWithDigit rest = false := by
  cases rest with
  | nil => rfl
  | cons c rest => exact h c rfl

/-- A natural number of 64 bits is read as itself. -/
theorem readNumber_append {cs rest : List Char} {n : Nat} (hwhole : Whole cs) (hn : Digits cs n)
    (hle : n ≤ maxSignificand) (hrest : Ends rest) :
    readNumber true (cs ++ rest) = .ok (.natural n, rest) := by
  have hvalue : digitsValue cs = n := hn.digitsValue_eq
  cases hwhole with
  | zero =>
    have hzero : n = 0 := hvalue.symm
    rw [hzero, List.singleton_append, readNumber, startsWithDigit_eq_false hrest.isDigit_head]
    exact readTail_natural hrest
  | @digits c cs hne h =>
    have hspan : spanDigits (c :: (cs ++ rest)) = (c :: cs, rest) :=
      spanDigits_append h.2 hrest.isDigit_head
    have hall : accumulate maxSignificand 0 (c :: cs) = (n, []) := by
      have hlimit : digitsValue (c :: cs) ≤ maxSignificand := by rw [hvalue]; exact hle
      rw [accumulate_eq hlimit]
      exact congrArg (·, []) hvalue
    rw [List.cons_append, readNumber, if_pos (h.2 c List.mem_cons_self), hspan]
    · dsimp only
      rw [hall]
      exact readTail_natural hrest
    · exact hne

theorem isBlank_of_isDigit {c : Char} (h : isDigit c = true) : isBlank c = false := by
  rw [← Bool.not_eq_true]
  intro hblank
  simp only [isBlank, Bool.or_eq_true, beq_iff_eq] at hblank
  rcases hblank with ((rfl | rfl) | rfl) | rfl <;> exact absurd h (by decide)

theorem isDigit_of_whole {c : Char} {cs : List Char} (h : Whole (c :: cs)) : isDigit c = true := by
  cases h with
  | zero => rfl
  | digits hne h => exact h.2 c List.mem_cons_self

theorem readNatural_append {bs cs rest : List Char} {limit n : Nat} {expected : String}
    (hbs : Blanks bs) (hwhole : Whole cs) (hn : Digits cs n) (hle : n ≤ limit)
    (hlimit : limit ≤ maxSignificand) (hrest : Ends rest) :
    readNatural limit expected (bs ++ (cs ++ rest)) = .ok (n, rest) := by
  have hread := readNumber_append hwhole hn (Nat.le_trans hle hlimit) hrest
  cases cs with
  | nil => exact absurd rfl hn.ne_nil
  | cons c cs =>
    have hdigit := isDigit_of_whole hwhole
    rw [List.cons_append] at hread ⊢
    unfold readNatural
    rw [skipBlanks_append_cons hbs (isBlank_of_isDigit hdigit)]
    dsimp only
    split
    · rename_i heq
      cases heq
      exact absurd hdigit (by decide)
    · rename_i heq
      cases heq
      rw [if_pos hdigit, hread]
      exact if_pos hle
    · rename_i heq
      cases heq

/-! ## Other values -/

theorem readOption_null {α : Type} {read : List Char → Except Failure (α × List Char)}
    {bs : List Char} (hbs : Blanks bs) (rest : List Char) :
    readOption read (bs ++ ('n' :: 'u' :: 'l' :: 'l' :: rest)) = .ok (none, rest) := by
  unfold readOption
  rw [skipBlanks_append_cons hbs rfl]
  rfl

theorem readOption_append {bs cs : List Char} {text : String} (hbs : Blanks bs)
    (h : Letters cs text.toList) (rest : List Char) :
    readOption readText (bs ++ '"' :: (cs ++ '"' :: rest)) = .ok (some text, rest) := by
  have hread : readText ('"' :: (cs ++ '"' :: rest)) = .ok (text, rest) :=
    readText_append Blanks.nil h rest
  unfold readOption
  rw [skipBlanks_append_cons hbs rfl]
  split
  · rename_i heq
    cases heq
  · rw [hread]

theorem readVariant_append {α : Type} {variants : List (String × α)} {name : String} {a : α}
    {bs cs : List Char} (hbs : Blanks bs) (h : Letters cs name.toList)
    (ha : variants.lookup name = some a) (rest : List Char) :
    readVariant variants (bs ++ '"' :: (cs ++ '"' :: rest)) = .ok (a, rest) := by
  unfold readVariant
  rw [skipBlanks_append_cons hbs rfl]
  simp only [readName, readString_append h, String.ofList_toList, ha]

/-- A choice may stand as the only key of an object, in front of `null`. -/
theorem readVariant_tagged {α : Type} {variants : List (String × α)} {name : String} {a : α}
    {bs first cs before after last : List Char} (hbs : Blanks bs) (hfirst : Blanks first)
    (h : Letters cs name.toList) (hbefore : Blanks before) (hafter : Blanks after)
    (hlast : Blanks last) (ha : variants.lookup name = some a) (rest : List Char) :
    readVariant variants (bs ++ '\x7b' :: (first ++ '"' :: (cs ++ '"' :: (before ++ ':' ::
      (after ++ 'n' :: 'u' :: 'l' :: 'l' :: (last ++ '\x7d' :: rest)))))) = .ok (a, rest) := by
  have hunit : readUnit (after ++ 'n' :: 'u' :: 'l' :: 'l' :: (last ++ '\x7d' :: rest)) =
      .ok (last ++ '\x7d' :: rest) := by
    unfold readUnit
    rw [skipBlanks_append_cons hafter rfl]
    rfl
  have hend : skipBlanks (last ++ '\x7d' :: rest) = '\x7d' :: rest :=
    skipBlanks_append_cons hlast rfl rest
  have htagged : readTagged variants (first ++ '"' :: (cs ++ '"' :: (before ++ ':' ::
      (after ++ 'n' :: 'u' :: 'l' :: 'l' :: (last ++ '\x7d' :: rest))))) = .ok (a, rest) := by
    unfold readTagged
    rw [skipBlanks_append_cons hfirst rfl]
    simp only [readName, readString_append h, String.ofList_toList, ha, bind, Except.bind,
      expectColon_append hbefore, hunit, hend]
  unfold readVariant
  rw [skipBlanks_append_cons hbs rfl]
  exact htagged

end PinnedLink.Json
