import PinnedLink.Proofs.Json.Reading

/-!
# Values of any kind are passed over

`skipValue` walks over a value with a stack of the brackets that are open.  Whatever is on the stack,
the walk over the text of a value comes out right behind it (`skipFrom_written`), so it is passed over
as a whole, however deep it is.
-/

namespace PinnedLink.Json

open Text (isDigit)

/-! ## Strings -/

theorem skipEscape_letter {c e : Char} (he : simpleEscape? c = some e) (rest : List Char) :
    skipEscape (c :: rest) = .ok rest := by
  rw [skipEscape, he]
  rintro rfl
  cases he

theorem skipEscape_unit {hex : List Char} {n : Nat} (hn : HexUnit hex n) (rest : List Char) :
    skipEscape ('u' :: (hex ++ rest)) = .ok rest := by
  rw [skipEscape, readHex_append hn]

theorem skipString_escape {cs rest behind : List Char} (hescape : skipEscape cs = .ok rest)
    (hrest : skipString rest = .ok behind) : skipString ('\\' :: cs) = .ok behind := by
  rw [skipString]
  split
  · rename_i herror
    rw [hescape] at herror
    cases herror
  · rename_i hok
    rw [hescape] at hok
    cases hok
    exact hrest

theorem skipString_append {cs : List Char} (h : Form cs) (rest : List Char) :
    skipString (cs ++ '"' :: rest) = .ok rest := by
  induction h with
  | nil => rw [List.nil_append, skipString]
  | plain hquote hescape hcontrol h ih =>
    rw [List.cons_append, skipString, if_neg hcontrol, ih]
    · exact hquote
    · exact hescape
  | letter he h ih => exact skipString_escape (skipEscape_letter he _) ih
  | unit hn h ih =>
    rw [List.cons_append, List.cons_append, List.append_assoc]
    exact skipString_escape (skipEscape_unit hn _) ih

/-! ## Numbers -/

theorem Places.isEmpty_eq {cs : List Char} (h : Places cs) : cs.isEmpty = false :=
  List.isEmpty_eq_false_iff.2 h.1

/-- Nothing in an exponent or behind a number is a digit in front of it. -/
theorem Exponent.isDigit_head {cs rest : List Char} (h : Exponent cs) (hrest : Ends rest) :
    ∀ c ∈ (cs ++ rest).head?, isDigit c = false := by
  cases h with
  | none => exact hrest.isDigit_head
  | power he hsign h =>
    rintro c ⟨⟩
    rcases he with rfl | rfl <;> rfl

theorem Fraction.isDigit_head {cs exponent rest : List Char} (h : Fraction cs)
    (hexponent : Exponent exponent) (hrest : Ends rest) :
    ∀ c ∈ (cs ++ (exponent ++ rest)).head?, isDigit c = false := by
  cases h with
  | none => exact hexponent.isDigit_head hrest
  | point h =>
    rintro c ⟨⟩
    rfl

theorem readSign_append {sign cs : List Char} (hsign : sign = [] ∨ sign = ['+'] ∨ sign = ['-'])
    (h : Places cs) (rest : List Char) : (readSign (sign ++ (cs ++ rest))).2 = cs ++ rest := by
  obtain rfl | rfl | rfl := hsign
  · cases cs with
    | nil => exact absurd rfl h.1
    | cons c cs =>
      have hc := h.2 c List.mem_cons_self
      unfold readSign
      split
      · rename_i heq
        cases heq
        exact absurd hc (by decide)
      · rename_i heq
        cases heq
        exact absurd hc (by decide)
      · rfl
  · rfl
  · rfl

theorem skipExponent?_append {cs rest : List Char} (h : Exponent cs) (hrest : Ends rest) :
    skipExponent? (cs ++ rest) = .ok rest := by
  cases h with
  | none =>
    rw [List.nil_append]
    unfold skipExponent?
    split
    · exact absurd rfl hrest.of_cons.2.2.1
    · exact absurd rfl hrest.of_cons.2.2.2
    · rfl
  | @power e sign cs he hsign h =>
    have hexponent : skipExponent (sign ++ (cs ++ rest)) = .ok rest := by
      unfold skipExponent
      rw [readSign_append hsign h]
      dsimp only
      rw [spanDigits_append h.2 hrest.isDigit_head]
      simp only [h.isEmpty_eq, Bool.false_eq_true, if_false]
    rw [List.cons_append, List.append_assoc]
    obtain rfl | rfl := he
    · exact hexponent
    · exact hexponent

theorem skipTail_append {cs exponent rest : List Char} (h : Fraction cs)
    (hexponent : Exponent exponent) (hrest : Ends rest) :
    skipTail (cs ++ (exponent ++ rest)) = .ok rest := by
  have hbehind := skipExponent?_append hexponent hrest
  cases h with
  | none =>
    rw [List.nil_append]
    unfold skipTail
    split
    · rename_i heq
      -- neither an exponent nor what follows a number begins with a point
      cases hexponent with
      | none =>
        rw [List.nil_append] at heq
        subst heq
        exact absurd rfl hrest.of_cons.2.1
      | power he hsign h =>
        cases heq
        exact absurd he (by decide)
    · exact hbehind
  | @point cs h =>
    rw [List.cons_append, skipTail, spanDigits_append h.2 (hexponent.isDigit_head hrest)]
    simp only [h.isEmpty_eq, Bool.false_eq_true, if_false]
    exact hbehind

theorem skipNumber_append {cs rest : List Char} (h : Magnitude cs) (hrest : Ends rest) :
    skipNumber (cs ++ rest) = .ok rest := by
  obtain ⟨hwhole, hfraction, hexponent⟩ := h
  rename_i whole fraction exponent
  have hbehind := skipTail_append hfraction hexponent hrest
  have hhead := hfraction.isDigit_head hexponent hrest
  rw [List.append_assoc, List.append_assoc]
  cases hwhole with
  | zero =>
    have hstart := startsWithDigit_eq_false hhead
    rw [List.singleton_append, skipNumber, hstart]
    exact hbehind
  | @digits c cs hne h =>
    rw [List.cons_append, skipNumber, ← List.cons_append, spanDigits_append h.2 hhead]
    · simp only [h.isEmpty_eq, Bool.false_eq_true, if_false]
      exact hbehind
    · rintro _ ⟨⟩
      exact hne rfl

/-! ## Values without brackets -/

theorem Magnitude.exists_digit {cs : List Char} (h : Magnitude cs) :
    ∃ c tail, cs = c :: tail ∧ isDigit c = true := by
  obtain ⟨hwhole, -, -⟩ := h
  cases hwhole with
  | zero => exact ⟨_, _, rfl, rfl⟩
  | digits hne h => exact ⟨_, _, rfl, h.2 _ List.mem_cons_self⟩

theorem skipScalar_append {cs rest : List Char} (h : Scalar cs) (hrest : Ends rest) :
    skipScalar (cs ++ rest) = .ok rest := by
  cases h with
  | null => rfl
  | yes => rfl
  | no => rfl
  | string h =>
    rw [List.cons_append, List.append_assoc]
    exact skipString_append h rest
  | magnitude h =>
    have hskip := skipNumber_append h hrest
    obtain ⟨c, tail, rfl, hc⟩ := h.exists_digit
    rw [List.cons_append] at hskip ⊢
    rw [skipScalar, if_pos hc, hskip]
    all_goals
      rintro rfl
      exact absurd hc (by decide)
  | negative h => exact skipNumber_append h hrest

/-- No bracket opens or closes with a digit. -/
theorem ne_bracket_of_isDigit {c : Char} (h : isDigit c = true) (b : Bracket) :
    c ≠ b.opening ∧ c ≠ b.closing := by
  constructor
  all_goals
    rintro rfl
    cases b <;> exact absurd h (by decide)

/-- How a value without brackets begins. -/
theorem Scalar.exists_head {cs : List Char} (h : Scalar cs) :
    ∃ c tail, cs = c :: tail ∧ isBlank c = false ∧ ∀ b : Bracket, c ≠ b.opening ∧ c ≠ b.closing := by
  cases h with
  | null => exact ⟨_, _, rfl, rfl, by rintro (_ | _) <;> decide⟩
  | yes => exact ⟨_, _, rfl, rfl, by rintro (_ | _) <;> decide⟩
  | no => exact ⟨_, _, rfl, rfl, by rintro (_ | _) <;> decide⟩
  | string h => exact ⟨_, _, rfl, rfl, by rintro (_ | _) <;> decide⟩
  | magnitude h =>
    obtain ⟨c, tail, hcs, hc⟩ := h.exists_digit
    exact ⟨c, tail, hcs, isBlank_of_isDigit hc, ne_bracket_of_isDigit hc⟩
  | negative h => exact ⟨_, _, rfl, rfl, by rintro (_ | _) <;> decide⟩

/-! ## Values with brackets -/

/-- A text behind blanks goes on as no number does. -/
theorem ends_append {bs rest : List Char} (hbs : Blanks bs) (hrest : Ends rest) :
    Ends (bs ++ rest) := by
  cases bs with
  | nil => exact hrest
  | cons b bs =>
    rintro c ⟨⟩
    have hblank := hbs b List.mem_cons_self
    simp only [isBlank, Bool.or_eq_true, beq_iff_eq] at hblank
    rcases hblank with ((rfl | rfl) | rfl) | rfl <;> exact ⟨by decide, by decide, by decide, by decide⟩

theorem ends_closing (b : Bracket) (rest : List Char) : Ends (b.closing :: rest) := by
  rintro c ⟨⟩
  cases b <;> exact ⟨by decide, by decide, by decide, by decide⟩

theorem ends_comma (rest : List Char) : Ends (',' :: rest) := by
  rintro c ⟨⟩
  exact ⟨by decide, by decide, by decide, by decide⟩

theorem isBlank_closing (b : Bracket) : isBlank b.closing = false := by cases b <;> rfl

theorem isBlank_opening (b : Bracket) : isBlank b.opening = false := by cases b <;> rfl

/-! ### Steps of the walk -/

section Steps

variable {b : Bracket} {stack : List Bracket} {cs rest : List Char}

theorem skipFrom_scalar {c : Char} {tail : List Char} (hstart : skipBlanks cs = c :: tail)
    (hopening : ∀ b : Bracket, c ≠ b.opening) (hskip : skipScalar (c :: tail) = .ok rest) :
    skipFrom .value stack cs = skipFrom .after stack rest := by
  rw [skipFrom]
  split
  · rename_i heq
    cases hstart.symm.trans heq
    exact absurd rfl (hopening .list)
  · rename_i heq
    cases hstart.symm.trans heq
    exact absurd rfl (hopening .object)
  · split
    · rename_i herror
      rw [hstart, hskip] at herror
      cases herror
    · rename_i hok
      rw [hstart, hskip] at hok
      cases hok
      rfl

theorem skipFrom_opening (hstart : skipBlanks cs = b.opening :: rest) :
    skipFrom .value stack cs = skipFrom .opened (b :: stack) rest := by
  rw [skipFrom]
  split
  · rename_i heq
    cases b <;> cases hstart.symm.trans heq
    rfl
  · rename_i heq
    cases b <;> cases hstart.symm.trans heq
    rfl
  · rename_i hlist hobject
    cases b
    · exact absurd hstart (hlist rest)
    · exact absurd hstart (hobject rest)

theorem skipFrom_opened {t : Turn} (h : b.enter cs = .ok t) :
    skipFrom .opened (b :: stack) cs =
      match t with
      | .closed rest => skipFrom .after stack rest
      | .element rest => skipFrom .value (b :: stack) rest := by
  rw [skipFrom]
  split
  · rename_i heq
    cases h.symm.trans heq
  · rename_i heq
    cases h.symm.trans heq
    rfl
  · rename_i heq
    cases h.symm.trans heq
    rfl

theorem skipFrom_after {t : Turn} (h : b.advance cs = .ok t) :
    skipFrom .after (b :: stack) cs =
      match t with
      | .closed rest => skipFrom .after stack rest
      | .element rest => skipFrom .value (b :: stack) rest := by
  rw [skipFrom]
  split
  · rename_i heq
    cases h.symm.trans heq
  · rename_i heq
    cases h.symm.trans heq
    rfl
  · rename_i heq
    cases h.symm.trans heq
    rfl

/-- Behind blanks, a bracket is closed. -/
theorem enter_closing {bs : List Char} (hbs : Blanks bs) :
    b.enter (bs ++ b.closing :: rest) = .ok (.closed rest) := by
  rw [Bracket.enter, skipBlanks_append_cons hbs (isBlank_closing b)]
  exact if_pos rfl

theorem advance_closing {bs : List Char} (hbs : Blanks bs) :
    b.advance (bs ++ b.closing :: rest) = .ok (.closed rest) := by
  rw [Bracket.advance, skipBlanks_append_cons hbs (isBlank_closing b)]
  dsimp only
  rw [if_neg (by cases b <;> decide), if_pos rfl]

theorem advance_comma {bs behind : List Char} (hbs : Blanks bs) (hkey : b.skipKey cs = .ok behind) :
    b.advance (bs ++ ',' :: cs) = .ok (.element behind) := by
  rw [Bracket.advance, skipBlanks_append_cons hbs rfl]
  dsimp only
  rw [if_pos rfl, hkey]

end Steps

/-! ### Elements -/

/-- What stands in front of an element is passed over, up to blanks. -/
theorem skipKey_append {b : Bracket} {before label : List Char} (hbefore : Blanks before)
    (hlabel : Label b label) (cs : List Char) :
    ∃ bs, Blanks bs ∧ b.skipKey (before ++ (label ++ cs)) = .ok (bs ++ cs) := by
  cases hlabel with
  | none => exact ⟨before, hbefore, rfl⟩
  | @key key bs after h hbs hafter =>
    refine ⟨after, hafter, ?_⟩
    have hstart : skipBlanks (before ++ ('"' :: (key ++ ('"' :: (bs ++ (':' :: after)))) ++ cs)) =
        '"' :: (key ++ '"' :: (bs ++ ':' :: (after ++ cs))) := by
      rw [List.cons_append, skipBlanks_append_cons hbefore rfl]
      simp only [List.append_assoc, List.cons_append]
    simp only [Bracket.skipKey, hstart, skipString_append h]
    exact expectColon_append hbs _

/-- How a value begins. -/
theorem Written.exists_head {cs : List Char} (h : Written .value cs) :
    ∃ c tail, cs = c :: tail ∧ isBlank c = false ∧ ∀ b : Bracket, c ≠ b.closing := by
  have hopening : ∀ b b' : Bracket, b.opening ≠ b'.closing := by
    rintro (_ | _) (_ | _) <;> decide
  cases h with
  | scalar h =>
    obtain ⟨c, tail, hcs, hblank, hbracket⟩ := h.exists_head
    exact ⟨c, tail, hcs, hblank, fun b => (hbracket b).2⟩
  | @empty b => exact ⟨_, _, rfl, isBlank_opening b, hopening b⟩
  | @bracket b => exact ⟨_, _, rfl, isBlank_opening b, hopening b⟩

/-- How an element begins. -/
theorem Label.exists_head {b : Bracket} {label value : List Char} (hlabel : Label b label)
    (hvalue : Written .value value) (rest : List Char) :
    ∃ c tail, label ++ (value ++ rest) = c :: tail ∧ isBlank c = false ∧ c ≠ b.closing := by
  cases hlabel with
  | none =>
    obtain ⟨c, tail, rfl, hblank, hclosing⟩ := hvalue.exists_head
    exact ⟨c, tail ++ rest, rfl, hblank, hclosing .list⟩
  | key => exact ⟨_, _, rfl, rfl, by decide⟩

/-- Behind an opening bracket, what stands in front of an element is passed over, up to blanks. -/
theorem enter_append {b : Bracket} {before label value : List Char} (hbefore : Blanks before)
    (hlabel : Label b label) (hvalue : Written .value value) (rest : List Char) :
    ∃ bs, Blanks bs ∧
      b.enter (before ++ (label ++ (value ++ rest))) = .ok (.element (bs ++ (value ++ rest))) := by
  obtain ⟨bs, hbs, hkey⟩ := skipKey_append Blanks.nil hlabel (value ++ rest)
  obtain ⟨c, tail, hhead, hblank, hclosing⟩ := hlabel.exists_head hvalue rest
  refine ⟨bs, hbs, ?_⟩
  rw [List.nil_append, hhead] at hkey
  rw [hhead, Bracket.enter, skipBlanks_append_cons hbefore hblank]
  dsimp only
  rw [if_neg hclosing, hkey]

/-! ### The walk -/

/-- The walk comes out behind a part, whatever brackets are open around it. -/
def Part.Passed : Part → List Char → Prop
  | .value, cs => ∀ {bs rest : List Char} (stack : List Bracket), Blanks bs → Ends rest →
      skipFrom .value stack (bs ++ (cs ++ rest)) = skipFrom .after stack rest
  | .elements b, cs => ∀ (stack : List Bracket) (rest : List Char),
      skipFrom .opened (b :: stack) (cs ++ b.closing :: rest) = skipFrom .after stack rest ∧
        ∀ {bs : List Char}, Blanks bs →
          skipFrom .after (b :: stack) (bs ++ ',' :: (cs ++ b.closing :: rest)) =
            skipFrom .after stack rest

/-- An element is passed over from either side if the walk goes on as it should behind it. -/
theorem skipFrom_element {b : Bracket} {before label value tail : List Char}
    {stack : List Bracket} {result : Except Failure (List Char)} (hbefore : Blanks before)
    (hlabel : Label b label) (hvalue : Written .value value) (hpassed : Part.value.Passed value)
    (hends : Ends tail) (htail : skipFrom .after (b :: stack) tail = result) :
    skipFrom .opened (b :: stack) (before ++ (label ++ (value ++ tail))) = result ∧
      ∀ {bs : List Char}, Blanks bs →
        skipFrom .after (b :: stack) (bs ++ ',' :: (before ++ (label ++ (value ++ tail)))) =
          result := by
  constructor
  · obtain ⟨blanks, hblanks, henter⟩ := enter_append hbefore hlabel hvalue tail
    rw [skipFrom_opened henter]
    exact (hpassed _ hblanks hends).trans htail
  · intro bs hbs
    obtain ⟨blanks, hblanks, hkey⟩ := skipKey_append hbefore hlabel (value ++ tail)
    rw [skipFrom_after (advance_comma hbs hkey)]
    exact (hpassed _ hblanks hends).trans htail

theorem skipFrom_written {part : Part} {cs : List Char} (h : Written part cs) :
    part.Passed cs := by
  induction h with
  | scalar h =>
    intro bs rest stack hbs hrest
    have hskip := skipScalar_append h hrest
    obtain ⟨c, tail, rfl, hblank, hbracket⟩ := h.exists_head
    exact skipFrom_scalar (skipBlanks_append_cons hbs hblank _) (fun b => (hbracket b).1) hskip
  | @empty b blanks h =>
    intro bs rest stack hbs hrest
    rw [List.cons_append, List.append_assoc,
      skipFrom_opening (skipBlanks_append_cons hbs (isBlank_opening b) _)]
    exact skipFrom_opened (enter_closing h)
  | @bracket b cs h ih =>
    intro bs rest stack hbs hrest
    rw [List.cons_append, List.append_assoc,
      skipFrom_opening (skipBlanks_append_cons hbs (isBlank_opening b) _)]
    exact (ih stack rest).1
  | @last b before label value after hbefore hlabel hvalue hafter ih =>
    intro stack rest
    simp only [List.append_assoc]
    exact skipFrom_element hbefore hlabel hvalue ih (ends_append hafter (ends_closing b rest))
      (skipFrom_after (advance_closing hafter))
  | @more b before label value after cs hbefore hlabel hvalue hafter h ih ihmore =>
    intro stack rest
    simp only [List.append_assoc, List.cons_append]
    exact skipFrom_element hbefore hlabel hvalue ih (ends_append hafter (ends_comma _))
      ((ihmore stack rest).2 hafter)

/-- A value of any kind and depth is passed over. -/
theorem skipValue_append {bs cs rest : List Char} (hbs : Blanks bs) (h : Value cs)
    (hrest : Ends rest) : skipValue (bs ++ (cs ++ rest)) = .ok rest := by
  have hwalk : skipFrom .value [] (bs ++ (cs ++ rest)) = skipFrom .after [] rest :=
    skipFrom_written h [] hbs hrest
  rw [skipValue, hwalk, skipFrom]

end PinnedLink.Json
