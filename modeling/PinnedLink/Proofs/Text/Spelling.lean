import Mathlib.Data.List.Induction
import PinnedLink.Text.Blank
import PinnedLink.Text.Numeral

/-!
# Trimmed texts and numerals

`Trims` says what a text is without the white space at its ends, and `Numeral` which texts write a
number.  Neither knows how a text is gone through: `trims_iff` and `readNumeral?_eq_some_iff` say that
`trim` and `readNumeral?` come to the same.
-/

namespace PinnedLink.Text

/-! ## White space at the ends -/

/-- What a text is without the white space at its ends. -/
structure Trims (text inner : List Char) : Prop where
  split : ∃ front back, text = front ++ (inner ++ back) ∧ (∀ c ∈ front, isBlank c = true) ∧
    ∀ c ∈ back, isBlank c = true
  head : ∀ c ∈ inner.head?, isBlank c = false
  last : ∀ c ∈ inner.getLast?, isBlank c = false

theorem dropWhile_isBlank_of_head {cs : List Char} (h : ∀ c ∈ cs.head?, isBlank c = false) :
    cs.dropWhile isBlank = cs := by
  cases cs with
  | nil => rfl
  | cons c cs => exact List.dropWhile_cons_of_neg (by rw [h c rfl]; exact Bool.false_ne_true)

theorem head?_dropWhile_isBlank (cs : List Char) :
    ∀ c ∈ (cs.dropWhile isBlank).head?, isBlank c = false := by
  intro c hc
  have hstop := List.head?_dropWhile_not isBlank cs
  rw [Option.mem_def.1 hc] at hstop
  exact hstop

theorem isBlank_of_mem_takeWhile {cs : List Char} {c : Char} (h : c ∈ cs.takeWhile isBlank) :
    isBlank c = true :=
  List.all_eq_true.1 List.all_takeWhile c h

/-- White space behind a text that does not end in it is taken off. -/
theorem trimRight_append {inner back : List Char} (hlast : ∀ c ∈ inner.getLast?, isBlank c = false)
    (hback : ∀ c ∈ back, isBlank c = true) : trimRight (inner ++ back) = inner := by
  rw [trimRight, List.reverse_append,
    List.dropWhile_append_of_pos fun c hc => hback c (List.mem_reverse.1 hc),
    dropWhile_isBlank_of_head (by rw [List.head?_reverse]; exact hlast), List.reverse_reverse]

theorem trims_iff {text inner : List Char} : Trims text inner ↔ inner = trim text := by
  constructor
  · rintro ⟨⟨front, back, rfl, hfront, hback⟩, hhead, hlast⟩
    rw [trim, List.dropWhile_append_of_pos hfront]
    cases inner with
    | nil =>
      rw [List.nil_append, ← List.append_nil back, List.dropWhile_append_of_pos hback]
      rfl
    | cons c inner =>
      have hstop : (c :: inner ++ back).dropWhile isBlank = c :: inner ++ back :=
        dropWhile_isBlank_of_head hhead
      rw [hstop, trimRight_append hlast hback]
  · rintro rfl
    let rest := text.dropWhile isBlank
    let kept := rest.reverse.dropWhile isBlank
    have hrest : rest = kept.reverse ++ (rest.reverse.takeWhile isBlank).reverse := by
      rw [← List.reverse_append, List.takeWhile_append_dropWhile, List.reverse_reverse]
    refine ⟨⟨text.takeWhile isBlank, (rest.reverse.takeWhile isBlank).reverse, ?_,
      fun c hc => isBlank_of_mem_takeWhile hc,
      fun c hc => isBlank_of_mem_takeWhile (List.mem_reverse.1 hc)⟩, ?_, ?_⟩
    · show text = text.takeWhile isBlank ++ (kept.reverse ++ _)
      rw [← hrest, List.takeWhile_append_dropWhile]
    · -- the text in front of what is cut off begins as the whole does
      intro c hc
      refine head?_dropWhile_isBlank text c ?_
      show c ∈ rest.head?
      rw [hrest, List.head?_append]
      have hkept : kept.reverse.head? = some c := hc
      rw [hkept]
      rfl
    · intro c hc
      refine head?_dropWhile_isBlank rest.reverse c ?_
      rw [← List.getLast?_reverse]
      exact hc

/-! ## Numerals -/

/-- Decimal digits, most significant first, and the number that they write. -/
inductive Digits : List Char → Nat → Prop where
  | digit {d : Nat} (hd : d < 10) : Digits [Nat.digitChar d] d
  | append {cs : List Char} {n d : Nat} (h : Digits cs n) (hd : d < 10) :
      Digits (cs ++ [Nat.digitChar d]) (10 * n + d)

/-- A numeral: digits, perhaps behind a plus sign. -/
inductive Numeral : List Char → Nat → Prop where
  | bare {cs : List Char} {n : Nat} (h : Digits cs n) : Numeral cs n
  | plus {cs : List Char} {n : Nat} (h : Digits cs n) : Numeral ('+' :: cs) n

theorem isDigit_digitChar {d : Nat} (hd : d < 10) : isDigit (Nat.digitChar d) = true := by
  revert d
  decide

theorem digitValue_digitChar {d : Nat} (hd : d < 10) : digitValue (Nat.digitChar d) = d := by
  revert d
  decide

theorem digitValue_lt {c : Char} (h : isDigit c = true) : digitValue c < 10 := by
  have hnine : c ≤ '9' := of_decide_eq_true (Bool.and_eq_true_iff.1 h).2
  have hle : c.toNat ≤ 57 := hnine
  rw [digitValue]
  omega

theorem digitChar_digitValue {c : Char} (h : isDigit c = true) :
    Nat.digitChar (digitValue c) = c := by
  have hbounds : '0' ≤ c ∧ c ≤ '9' := by simpa [isDigit] using h
  have hzero : 48 ≤ c.toNat := hbounds.1
  have hnine : c.toNat ≤ 57 := hbounds.2
  have hall : ∀ d, d < 10 → Nat.digitChar d = Char.ofNat (48 + d) := by decide
  rw [hall _ (digitValue_lt h), digitValue, Nat.add_sub_cancel' hzero, Char.ofNat_toNat]

theorem digitsValue_append (cs : List Char) (c : Char) :
    digitsValue (cs ++ [c]) = digitsValue cs * 10 + digitValue c := by
  rw [digitsValue, List.foldl_append]
  rfl

theorem Digits.all_isDigit {cs : List Char} {n : Nat} (h : Digits cs n) :
    ∀ c ∈ cs, isDigit c = true := by
  induction h with
  | digit hd => exact List.forall_mem_singleton.2 (isDigit_digitChar hd)
  | append h hd ih =>
    exact List.forall_mem_append.2 ⟨ih, List.forall_mem_singleton.2 (isDigit_digitChar hd)⟩

theorem Digits.ne_nil {cs : List Char} {n : Nat} (h : Digits cs n) : cs ≠ [] := by
  cases h with
  | digit hd => exact List.cons_ne_nil _ _
  | append h hd => exact List.concat_ne_nil _ _

theorem Digits.digitsValue_eq {cs : List Char} {n : Nat} (h : Digits cs n) : digitsValue cs = n := by
  induction h with
  | digit hd => exact (Nat.zero_add _).trans (digitValue_digitChar hd)
  | append h hd ih => rw [digitsValue_append, ih, digitValue_digitChar hd, Nat.mul_comm]

/-- Any digits write the number that is their value. -/
theorem digits_digitsValue {cs : List Char} (hne : cs ≠ []) (h : ∀ c ∈ cs, isDigit c = true) :
    Digits cs (digitsValue cs) := by
  induction cs using List.reverseRecOn with
  | nil => exact absurd rfl hne
  | append_singleton cs c ih =>
    obtain ⟨hfront, hlast⟩ := List.forall_mem_append.1 h
    have hc := hlast c (List.mem_singleton_self c)
    rw [digitsValue_append, Nat.mul_comm]
    by_cases hnil : cs = []
    · subst hnil
      have hone : Digits [Nat.digitChar (digitValue c)] (digitValue c) := .digit (digitValue_lt hc)
      rw [digitChar_digitValue hc] at hone
      rwa [List.nil_append, digitsValue, List.foldl_nil, Nat.mul_zero, Nat.zero_add]
    · have hmore := Digits.append (ih hnil hfront) (digitValue_lt hc)
      rwa [digitChar_digitValue hc] at hmore

theorem digits_iff {cs : List Char} {n : Nat} :
    Digits cs n ↔ cs ≠ [] ∧ (∀ c ∈ cs, isDigit c = true) ∧ digitsValue cs = n := by
  constructor
  · intro h
    exact ⟨h.ne_nil, h.all_isDigit, h.digitsValue_eq⟩
  · rintro ⟨hne, hall, rfl⟩
    exact digits_digitsValue hne hall

/-- No digit is a plus sign. -/
theorem Digits.dropPlus_eq {cs : List Char} {n : Nat} (h : Digits cs n) : dropPlus cs = cs := by
  unfold dropPlus
  split
  · exact absurd (h.all_isDigit '+' List.mem_cons_self) (by decide)
  · rfl

theorem numeral_iff {cs : List Char} {n : Nat} : Numeral cs n ↔ Digits (dropPlus cs) n := by
  constructor
  · rintro (h | h)
    · rwa [h.dropPlus_eq]
    · exact h
  · intro h
    unfold dropPlus at h
    split at h
    · exact .plus h
    · exact .bare h

/-- A text is read as a number exactly if it is a numeral of it and the number is within the limit. -/
theorem readNumeral?_eq_some_iff {limit n : Nat} {cs : List Char} :
    readNumeral? limit cs = some n ↔ Numeral cs n ∧ n ≤ limit := by
  rw [numeral_iff, digits_iff, readNumeral?]
  simp only [List.all_eq_true, ite_eq_iff, Option.some.injEq, reduceCtorEq, and_false, or_false]
  constructor
  · rintro ⟨⟨hne, hall, hle⟩, rfl⟩
    exact ⟨⟨hne, hall, rfl⟩, hle⟩
  · rintro ⟨⟨hne, hall, rfl⟩, hle⟩
    exact ⟨⟨hne, hall, hle⟩, rfl⟩

theorem readNumeral?_eq_none_iff {limit : Nat} {cs : List Char} :
    readNumeral? limit cs = none ↔ ∀ n, Numeral cs n → limit < n := by
  rw [Option.eq_none_iff_forall_ne_some]
  constructor
  · intro h n hn
    exact Nat.lt_of_not_le fun hle => h n (readNumeral?_eq_some_iff.2 ⟨hn, hle⟩)
  · intro h n hsome
    obtain ⟨hn, hle⟩ := readNumeral?_eq_some_iff.1 hsome
    exact absurd (h n hn) (Nat.not_lt.2 hle)

/-- The decimal digits of a number write it. -/
theorem digits_toDigits (n : Nat) : Digits (Nat.toDigits 10 n) n := by
  induction n using Nat.strongRecOn with
  | ind n ih =>
    rcases Nat.lt_or_ge n 10 with hlt | hge
    · rw [Nat.toDigits_of_lt_base hlt]
      exact .digit hlt
    · rw [Nat.toDigits_of_base_le (by decide) hge]
      have hmore := Digits.append (ih (n / 10) (by omega)) (Nat.mod_lt n (by decide : 0 < 10))
      rwa [Nat.div_add_mod] at hmore

end PinnedLink.Text
