import PinnedLink.Json.Printer
import PinnedLink.Proofs.Json.Reading

/-!
# What is written is of the grammar

`escapeChar` escapes what may not stand between quotes as it is, by a letter or by the number of the
character, so a text in quotes spells that text (`letters_escapeChar`).  Digits of a number make a
whole number (`whole_toDigits`), and what a layout puts between the parts of an object is blank.
-/

namespace PinnedLink.Json

open Text (isDigit isHighUnit isLowUnit)

/-! ## Strings -/

theorem value?_digit {n : Nat} (h : n < 16) : Hex.value? (Hex.digit n) = some n := by
  revert n
  decide

/-- The number of a character of one byte is written with two zeros in front. -/
theorem hexUnit_byte {n : Nat} (h : n < 256) :
    HexUnit ['0', '0', Hex.digit (n / 16), Hex.digit (n % 16)] n := by
  have hunit : HexUnit ['0', '0', Hex.digit (n / 16), Hex.digit (n % 16)]
      (((0 * 16 + 0) * 16 + n / 16) * 16 + n % 16) :=
    .digits rfl rfl (value?_digit (by omega)) (value?_digit (by omega))
  have hvalue : ((0 * 16 + 0) * 16 + n / 16) * 16 + n % 16 = n := by omega
  rwa [hvalue] at hunit

/-- A control character without a letter is escaped by its number. -/
theorem letters_control {c : Char} {cs text : List Char} (hc : c < ' ') (h : Letters cs text) :
    Letters (['\\', 'u', '0', '0', Hex.digit (c.toNat / 16), Hex.digit (c.toNat % 16)] ++ cs)
      (c :: text) := by
  have hlt : c.toNat < 32 := hc
  have hunit := hexUnit_byte (n := c.toNat) (by omega)
  have hhigh : isHighUnit c.toNat = false := by simp [isHighUnit]; omega
  have hlow : isLowUnit c.toNat = false := by simp [isLowUnit]; omega
  have hletters := Letters.unit hunit hhigh hlow h
  rwa [Char.ofNat_toNat] at hletters

theorem letters_escapeChar {cs text : List Char} (c : Char) (h : Letters cs text) :
    Letters (escapeChar c ++ cs) (c :: text) := by
  unfold escapeChar
  split
  · rename_i hquote
    subst hquote
    exact .letter rfl h
  · rename_i hquote
    split
    · rename_i hescape
      subst hescape
      exact .letter rfl h
    · rename_i hescape
      split_ifs with hb hf hn hr ht hcontrol
      · subst hb
        exact .letter rfl h
      · subst hf
        exact .letter rfl h
      · subst hn
        exact .letter rfl h
      · subst hr
        exact .letter rfl h
      · subst ht
        exact .letter rfl h
      · exact letters_control hcontrol h
      · exact .plain hquote hescape hcontrol h

/-- A text, written character by character, is spelled. -/
theorem letters_flatMap (text : List Char) : Letters (text.flatMap escapeChar) text := by
  induction text with
  | nil => exact .nil
  | cons c text ih =>
    rw [List.flatMap_cons]
    exact letters_escapeChar c ih

/-! ## Numbers -/

/-- The digits of a number that is not zero begin with one that is not. -/
theorem exists_head_toDigits {n : Nat} (h : 0 < n) :
    ∃ c cs, Nat.toDigits 10 n = c :: cs ∧ c ≠ '0' := by
  induction n using Nat.strongRecOn with
  | ind n ih =>
    rcases Nat.lt_or_ge n 10 with hlt | hge
    · have hnonzero : ∀ d, d < 10 → 0 < d → Nat.digitChar d ≠ '0' := by decide
      exact ⟨_, _, Nat.toDigits_of_lt_base hlt, hnonzero n hlt h⟩
    · obtain ⟨c, cs, hcs, hc⟩ := ih (n / 10) (by omega) (by omega)
      refine ⟨c, cs ++ [Nat.digitChar (n % 10)], ?_, hc⟩
      rw [Nat.toDigits_of_base_le (by decide) hge, hcs, List.cons_append]

theorem whole_toDigits (n : Nat) : Whole (Nat.toDigits 10 n) := by
  rcases Nat.eq_zero_or_pos n with rfl | hpos
  · exact .zero
  · have hdigits := Text.digits_toDigits n
    obtain ⟨c, cs, hcs, hc⟩ := exists_head_toDigits hpos
    rw [hcs] at hdigits ⊢
    exact .digits hc ⟨hdigits.ne_nil, hdigits.all_isDigit⟩

/-! ## Layouts -/

theorem Layout.blanks_lead (layout : Layout) : Blanks layout.lead := by
  cases layout <;> simp [Blanks, Layout.lead, isBlank]

theorem Layout.blanks_trail (layout : Layout) : Blanks layout.trail := by
  cases layout <;> simp [Blanks, Layout.trail, isBlank]

/-- Behind a key stand a colon and blanks. -/
theorem Layout.exists_colon (layout : Layout) :
    ∃ blanks, Blanks blanks ∧ layout.colon = ':' :: blanks := by
  cases layout
  · exact ⟨[], Blanks.nil, rfl⟩
  · exact ⟨[' '], by simp [Blanks, isBlank], rfl⟩

end PinnedLink.Json
