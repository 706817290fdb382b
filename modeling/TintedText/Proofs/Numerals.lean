import Mathlib.Data.Nat.Digits.Defs
import TintedText.ColorArgument

/-!
# Numerals

What an integer literal says is a sign, a base and the digits, the most significant one first
(`Numeral`). `Writes` lists all the ways to write it down. The reader of literals accepts exactly
these and finds the value, with no bound on the number of digits but the one that decimal numbers
have (`read?_eq_some_iff`).
-/
namespace TintedText.IntegerLiteral

/-- The character is a digit of the given value: a decimal digit of any script, or from ten on a
Latin letter of either case. -/
inductive IsDigit : Char → Nat → Prop
  | decimal {c : Char} {value first : Nat} (hfirst : first ∈ Text.zeroCodes) (hvalue : value < 10)
      (hc : c.toNat = first + value) : IsDigit c value
  | letter {c : Char} {place : Nat} (hplace : place < 26)
      (hc : c.toNat = 'a'.toNat + place ∨ c.toNat = 'A'.toNat + place) : IsDigit c (place + 10)

/-- Digits of a base, each of them possibly behind one underscore. -/
inductive Digits (base : Nat) : List Char → List Nat → Prop
  | nil : Digits base [] []
  | digit {c : Char} {value : Nat} {text : List Char} {values : List Nat} (hc : IsDigit c value)
      (hvalue : value < base) (hrest : Digits base text values) :
      Digits base (c :: text) (value :: values)
  | underscore {c : Char} {value : Nat} {text : List Char} {values : List Nat}
      (hc : IsDigit c value) (hvalue : value < base) (hrest : Digits base text values) :
      Digits base ('_' :: c :: text) (value :: values)

/-- The letters that follow a zero, and the bases they stand for. -/
def baseLetters : List (Char × Nat) :=
  [('x', 16), ('X', 16), ('o', 8), ('O', 8), ('b', 2), ('B', 2)]

/-- The number with the given digits, the most significant one first. -/
def number (base : Nat) (digits : List Nat) : Nat :=
  Nat.ofDigits base digits.reverse

/-- Decimal digits that make a number: no underscore stands in front of them, and a zero only when
the number is zero. -/
structure IsDecimal (text : List Char) (digits : List Nat) : Prop where
  written : Digits 10 text digits
  nonempty : digits ≠ []
  first : text.head? ≠ some '_'
  zero : digits.head? = some 0 → number 10 digits = 0

/-- The ways to write a number without a sign; behind the letter of a base an underscore may
stand. -/
inductive Unsigned : List Char → Nat → List Nat → Prop
  | decimal {text : List Char} {digits : List Nat} (h : IsDecimal text digits) :
      Unsigned text 10 digits
  | based {zero letter : Char} {base : Nat} {text : List Char} {digits : List Nat}
      (hzero : IsDigit zero 0) (hletter : (letter, base) ∈ baseLetters)
      (hdigits : Digits base text digits) (hne : digits ≠ []) :
      Unsigned (zero :: letter :: text) base digits

/-- What a literal says. -/
structure Numeral where
  negative : Bool
  base : Nat
  digits : List Nat
  deriving DecidableEq, Repr

namespace Numeral

/-- The integer that a literal stands for. -/
def value (numeral : Numeral) : Int :=
  if numeral.negative then -(number numeral.base numeral.digits : Int)
  else number numeral.base numeral.digits

/-- A decimal numeral has no more digits than a decimal number may have. -/
def IsShort (numeral : Numeral) : Prop :=
  numeral.base = 10 → numeral.digits.length ≤ Text.maxDigits

end Numeral

/-- The ways to write a number with a sign or without. -/
inductive Signed : List Char → Numeral → Prop
  | bare {text : List Char} {base : Nat} {digits : List Nat} (h : Unsigned text base digits) :
      Signed text ⟨false, base, digits⟩
  | plus {text : List Char} {base : Nat} {digits : List Nat} (h : Unsigned text base digits) :
      Signed ('+' :: text) ⟨false, base, digits⟩
  | minus {text : List Char} {base : Nat} {digits : List Nat} (h : Unsigned text base digits) :
      Signed ('-' :: text) ⟨true, base, digits⟩

/-- The text is a way to write the numeral; white space may stand around it. -/
def Writes (text : List Char) (numeral : Numeral) : Prop :=
  ∃ front body back, text = front ++ body ++ back ∧ (∀ c ∈ front, isSpace c = true) ∧
    (∀ c ∈ back, isSpace c = true) ∧ Signed body numeral

/-! ## Digits -/

variable {base value : Nat} {c : Char} {text : List Char} {digits : List Nat}

/-- Apart from those of the core library the decimal digits have high code points. -/
lemma eq_or_le_of_mem_zeroCodes : ∀ first ∈ Text.zeroCodes, first = 0x30 ∨ 0x660 ≤ first := by
  decide

lemma zeroCodes_blankCodes_apart : ∀ first ∈ Text.zeroCodes, ∀ blank ∈ Text.blankCodes,
    blank < first ∨ first + 10 ≤ blank := by
  decide +kernel

lemma isSpace_eq_false_of_notMem (h : c.toNat ∉ Text.blankCodes) : isSpace c = false := by
  have hnot : Text.isBlank c = false := by
    rwa [Text.isBlank, ← Bool.not_eq_true, List.contains_iff_mem]
  rw [isSpace, hnot, Bool.false_and]

/-- Between the space and the delete character there is no white space. -/
lemma isSpace_eq_false_of_ascii (hlow : 0x20 < c.toNat) (hhigh : c.toNat < 0x7F) :
    isSpace c = false := by
  have hblank : ∀ blank ∈ Text.blankCodes, blank ≤ 0x20 ∨ 0x7F ≤ blank := by decide
  refine isSpace_eq_false_of_notMem fun hmem => ?_
  have := hblank _ hmem
  omega

namespace IsDigit

/-- Digits are plain letters and decimal digits, which are far from all other characters of a
literal. -/
lemma toNat_cases (h : IsDigit c value) :
    (0x30 ≤ c.toNat ∧ c.toNat ≤ 0x39) ∨ (0x41 ≤ c.toNat ∧ c.toNat ≤ 0x5A) ∨
      (0x61 ≤ c.toNat ∧ c.toNat ≤ 0x7A) ∨ 0x660 ≤ c.toNat := by
  cases h with
  | decimal hfirst hvalue hc =>
    have := eq_or_le_of_mem_zeroCodes _ hfirst
    omega
  | letter hplace hc =>
    have ha : 'a'.toNat = 0x61 := rfl
    have hA : 'A'.toNat = 0x41 := rfl
    omega

lemma ne_of_toNat {other : Char} (h : IsDigit c value)
    (hother : other.toNat = 0x2B ∨ other.toNat = 0x2D ∨ other.toNat = 0x5F) : c ≠ other := by
  rintro rfl
  have := h.toNat_cases
  omega

lemma ne_underscore (h : IsDigit c value) : c ≠ '_' :=
  h.ne_of_toNat (.inr (.inr rfl))

lemma isSpace_eq_false (h : IsDigit c value) : isSpace c = false := by
  cases h with
  | decimal hfirst hvalue hc =>
    refine isSpace_eq_false_of_notMem fun hmem => ?_
    have := zeroCodes_blankCodes_apart _ hfirst _ hmem
    omega
  | letter hplace hc =>
    have ha : 'a'.toNat = 0x61 := rfl
    have hA : 'A'.toNat = 0x41 := rfl
    exact isSpace_eq_false_of_ascii (by omega) (by omega)

end IsDigit

lemma letterValue?_eq_some_iff :
    letterValue? c = some value ↔ ∃ place, place < 26 ∧ value = place + 10 ∧
      (c.toNat = 'a'.toNat + place ∨ c.toNat = 'A'.toNat + place) := by
  have hsmall : 'a' ≤ c ∧ c ≤ 'z' ↔ 0x61 ≤ c.toNat ∧ c.toNat ≤ 0x7A := Iff.rfl
  have hcapital : 'A' ≤ c ∧ c ≤ 'Z' ↔ 0x41 ≤ c.toNat ∧ c.toNat ≤ 0x5A := Iff.rfl
  have ha : 'a'.toNat = 0x61 := rfl
  have hA : 'A'.toNat = 0x41 := rfl
  simp only [letterValue?, hsmall, hcapital, ha, hA]
  split_ifs
  · rw [Option.some.injEq]
    refine ⟨fun h => ⟨c.toNat - 0x61, by omega⟩, ?_⟩
    rintro ⟨place, h⟩
    omega
  · rw [Option.some.injEq]
    refine ⟨fun h => ⟨c.toNat - 0x41, by omega⟩, ?_⟩
    rintro ⟨place, h⟩
    omega
  · refine iff_of_false (by simp) ?_
    rintro ⟨place, h⟩
    omega

theorem digit?_eq_some_iff : digit? base c = some value ↔ IsDigit c value ∧ value < base := by
  rw [digit?, Option.filter_eq_some_iff, decide_eq_true_iff, Option.or_eq_some_iff,
    Text.decimal?_eq_some_iff, letterValue?_eq_some_iff]
  refine and_congr_left fun _ => ⟨?_, ?_⟩
  · rintro (⟨hlt, first, hfirst, hc⟩ | ⟨-, place, hplace, rfl, hc⟩)
    · exact .decimal hfirst hlt hc
    · exact .letter hplace hc
  · rintro (⟨hfirst, hlt, hc⟩ | ⟨hplace, hc⟩)
    · exact .inl ⟨hlt, _, hfirst, hc⟩
    · -- a letter is no decimal digit, which the reader would prefer
      refine .inr ⟨Option.eq_none_iff_forall_ne_some.mpr fun other hother => ?_, _, hplace, rfl, hc⟩
      obtain ⟨hlt, first, hfirst, hvalue⟩ := Text.decimal?_eq_some_iff.mp hother
      have := eq_or_le_of_mem_zeroCodes _ hfirst
      have ha : 'a'.toNat = 0x61 := rfl
      have hA : 'A'.toNat = 0x41 := rfl
      omega

/-! ## Numbers -/

lemma digitsAfter_digit (h : digit? base c = some value) (before : Nat) (text : List Char) :
    digitsAfter base before (c :: text) = digitsAfter base (before * base + value) text := by
  have hc := (digit?_eq_some_iff.mp h).1.ne_underscore
  cases text with
  | nil => simp [digitsAfter, h]
  | cons next rest => simp [digitsAfter, hc, h]

lemma digitsAfter_underscore (h : digit? base c = some value) (before : Nat) (text : List Char) :
    digitsAfter base before ('_' :: c :: text) =
      digitsAfter base (before * base + value) text := by
  simp [digitsAfter, h]

/-- The number that the digits read so far and those that follow make. -/
lemma Digits.digitsAfter_eq (h : Digits base text digits) (before : Nat) :
    digitsAfter base before text =
      some (digits.foldl (fun number digit => number * base + digit) before) := by
  induction h generalizing before with
  | nil => rfl
  | digit hc hvalue hrest ih =>
    rw [digitsAfter_digit (digit?_eq_some_iff.mpr ⟨hc, hvalue⟩), ih, List.foldl_cons]
  | underscore hc hvalue hrest ih =>
    rw [digitsAfter_underscore (digit?_eq_some_iff.mpr ⟨hc, hvalue⟩), ih, List.foldl_cons]

/-- Whatever is read behind a digit is a way to write digits. -/
lemma exists_digits_of_digitsAfter {before found : Nat}
    (h : digitsAfter base before text = some found) : ∃ digits, Digits base text digits := by
  fun_induction digitsAfter base before text with
  | case1 before => exact ⟨[], .nil⟩
  | case2 before c =>
    obtain ⟨value, hvalue, -⟩ := Option.map_eq_some_iff.mp h
    obtain ⟨hc, hlt⟩ := digit?_eq_some_iff.mp hvalue
    exact ⟨[value], .digit hc hlt .nil⟩
  | case3 before next rest value hvalue ih =>
    obtain ⟨hc, hlt⟩ := digit?_eq_some_iff.mp hvalue
    obtain ⟨digits, hdigits⟩ := ih h
    exact ⟨value :: digits, .underscore hc hlt hdigits⟩
  | case4 => cases h
  | case5 before c next rest hunderscore value hvalue ih =>
    obtain ⟨hc, hlt⟩ := digit?_eq_some_iff.mp hvalue
    obtain ⟨digits, hdigits⟩ := ih h
    exact ⟨value :: digits, .digit hc hlt hdigits⟩
  | case6 => cases h

lemma number_eq_foldl (base : Nat) (digits : List Nat) :
    number base digits = digits.foldl (fun number digit => number * base + digit) 0 := by
  rw [number, Nat.ofDigits_eq_foldr, List.foldr_reverse]
  congr 1
  funext number digit
  rw [Nat.cast_id]
  ring

theorem digitsAfter_eq_some_iff {found : Nat} :
    digitsAfter base 0 text = some found ↔
      ∃ digits, Digits base text digits ∧ number base digits = found := by
  constructor
  · intro h
    obtain ⟨digits, hdigits⟩ := exists_digits_of_digitsAfter h
    rw [hdigits.digitsAfter_eq, Option.some.injEq, ← number_eq_foldl] at h
    exact ⟨digits, hdigits, h⟩
  · rintro ⟨digits, hdigits, rfl⟩
    rw [hdigits.digitsAfter_eq, number_eq_foldl]

namespace Digits

lemma eq_nil_iff (h : Digits base text digits) : digits = [] ↔ text = [] := by
  cases h <;> simp

lemma countP_eq (h : Digits base text digits) : text.countP (· != '_') = digits.length := by
  induction h with
  | nil => rfl
  | digit hc hvalue hrest ih => simp [hc.ne_underscore, ih]
  | underscore hc hvalue hrest ih => simp [hc.ne_underscore, ih]

lemma isSpace_eq_false (h : Digits base text digits) : ∀ c ∈ text, isSpace c = false := by
  have hunderscore : isSpace '_' = false := by decide
  induction h with
  | nil => simp
  | digit hc hvalue hrest ih => simpa using ⟨hc.isSpace_eq_false, ih⟩
  | underscore hc hvalue hrest ih => simpa using ⟨hunderscore, hc.isSpace_eq_false, ih⟩

end Digits

lemma digits_eq_digitsAfter (hne : text ≠ []) (hfirst : text.head? ≠ some '_') :
    IntegerLiteral.digits base text = digitsAfter base 0 text := by
  obtain ⟨c, rest, rfl⟩ := List.exists_cons_of_ne_nil hne
  have hc : c ≠ '_' := by simpa using hfirst
  rw [IntegerLiteral.digits]
  cases hdigit : digit? base c with
  | some value => rw [digitsAfter_digit hdigit, Nat.zero_mul, Nat.zero_add]
  | none => cases rest <;> simp [digitsAfter, hdigit, hc]

lemma digit?_underscore : digit? base '_' = none := by
  rw [Option.eq_none_iff_forall_ne_some]
  exact fun value h => (digit?_eq_some_iff.mp h).1.ne_underscore rfl

theorem digits_eq_some_iff {found : Nat} :
    IntegerLiteral.digits base text = some found ↔ ∃ digits, Digits base text digits ∧
      digits ≠ [] ∧ text.head? ≠ some '_' ∧ number base digits = found := by
  by_cases hread : text ≠ [] ∧ text.head? ≠ some '_'
  · rw [digits_eq_digitsAfter hread.1 hread.2, digitsAfter_eq_some_iff]
    refine exists_congr fun digits => and_congr_right fun hdigits => ?_
    have hne : digits ≠ [] := by rw [Ne, hdigits.eq_nil_iff]; exact hread.1
    simp [hne, hread.2]
  · refine iff_of_false ?_ ?_
    · cases text with
      | nil => simp [IntegerLiteral.digits]
      | cons c rest =>
        obtain rfl : c = '_' := by simpa using hread
        simp [IntegerLiteral.digits, digit?_underscore]
    · rintro ⟨digits, hdigits, hne, hfirst, -⟩
      rw [Ne, hdigits.eq_nil_iff] at hne
      exact hread ⟨hne, hfirst⟩

/-- An underscore stands in front of digits, and alone. -/
lemma digits_underscore_iff :
    Digits base ('_' :: text) digits ↔
      Digits base text digits ∧ digits ≠ [] ∧ text.head? ≠ some '_' := by
  constructor
  · intro h
    cases h with
    | digit hc hvalue hrest => exact absurd rfl hc.ne_underscore
    | underscore hc hvalue hrest =>
      exact ⟨.digit hc hvalue hrest, by simp, by simpa using hc.ne_underscore⟩
  · rintro ⟨h, hne, hfirst⟩
    cases h with
    | nil => exact absurd rfl hne
    | digit hc hvalue hrest => exact .underscore hc hvalue hrest
    | underscore hc hvalue hrest => exact absurd rfl hfirst

/-- Behind the letter of a base an underscore may stand. -/
theorem afterPrefix_eq_some_iff {found : Nat} :
    afterPrefix base text = some found ↔
      ∃ digits, Digits base text digits ∧ digits ≠ [] ∧ number base digits = found := by
  by_cases hfirst : text.head? = some '_'
  · obtain ⟨rest, rfl⟩ := List.head?_eq_some_iff.mp hfirst
    simp only [afterPrefix, digits_eq_some_iff, digits_underscore_iff]
    grind
  · have hdigits : afterPrefix base text = IntegerLiteral.digits base text := by
      unfold afterPrefix
      split
      · exact absurd rfl hfirst
      · rfl
    simp [hdigits, digits_eq_some_iff, hfirst]

/-! ## Literals -/

lemma decimal?_of_isDigit (h : IsDigit c value) (hvalue : value < 10) :
    Text.decimal? c = some value := by
  cases h with
  | decimal hfirst hlt hc => exact Text.decimal?_eq_some_iff.mpr ⟨hlt, _, hfirst, hc⟩
  | letter => omega

/-- A decimal number begins with a zero when its first digit is one. -/
lemma Digits.starts_iff (h : Digits 10 text digits) (hfirst : text.head? ≠ some '_') :
    text.head?.bind Text.decimal? = some 0 ↔ digits.head? = some 0 := by
  cases h with
  | nil => simp
  | digit hc hvalue hrest => simp [decimal?_of_isDigit hc hvalue]
  | underscore => exact absurd rfl hfirst

/-- A decimal number is kept when it is short, and zero if it begins with zero. -/
lemma Digits.kept_iff (h : Digits 10 text digits) (hfirst : text.head? ≠ some '_') :
    (isShort text &&
        (!((text.head?.bind Text.decimal?) == some 0) || number 10 digits == 0)) = true ↔
      digits.length ≤ Text.maxDigits ∧ (digits.head? = some 0 → number 10 digits = 0) := by
  rw [isShort, h.countP_eq, Bool.and_eq_true, decide_eq_true_iff, Bool.or_eq_true,
    Bool.not_eq_true', beq_eq_false_iff_ne, beq_iff_eq, Ne, h.starts_iff hfirst, imp_iff_not_or]

theorem decimal_eq_some_iff {found : Nat} :
    decimal text = some found ↔ ∃ digits, IsDecimal text digits ∧
      digits.length ≤ Text.maxDigits ∧ number 10 digits = found := by
  rw [decimal, Option.filter_eq_some_iff, digits_eq_some_iff]
  constructor
  · rintro ⟨⟨digits, hdigits, hne, hfirst, rfl⟩, hkept⟩
    obtain ⟨hshort, hzero⟩ := (hdigits.kept_iff hfirst).mp hkept
    exact ⟨digits, ⟨hdigits, hne, hfirst, hzero⟩, hshort, rfl⟩
  · rintro ⟨digits, ⟨hdigits, hne, hfirst, hzero⟩, hshort, rfl⟩
    exact ⟨⟨digits, hdigits, hne, hfirst, rfl⟩, (hdigits.kept_iff hfirst).mpr ⟨hshort, hzero⟩⟩

lemma baseOfLetter?_eq_some_iff : baseOfLetter? c = some base ↔ (c, base) ∈ baseLetters := by
  simp only [baseOfLetter?, baseLetters, List.mem_cons, Prod.mk.injEq, List.not_mem_nil, or_false]
  grind

lemma not_decimal_of_mem_baseLetters : ∀ entry ∈ baseLetters,
    Text.decimal? entry.1 = none ∧ entry.1 ≠ '_' ∧ entry.2 ≠ 10 := by
  decide

/-- A decimal number does not go on with the letter of a base. -/
lemma not_isDecimal_of_letter {zero letter : Char} (hzero : IsDigit zero value)
    (hletter : (letter, base) ∈ baseLetters) : ¬ IsDecimal (zero :: letter :: text) digits := by
  obtain ⟨hdecimal, hunderscore, -⟩ := not_decimal_of_mem_baseLetters _ hletter
  rintro ⟨hdigits, -, -, -⟩
  cases hdigits with
  | digit hc hvalue hrest =>
    cases hrest with
    | digit hc hvalue hrest =>
      rw [decimal?_of_isDigit hc hvalue] at hdecimal
      cases hdecimal
    | underscore => exact hunderscore rfl
  | underscore => exact absurd rfl hzero.ne_underscore

lemma magnitude?_based {zero letter : Char} (hzero : IsDigit zero 0)
    (hletter : (letter, base) ∈ baseLetters) (rest : List Char) :
    magnitude? (zero :: letter :: rest) = afterPrefix base rest := by
  have hdecimal : (Text.decimal? zero).filter (· == 0) = some 0 := by
    rw [decimal?_of_isDigit hzero (by decide)]
    rfl
  rw [magnitude?, hdecimal, baseOfLetter?_eq_some_iff.mpr hletter]

lemma magnitude?_decimal (h : ∀ zero letter base rest, text = zero :: letter :: rest →
    IsDigit zero 0 → (letter, base) ∉ baseLetters) : magnitude? text = decimal text := by
  unfold magnitude?
  split
  · rename_i zero letter rest
    split
    · rename_i found base hzero hletter
      rw [Option.filter_eq_some_iff, beq_iff_eq] at hzero
      obtain ⟨hzero, rfl⟩ := hzero
      obtain ⟨hlt, first, hfirst, hcode⟩ := Text.decimal?_eq_some_iff.mp hzero
      exact absurd (baseOfLetter?_eq_some_iff.mp hletter)
        (h zero letter base rest rfl (.decimal hfirst hlt hcode))
    · rfl
  · rfl

/-- The reader accepts exactly the ways to write a number, but no decimal one that is too long. -/
theorem magnitude?_eq_some_iff {found : Nat} :
    magnitude? text = some found ↔ ∃ base digits, Unsigned text base digits ∧
      (base = 10 → digits.length ≤ Text.maxDigits) ∧ number base digits = found := by
  by_cases hbased : ∃ zero letter base rest, text = zero :: letter :: rest ∧ IsDigit zero 0 ∧
      (letter, base) ∈ baseLetters
  · obtain ⟨zero, letter, base, rest, rfl, hzero, hletter⟩ := hbased
    rw [magnitude?_based hzero hletter, afterPrefix_eq_some_iff]
    constructor
    · rintro ⟨digits, hdigits, hne, rfl⟩
      exact ⟨base, digits, .based hzero hletter hdigits hne,
        fun h => absurd h (not_decimal_of_mem_baseLetters _ hletter).2.2, rfl⟩
    · rintro ⟨base', digits, hwritten, -, rfl⟩
      cases hwritten with
      | decimal h => exact absurd h (not_isDecimal_of_letter hzero hletter)
      | based hzero' hletter' hdigits hne =>
        -- a letter stands for one base only
        have hbase := baseOfLetter?_eq_some_iff.mpr hletter
        rw [baseOfLetter?_eq_some_iff.mpr hletter', Option.some.injEq] at hbase
        subst hbase
        exact ⟨digits, hdigits, hne, rfl⟩
  · have hdecimal : magnitude? text = decimal text :=
      magnitude?_decimal fun zero letter base rest htext hzero hletter =>
        hbased ⟨zero, letter, base, rest, htext, hzero, hletter⟩
    rw [hdecimal, decimal_eq_some_iff]
    constructor
    · rintro ⟨digits, h, hshort, rfl⟩
      exact ⟨10, digits, .decimal h, fun _ => hshort, rfl⟩
    · rintro ⟨base, digits, hwritten, hshort, rfl⟩
      cases hwritten with
      | decimal h => exact ⟨digits, h, hshort rfl, rfl⟩
      | based hzero hletter => exact absurd ⟨_, _, _, _, rfl, hzero, hletter⟩ hbased

namespace Unsigned

lemma exists_head (h : Unsigned text base digits) :
    ∃ c rest value, text = c :: rest ∧ IsDigit c value ∧ value < 10 := by
  cases h with
  | decimal h =>
    obtain ⟨hdigits, hne, hfirst, -⟩ := h
    cases hdigits with
    | nil => exact absurd rfl hne
    | digit hc hvalue => exact ⟨_, _, _, rfl, hc, hvalue⟩
    | underscore => exact absurd rfl hfirst
  | based hzero => exact ⟨_, _, _, rfl, hzero, by decide⟩

lemma isSpace_eq_false (h : Unsigned text base digits) : ∀ c ∈ text, isSpace c = false := by
  have hletters : ∀ entry ∈ baseLetters, isSpace entry.1 = false := by decide
  cases h with
  | decimal h => exact h.written.isSpace_eq_false
  | based hzero hletter hdigits =>
    simpa using ⟨hzero.isSpace_eq_false, hletters _ hletter, hdigits.isSpace_eq_false⟩

end Unsigned

variable {numeral : Numeral}

namespace Signed

lemma isSpace_eq_false (h : Signed text numeral) : ∀ c ∈ text, isSpace c = false := by
  have hplus : isSpace '+' = false := by decide
  have hminus : isSpace '-' = false := by decide
  cases h with
  | bare h => exact h.isSpace_eq_false
  | plus h => simpa using ⟨hplus, h.isSpace_eq_false⟩
  | minus h => simpa using ⟨hminus, h.isSpace_eq_false⟩

lemma exists_head (h : Signed text numeral) :
    ∃ c rest, text = c :: rest ∧ (c = '+' ∨ c = '-' ∨ ∃ value < 10, IsDigit c value) := by
  cases h with
  | bare h =>
    obtain ⟨c, rest, value, rfl, hc, hvalue⟩ := h.exists_head
    exact ⟨c, rest, rfl, .inr (.inr ⟨value, hvalue, hc⟩)⟩
  | plus => exact ⟨'+', _, rfl, .inl rfl⟩
  | minus => exact ⟨'-', _, rfl, .inr (.inl rfl)⟩

end Signed

lemma not_unsigned_sign (hc : c = '+' ∨ c = '-') : ¬ Unsigned (c :: text) base digits := by
  intro h
  obtain ⟨first, rest, value, htext, hfirst, -⟩ := h.exists_head
  obtain ⟨rfl, -⟩ := List.cons.inj htext
  obtain rfl | rfl := hc
  · exact hfirst.ne_of_toNat (.inl rfl) rfl
  · exact hfirst.ne_of_toNat (.inr (.inl rfl)) rfl

/-- What a sign makes of a number. -/
lemma map_magnitude?_eq_some_iff {sign : Int → Int} {found : Int} :
    (magnitude? text >>= fun size => pure (size : Int)).map sign = some found ↔
      ∃ base digits, Unsigned text base digits ∧
        (base = 10 → digits.length ≤ Text.maxDigits) ∧ sign (number base digits) = found := by
  simp only [Option.map_eq_some_iff, Option.bind_eq_bind, Option.bind_eq_some_iff,
    magnitude?_eq_some_iff]
  constructor
  · rintro ⟨_, ⟨_, ⟨base, digits, h, hshort, rfl⟩, hsize⟩, rfl⟩
    cases hsize
    exact ⟨base, digits, h, hshort, rfl⟩
  · rintro ⟨base, digits, h, hshort, rfl⟩
    exact ⟨_, ⟨_, ⟨base, digits, h, hshort, rfl⟩, rfl⟩, rfl⟩

lemma read?_eq_some_iff_signed {found : Int} :
    read? text = some found ↔ ∃ numeral, Signed (Text.trimOf isSpace text) numeral ∧
      numeral.IsShort ∧ numeral.value = found := by
  unfold read?
  generalize Text.trimOf isSpace text = body
  split
  · rw [map_magnitude?_eq_some_iff]
    constructor
    · rintro ⟨base, digits, h, hshort, rfl⟩
      exact ⟨⟨true, base, digits⟩, .minus h, hshort, rfl⟩
    · rintro ⟨numeral, h, hshort, rfl⟩
      cases h with
      | bare h => exact absurd h (not_unsigned_sign (.inr rfl))
      | minus h => exact ⟨_, _, h, hshort, rfl⟩
  · rw [map_magnitude?_eq_some_iff]
    constructor
    · rintro ⟨base, digits, h, hshort, rfl⟩
      exact ⟨⟨false, base, digits⟩, .plus h, hshort, rfl⟩
    · rintro ⟨numeral, h, hshort, rfl⟩
      cases h with
      | bare h => exact absurd h (not_unsigned_sign (.inl rfl))
      | plus h => exact ⟨_, _, h, hshort, rfl⟩
  · rename_i hminus hplus
    rw [map_magnitude?_eq_some_iff]
    constructor
    · rintro ⟨base, digits, h, hshort, rfl⟩
      exact ⟨⟨false, base, digits⟩, .bare h, hshort, rfl⟩
    · rintro ⟨numeral, h, hshort, rfl⟩
      cases h with
      | bare h => exact ⟨_, _, h, hshort, rfl⟩
      | plus => exact absurd rfl (hplus _)
      | minus => exact absurd rfl (hminus _)

/-- A literal holds no white space, so that nothing but what stands around it is cut off. -/
lemma writes_iff : Writes text numeral ↔ Signed (Text.trimOf isSpace text) numeral := by
  constructor
  · rintro ⟨front, body, back, rfl, hfront, hback, h⟩
    rwa [Text.trimOf_between hfront hback h.isSpace_eq_false]
  · intro h
    obtain ⟨front, back, htext, hfront, hback⟩ := Text.exists_trimOf isSpace text
    exact ⟨front, _, back, htext, hfront, hback, h⟩

/-- A text is read exactly when it is a way to write a numeral that is not too long, and it is read
as the value of the numeral. -/
theorem read?_eq_some_iff {found : Int} :
    read? text = some found ↔
      ∃ numeral, Writes text numeral ∧ numeral.IsShort ∧ numeral.value = found := by
  simp only [read?_eq_some_iff_signed, writes_iff]

end TintedText.IntegerLiteral
