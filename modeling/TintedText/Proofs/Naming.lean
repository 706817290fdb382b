import TintedText.ColorArgument
import TintedText.Proofs.Numerals

/-!
# Colours by name and by number

A text is read as a colour argument when it names a colour or is a literal of an integer. It cannot
be both: a literal begins with a sign or a decimal digit, which no capitals are made of. Every other
text is refused, and so is a decimal literal that is too long (`read_notations`).
-/
namespace TintedText

namespace Text

/-- The capitals of a character that has none are the character. -/
lemma capital_eq_self {c : Char} (hsmall : c.toNat < 0x61 ∨ 0x7A < c.toNat)
    (hspecial : c.toNat ∉ [0x131, 0x17F, 0xDF, 0xFB00, 0xFB01, 0xFB02, 0xFB03, 0xFB04, 0xFB05,
      0xFB06]) : capital c = [c] := by
  have hletter : ¬ ('a' ≤ c ∧ c ≤ 'z') := by
    change ¬ (0x61 ≤ c.toNat ∧ c.toNat ≤ 0x7A)
    omega
  unfold capital
  rw [if_neg hletter]
  split
  all_goals first | rfl | exact absurd (by decide) hspecial

end Text

namespace ColorArgument

/-- The text is the name of the colour in letters of either case. -/
def Names (text : List Char) (color : Argb) : Prop :=
  ∃ name, (name, color) ∈ Argb.named ∧ Text.capitals text = name.toList

variable {text : List Char} {color : Argb}

lemma lookup_named : ∀ entry ∈ Argb.named, Argb.named.lookup entry.1 = some entry.2 := by
  decide

lemma named?_eq_some_iff : named? text = some color ↔ Names text color := by
  constructor
  · intro h
    obtain ⟨front, back, hsplit, -⟩ := List.lookup_eq_some_iff.mp h
    refine ⟨String.ofList (Text.capitals text), ?_, String.toList_ofList.symm⟩
    rw [hsplit]
    simp
  · rintro ⟨name, hname, hcapitals⟩
    rw [named?, hcapitals, String.ofList_toList]
    exact lookup_named _ hname

/-- Names are made of capital letters. -/
lemma isUpper_of_mem_named : ∀ entry ∈ Argb.named, ∀ c ∈ entry.1.toList,
    0x41 ≤ c.toNat ∧ c.toNat ≤ 0x5A := by
  have hupper : (Argb.named.all fun entry => entry.1.toList.all fun c =>
      0x41 ≤ c.toNat && c.toNat ≤ 0x5A) = true := by
    decide
  intro entry hentry
  simpa using List.all_eq_true.mp hupper entry hentry

lemma decimal_toNat_cases {c : Char} {value : Nat} (h : IntegerLiteral.IsDigit c value)
    (hvalue : value < 10) :
    (0x30 ≤ c.toNat ∧ c.toNat ≤ 0x39) ∨ (0x660 ≤ c.toNat ∧ c.toNat < 0xFB00) ∨
      0xFB06 < c.toNat := by
  have hgap : ∀ first ∈ Text.zeroCodes, first = 0x30 ∨
      (0x660 ≤ first ∧ first + 10 ≤ 0xFB00) ∨ 0xFB06 < first := by
    decide
  cases h with
  | decimal hfirst hlt hc =>
    have := hgap _ hfirst
    omega
  | letter => omega

/-- What a literal begins with is its own capital, and no letter. -/
lemma capital_of_starts {c : Char}
    (h : c = '+' ∨ c = '-' ∨ ∃ value < 10, IntegerLiteral.IsDigit c value) :
    Text.capital c = [c] ∧ ¬ (0x41 ≤ c.toNat ∧ c.toNat ≤ 0x5A) := by
  obtain rfl | rfl | ⟨value, hvalue, hdigit⟩ := h
  · decide
  · decide
  · have hcode := decimal_toNat_cases hdigit hvalue
    refine ⟨Text.capital_eq_self (by omega) ?_, by omega⟩
    simp only [List.mem_cons, List.not_mem_nil, or_false]
    omega

/-- No literal is a name. -/
theorem not_names_of_writes {numeral : IntegerLiteral.Numeral}
    (h : IntegerLiteral.Writes text numeral) : ¬ Names text color := by
  rintro ⟨name, hname, hcapitals⟩
  obtain ⟨front, body, back, rfl, -, -, hsigned⟩ := h
  obtain ⟨c, rest, rfl, hstarts⟩ := hsigned.exists_head
  obtain ⟨hcapital, hletter⟩ := capital_of_starts hstarts
  have hmem : c ∈ Text.capitals (front ++ c :: rest ++ back) :=
    List.mem_flatMap.mpr ⟨c, by simp, by simp [hcapital]⟩
  rw [hcapitals] at hmem
  exact hletter (isUpper_of_mem_named _ hname c hmem)

lemma read_of_names (h : Names text color) : read text = .ok color.toInt := by
  rw [read, named?_eq_some_iff.mpr h]

lemma read_of_not_names (h : ∀ color, ¬ Names text color) :
    read text = (IntegerLiteral.read? text).elim (.error ⟨text⟩) .ok := by
  have hnamed : named? text = none :=
    Option.eq_none_iff_forall_ne_some.mpr fun color hcolor =>
      h color (named?_eq_some_iff.mp hcolor)
  rw [read, hnamed]
  cases IntegerLiteral.read? text with
  | some value => rfl
  | none => rfl

/-- A literal is read as the integer that it stands for, whatever way it is written, and a name as
its colour; no text is both. All other texts are refused, and of the literals only the decimal ones
that are too long. -/
theorem read_notations (text : List Char) :
    (∀ numeral : IntegerLiteral.Numeral, IntegerLiteral.Writes text numeral → numeral.IsShort →
      read text = .ok numeral.value) ∧
    (∀ name color, (name, color) ∈ Argb.named → Text.capitals text = name.toList →
      read text = .ok color.toInt) ∧
    (∀ numeral color, IntegerLiteral.Writes text numeral → ¬ Names text color) ∧
    ∀ error, read text = .error error ↔ error = ⟨text⟩ ∧ (∀ color, ¬ Names text color) ∧
      ∀ numeral : IntegerLiteral.Numeral, IntegerLiteral.Writes text numeral →
        ¬ numeral.IsShort := by
  refine ⟨fun numeral hwrites hshort => ?_, fun name color hname hcapitals => ?_,
    fun numeral color => not_names_of_writes, fun error => ?_⟩
  · rw [read_of_not_names fun color => not_names_of_writes hwrites,
      IntegerLiteral.read?_eq_some_iff.mpr ⟨numeral, hwrites, hshort, rfl⟩, Option.elim_some]
  · exact read_of_names ⟨name, hname, hcapitals⟩
  · by_cases hnames : ∃ color, Names text color
    · obtain ⟨color, hcolor⟩ := hnames
      rw [read_of_names hcolor]
      exact iff_of_false (by simp) fun h => h.2.1 color hcolor
    · rw [not_exists] at hnames
      rw [read_of_not_names hnames]
      cases hread : IntegerLiteral.read? text with
      | some value =>
        obtain ⟨numeral, hwrites, hshort, -⟩ := IntegerLiteral.read?_eq_some_iff.mp hread
        exact iff_of_false (by simp) fun h => h.2.2 numeral hwrites hshort
      | none =>
        have hlong : ∀ numeral : IntegerLiteral.Numeral, IntegerLiteral.Writes text numeral →
            ¬ numeral.IsShort := by
          intro numeral hwrites hshort
          have := IntegerLiteral.read?_eq_some_iff.mpr ⟨numeral, hwrites, hshort, rfl⟩
          rw [hread] at this
          cases this
        simp only [Option.elim_none, Except.error.injEq]
        exact ⟨fun h => ⟨h.symm, hnames, hlong⟩, fun h => h.1.symm⟩

/-- A negative literal in base sixteen with an underscore and letters of both cases, digits of
another script, and a name with a dotless letter; a decimal literal that begins with zero. -/
theorem read_notations_signed :
    IntegerLiteral.Writes [' ', '-', '0', 'X', '_', 'f', 'F', '\n'] ⟨true, 16, [15, 15]⟩ ∧
    read [' ', '-', '0', 'X', '_', 'f', 'F', '\n'] = .ok (-255) ∧
    IntegerLiteral.Writes ['+', '\u0661', '_', '2'] ⟨false, 10, [1, 2]⟩ ∧
    read ['+', '\u0661', '_', '2'] = .ok 12 ∧
    Text.capitals ['p', '\u0131', 'n', 'K'] = "PINK".toList ∧
    read ['p', '\u0131', 'n', 'K'] = .ok 0xFFFF87D7 ∧
    read ['0', '8'] = .error ⟨['0', '8']⟩ ∧
    ∀ numeral : IntegerLiteral.Numeral, IntegerLiteral.Writes ['0', '8'] numeral →
      ¬ numeral.IsShort := by
  have hf : IntegerLiteral.IsDigit 'f' 15 := .letter (by decide : 5 < 26) (.inl rfl)
  have hF : IntegerLiteral.IsDigit 'F' 15 := .letter (by decide : 5 < 26) (.inr rfl)
  have hzero : IntegerLiteral.IsDigit '0' 0 :=
    .decimal (by decide : 0x30 ∈ Text.zeroCodes) (by decide) rfl
  have hone : IntegerLiteral.IsDigit '\u0661' 1 :=
    .decimal (by decide : 0x660 ∈ Text.zeroCodes) (by decide) rfl
  have htwo : IntegerLiteral.IsDigit '2' 2 :=
    .decimal (by decide : 0x30 ∈ Text.zeroCodes) (by decide) rfl
  have hhex : IntegerLiteral.Writes [' ', '-', '0', 'X', '_', 'f', 'F', '\n']
      ⟨true, 16, [15, 15]⟩ := by
    refine ⟨[' '], ['-', '0', 'X', '_', 'f', 'F'], ['\n'], rfl,
      List.forall_mem_singleton.mpr rfl, List.forall_mem_singleton.mpr rfl, ?_⟩
    exact .minus (.based hzero (by decide)
      (.underscore hf (by decide) (.digit hF (by decide) .nil)) (by decide))
  have hdecimal : IntegerLiteral.Writes ['+', '\u0661', '_', '2'] ⟨false, 10, [1, 2]⟩ := by
    refine ⟨[], ['+', '\u0661', '_', '2'], [], rfl, List.forall_mem_nil _,
      List.forall_mem_nil _, ?_⟩
    exact .plus (.decimal ⟨.digit hone (by decide) (.underscore htwo (by decide) .nil),
      by decide, by decide, by decide⟩)
  have hpink : Text.capitals ['p', '\u0131', 'n', 'K'] = "PINK".toList := by decide
  have hrefused : read ['0', '8'] = .error ⟨['0', '8']⟩ := by decide
  refine ⟨hhex, ?_, hdecimal, ?_, hpink, ?_, hrefused, ?_⟩
  · exact (read_notations _).1 _ hhex fun h => absurd h (by decide)
  · exact (read_notations _).1 _ hdecimal fun _ => by decide
  · exact (read_notations _).2.1 "PINK" .pink (by decide) hpink
  · exact (((read_notations _).2.2.2 _).mp hrefused).2.2

end ColorArgument
end TintedText
