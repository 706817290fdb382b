import TintedText.Proofs.Cutting

/-!
# Where reading stops

What looks like an empty bracket may stand in an escape or in another bracket, and there it does no
harm. The reader fails at an opening mark only if all that stands in front of it can be read alone:
then it is where a segment begins, and an empty bracket or one without an end cannot be read. There
is at most one such place, and without one the text is read to its end (`tokenize_stops`).
-/
namespace TintedText

/-- Behind a text that can be read, a bracket opens at the position and is closed at once. -/
def EmptyAt (l r : Char) (text : List Char) (opened : Nat) : Prop :=
  l ≠ r ∧ text[opened]? = some l ∧ text[opened + 1]? = some r ∧
    ∃ segments, tokenize (.ofChars l r) (text.take opened) = .ok segments

/-- Behind a text that can be read, a bracket opens at the position and is not closed. -/
def UnclosedAt (l r : Char) (text : List Char) (opened : Nat) : Prop :=
  text[opened]? = some l ∧ text[opened + 1]? ≠ some l ∧ r ∉ text.drop (opened + 1) ∧
    ∃ segments, tokenize (.ofChars l r) (text.take opened) = .ok segments

lemma Stuck.position_eq {marks : Delimiters} {start : Nat} {text : List Char} {error : PatternError}
    (h : Stuck marks start text error) : error.position = some start := by
  cases h with
  | emptyBracket | unterminated => rfl

section stuck

variable {l r : Char} {start opened : Nat} {text left right : List Char}

lemma stuck_emptyBracket_iff :
    Stuck (.ofChars l r) start text (.emptyBracket left right opened) ↔
      (opened = start ∧ left = [l] ∧ right = [r]) ∧
        l ≠ r ∧ text[0]? = some l ∧ text[1]? = some r := by
  constructor
  · intro h
    cases h with
    | @emptyBracket mark close tail opens single closes =>
      obtain rfl : l = mark := by simpa using opens
      obtain rfl : r = close := by simpa using closes
      exact ⟨⟨rfl, rfl, rfl⟩, by simpa using single, by simp, by simp⟩
  · rintro ⟨⟨rfl, rfl, rfl⟩, hne, hl, hr⟩
    match text with
    | mark :: close :: tail =>
      obtain rfl : mark = l := by simpa using hl
      obtain rfl : close = r := by simpa using hr
      exact .emptyBracket (by simp) (by simpa using hne) (by simp)

lemma stuck_unterminated_iff :
    Stuck (.ofChars l r) start text (.unterminated right opened) ↔
      (opened = start ∧ right = [r]) ∧
        text[0]? = some l ∧ text[1]? ≠ some l ∧ r ∉ text.drop 1 := by
  constructor
  · intro h
    cases h with
    | @unterminated mark tail opens single inside =>
      obtain rfl : l = mark := by simpa using opens
      refine ⟨⟨rfl, rfl⟩, by simp, ?_, Delimiters.forall_closes_iff.mp inside⟩
      rw [List.getElem?_cons_succ, ← List.head?_eq_getElem?]
      exact Delimiters.head_opens_iff.mp single
  · rintro ⟨⟨rfl, rfl⟩, hl, hsingle, hinside⟩
    match text with
    | mark :: tail =>
      obtain rfl : mark = l := by simpa using hl
      rw [List.getElem?_cons_succ, ← List.head?_eq_getElem?] at hsingle
      exact .unterminated (by simp) (Delimiters.head_opens_iff.mpr hsingle)
        (Delimiters.forall_closes_iff.mpr hinside)

end stuck

section tokenize

variable {l r : Char} {text left right : List Char} {opened : Nat}

/-- The reader finds an empty bracket exactly where one opens behind a text that can be read. -/
theorem tokenize_eq_emptyBracket_iff :
    tokenize (.ofChars l r) text = .error (.emptyBracket left right opened) ↔
      (left = [l] ∧ right = [r]) ∧ EmptyAt l r text opened := by
  rw [tokenize_eq_error_iff]
  simp only [stuck_emptyBracket_iff, List.getElem?_drop, Nat.add_zero]
  constructor
  · rintro ⟨start, hread, ⟨rfl, hmarks⟩, hne, hl, hr⟩
    exact ⟨hmarks, hne, hl, hr, hread⟩
  · rintro ⟨hmarks, hne, hl, hr, hread⟩
    exact ⟨opened, hread, ⟨rfl, hmarks⟩, hne, hl, hr⟩

/-- It misses a closing mark exactly where a bracket opens behind such a text and is not closed. -/
theorem tokenize_eq_unterminated_iff :
    tokenize (.ofChars l r) text = .error (.unterminated right opened) ↔
      right = [r] ∧ UnclosedAt l r text opened := by
  rw [tokenize_eq_error_iff]
  simp only [stuck_unterminated_iff, List.getElem?_drop, List.drop_drop, Nat.add_zero]
  constructor
  · rintro ⟨start, hread, ⟨rfl, hright⟩, hl, hsingle, hinside⟩
    exact ⟨hright, hl, hsingle, hinside, hread⟩
  · rintro ⟨hright, hl, hsingle, hinside, hread⟩
    exact ⟨opened, hread, ⟨rfl, hright⟩, hl, hsingle, hinside⟩

lemma exists_position {marks : Delimiters} {error : PatternError}
    (h : tokenize marks text = .error error) : ∃ opened, error.position = some opened := by
  obtain ⟨opened, -, hstuck⟩ := tokenize_eq_error_iff.mp h
  exact ⟨opened, hstuck.position_eq⟩

/-- The places of the text at which it cannot be read on are those that errors point at. -/
theorem emptyAt_or_unclosedAt_iff :
    EmptyAt l r text opened ∨ UnclosedAt l r text opened ↔
      ∃ error, tokenize (.ofChars l r) text = .error error ∧ error.position = some opened := by
  constructor
  · rintro (hempty | hunclosed)
    · exact ⟨_, tokenize_eq_emptyBracket_iff.mpr ⟨⟨rfl, rfl⟩, hempty⟩, rfl⟩
    · exact ⟨_, tokenize_eq_unterminated_iff.mpr ⟨rfl, hunclosed⟩, rfl⟩
  · rintro ⟨error, hread, hposition⟩
    cases error with
    | unbalanced pattern => cases hposition
    | emptyBracket left right start =>
      obtain rfl : start = opened := Option.some.inj hposition
      exact .inl (tokenize_eq_emptyBracket_iff.mp hread).2
    | unterminated right start =>
      obtain rfl : start = opened := Option.some.inj hposition
      exact .inr (tokenize_eq_unterminated_iff.mp hread).2

end tokenize

/-- The reader fails for an empty bracket or for a missing closing mark, and each of them exactly
where the text says so; there is at most one such place, and without one the text can be read. -/
theorem tokenize_stops (l r : Char) (text : List Char) :
    (∀ left right opened,
      tokenize (.ofChars l r) text = .error (.emptyBracket left right opened) ↔
        (left = [l] ∧ right = [r]) ∧ EmptyAt l r text opened) ∧
    (∀ right opened,
      tokenize (.ofChars l r) text = .error (.unterminated right opened) ↔
        right = [r] ∧ UnclosedAt l r text opened) ∧
    ((∃ segments, tokenize (.ofChars l r) text = .ok segments) ↔
      ∀ opened, ¬ EmptyAt l r text opened ∧ ¬ UnclosedAt l r text opened) ∧
    ∀ first second, EmptyAt l r text first ∨ UnclosedAt l r text first →
      EmptyAt l r text second ∨ UnclosedAt l r text second → first = second := by
  refine ⟨fun _ _ _ => tokenize_eq_emptyBracket_iff,
    fun _ _ => tokenize_eq_unterminated_iff, ?_, ?_⟩
  · simp only [← not_or, emptyAt_or_unclosedAt_iff]
    constructor
    · rintro ⟨segments, hread⟩ opened ⟨error, hfail, -⟩
      cases hread.symm.trans hfail
    · intro hnone
      cases hread : tokenize (.ofChars l r) text with
      | ok segments => exact ⟨segments, rfl⟩
      | error error =>
        obtain ⟨opened, hposition⟩ := exists_position hread
        exact absurd ⟨error, hread, hposition⟩ (hnone opened)
  · intro first second hfirst hsecond
    obtain ⟨error, hread, hposition⟩ := emptyAt_or_unclosedAt_iff.mp hfirst
    obtain ⟨other, hread', hposition'⟩ := emptyAt_or_unclosedAt_iff.mp hsecond
    obtain rfl : error = other := Except.error.inj (hread.symm.trans hread')
    exact Option.some.inj (hposition.symm.trans hposition')

/-- The second mark of an escape and a mark in a bracket, each with a closing one behind it, open no
empty bracket; the third such pair does. -/
theorem tokenize_stops_third_pair :
    tokenize (.ofChars '<' '>') ['<', '<', '>', '<', 'a', '<', '>', '<', '>'] =
        .error (.emptyBracket ['<'] ['>'] 7) ∧
      EmptyAt '<' '>' ['<', '<', '>', '<', 'a', '<', '>', '<', '>'] 7 ∧
      ¬ EmptyAt '<' '>' ['<', '<', '>', '<', 'a', '<', '>', '<', '>'] 1 ∧
      ¬ EmptyAt '<' '>' ['<', '<', '>', '<', 'a', '<', '>', '<', '>'] 5 := by
  have hread : tokenize (.ofChars '<' '>') ['<', '<', '>', '<', 'a', '<', '>', '<', '>'] =
      .error (.emptyBracket ['<'] ['>'] 7) := by
    cbv
  obtain ⟨hempty, -, -, hunique⟩ :=
    tokenize_stops '<' '>' ['<', '<', '>', '<', 'a', '<', '>', '<', '>']
  have hthird := ((hempty _ _ _).mp hread).2
  refine ⟨hread, hthird, fun hfirst => ?_, fun hsecond => ?_⟩
  · have := hunique _ _ (.inl hfirst) (.inl hthird)
    omega
  · have := hunique _ _ (.inl hsecond) (.inl hthird)
    omega

end TintedText
