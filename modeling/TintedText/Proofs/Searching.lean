import TintedText.Proofs.Inking

/-!
# Searching a colour

The search for the colour at a position gives up at the first range that starts behind it. Nothing
is lost by that when the starts are in order: no later range holds the position either, whether the
ranges overlap or not, so that the first range that holds it is found wherever it stands
(`searchColor_eq_find?`). All positions outside the text are refused (`colorAt_first`).
-/
namespace TintedText.StyledText

/-- No range starts before the one in front of it. -/
def StartsInOrder (ranges : List ColorRange) : Prop :=
  ranges.Pairwise fun range next => range.start ≤ next.start

variable {ranges : List ColorRange} {position : Int}

/-- The search finds the first range that holds the position. -/
theorem searchColor_eq_find? (h : StartsInOrder ranges) :
    searchColor position ranges =
      (ranges.find? (·.contains position)).map (·.color) := by
  induction ranges with
  | nil => rfl
  | cons range rest ih =>
    obtain ⟨hlater, hrest⟩ := List.pairwise_cons.mp h
    rw [searchColor, List.find?_cons]
    cases hcontains : range.contains position with
    | true => rfl
    | false =>
      rw [if_neg Bool.false_ne_true]
      by_cases hlt : position < range.start
      · -- here the search gives up, and all later ranges start behind the position too
        have hnone : rest.find? (·.contains position) = none := by
          refine List.find?_eq_none.mpr fun next hnext => ?_
          rw [ColorRange.contains_eq_false_of_lt (hlt.trans_le (hlater next hnext))]
          exact Bool.false_ne_true
        rw [if_pos hlt, hnone]
        rfl
      · rw [if_neg hlt, ih hrest]

/-- The order matters: behind a range that starts too late the search does not look. -/
example : searchColor 0 [⟨1, 2, 7⟩, ⟨0, 1, 8⟩] = none ∧
    ([⟨1, 2, 7⟩, ⟨0, 1, 8⟩] : List ColorRange).find? (·.contains 0) = some ⟨0, 1, 8⟩ := by
  decide

lemma colorAt_eq_error_iff {styled : StyledText} {error : Int} :
    styled.colorAt position = .error error ↔
      error = position ∧ (position < 0 ∨ styled.text.length ≤ position) := by
  unfold colorAt
  split_ifs with h
  · simp only [false_iff]
    omega
  · rw [Except.error.injEq, eq_comm]
    exact (and_iff_left (by omega)).symm

lemma startsInOrder_of_format {phrase : Phrase} {styled : StyledText}
    (h : phrase.format = .ok styled) : StartsInOrder styled.ranges :=
  (Phrase.format_inOrder h).ordered.imp fun hlt => hlt.le

/-- When the starts of the ranges are in order, a position is refused exactly when the text has no
such one; at all others the colour is that of the first range that holds the position, and there is
none exactly when no range holds it. -/
theorem colorAt_first {styled : StyledText} (h : StartsInOrder styled.ranges) (position : Int) :
    (∀ error, styled.colorAt position = .error error ↔
      error = position ∧ (position < 0 ∨ styled.text.length ≤ position)) ∧
    (0 ≤ position → position < styled.text.length →
      styled.colorAt position =
        .ok ((styled.ranges.find? (·.contains position)).map (·.color)) ∧
      (styled.colorAt position = .ok none ↔
        ∀ range ∈ styled.ranges, ¬ (range.start ≤ position ∧ position < range.stop))) := by
  refine ⟨fun error => colorAt_eq_error_iff, fun hstart hstop => ?_⟩
  have hcolor : styled.colorAt position =
      .ok ((styled.ranges.find? (·.contains position)).map (·.color)) := by
    rw [colorAt, if_pos ⟨hstart, hstop⟩, searchColor_eq_find? h]
  refine ⟨hcolor, ?_⟩
  rw [hcolor, Except.ok.injEq, Option.map_eq_none_iff, List.find?_eq_none]
  simp only [ColorRange.contains_eq_true_iff]

/-- Ranges put together by hand that overlap, start together and reach over the end of the text; and
those of a formatted pattern, where no range holds the literal mark. -/
theorem colorAt_first_overlap :
    let styled : StyledText := ⟨['a', 'b', 'c', 'd'], [⟨1, 2, 7⟩, ⟨1, 3, 8⟩, ⟨2, 9, 9⟩], []⟩
    StartsInOrder styled.ranges ∧ styled.colorAt 0 = .ok none ∧
    styled.colorAt 1 = .ok (some 7) ∧ styled.colorAt 2 = .ok (some 8) ∧
    styled.colorAt 3 = .ok (some 9) ∧ styled.colorAt 4 = .error 4 ∧
    styled.colorAt (-1) = .error (-1) ∧
    ∃ escaped, Phrase.format ⟨.ofText ['a', '/', '/', '/', 'b', '/'],
        { separator := .single '/' }⟩ = .ok escaped ∧
      escaped.colorAt 1 = .ok none ∧ escaped.colorAt 2 = .ok (some 0xFFE6454A) := by
  intro styled
  have h : StartsInOrder styled.ranges := by
    unfold StartsInOrder
    decide
  have hformat : Phrase.format ⟨.ofText ['a', '/', '/', '/', 'b', '/'],
      { separator := .single '/' }⟩ =
        .ok ⟨['a', '/', 'b'], [⟨0, 1, 0xFF666666⟩, ⟨2, 3, 0xFFE6454A⟩], []⟩ := by
    cbv
  have h' := startsInOrder_of_format hformat
  refine ⟨h, ?_, ?_, ?_, ?_, ?_, ?_, _, hformat, ?_, ?_⟩
  · exact ((colorAt_first h 0).2 (by decide) (by decide)).1
  · exact ((colorAt_first h 1).2 (by decide) (by decide)).1
  · exact ((colorAt_first h 2).2 (by decide) (by decide)).1
  · exact ((colorAt_first h 3).2 (by decide) (by decide)).1
  · exact ((colorAt_first h 4).1 4).mpr ⟨rfl, .inr (by decide)⟩
  · exact ((colorAt_first h (-1)).1 (-1)).mpr ⟨rfl, .inl (by decide)⟩
  · exact ((colorAt_first h' 1).2 (by decide) (by decide)).1
  · exact ((colorAt_first h' 2).2 (by decide) (by decide)).1

end TintedText.StyledText
