import TintedText.Phrase
import TintedText.Proofs.Nesting
import TintedText.Proofs.Output
import TintedText.Proofs.Stopping

/-!
# How formatting ends

A phrase is refused when its marks do not balance, and else when an empty bracket opens where a
segment begins; in all other cases it is formatted (`format_outcome`). The other errors of the
reader and of the renderer are out of reach: balance excludes a bracket without end, and segments
that were cut from a text cover it and can be drawn.
-/
namespace TintedText.Phrase

variable {phrase : Phrase} {segments : List Segment}

/-- What the segments of the phrase make of its pattern. -/
def rendered (phrase : Phrase) (segments : List Segment) : StyledText where
  text := outputs phrase.pattern.text segments
  ranges := ranges phrase.config 0 segments
  spans := Span.carry (afterDropping (dropped 0 segments)) phrase.pattern.spans

/-- A bracket with nothing in it opens at the position, and what stands before can be read. -/
def EmptyBracketAt (phrase : Phrase) (position : Nat) : Prop :=
  phrase.config.separator.left ≠ phrase.config.separator.right ∧
    phrase.pattern.text[position]? = some phrase.config.separator.left ∧
    phrase.pattern.text[position + 1]? = some phrase.config.separator.right ∧
    ∃ segments,
      tokenize phrase.config.delimiters (phrase.pattern.text.take position) = .ok segments

/-- A pattern that does not balance is reported as refused. -/
lemma build_unbalanced (h : isBalanced phrase.config.delimiters phrase.pattern.text = false) :
    phrase.build = ⟨.error (.pattern (.unbalanced phrase.pattern.text)),
      [phrase.refusal (.unbalanced phrase.pattern.text)]⟩ := by
  have hsegments : phrase.segments = .error (.unbalanced phrase.pattern.text) := by
    simp [Phrase.segments, validate, h, bind, Except.bind]
  simp [build, hsegments]

lemma segments_balanced (h : isBalanced phrase.config.delimiters phrase.pattern.text = true) :
    phrase.segments = tokenize phrase.config.delimiters phrase.pattern.text := by
  simp [Phrase.segments, validate, h, bind, Except.bind]

lemma build_refused {error : PatternError}
    (h : isBalanced phrase.config.delimiters phrase.pattern.text = true)
    (hread : tokenize phrase.config.delimiters phrase.pattern.text = .error error) :
    phrase.build = ⟨.error (.pattern error), [phrase.refusal error]⟩ := by
  simp [build, segments_balanced h, hread]

lemma build_accepted (h : isBalanced phrase.config.delimiters phrase.pattern.text = true)
    (hread : tokenize phrase.config.delimiters phrase.pattern.text = .ok segments) :
    phrase.build = ⟨.ok (phrase.rendered segments),
      [phrase.success segments (phrase.rendered segments)]⟩ := by
  have hcuts := tokenizeFrom_eq_ok_iff.mp hread
  have hrender := render_eq_ok phrase.config hcuts.isDrawable hcuts.covered_eq
    phrase.pattern.spans
  simp only [build, segments_balanced h, hread, hrender]
  rfl

/-- Formatting makes one report, however it ends. -/
theorem exists_report (phrase : Phrase) :
    ∃ report, phrase.build = ⟨phrase.format, [report]⟩ := by
  cases hbalance : isBalanced phrase.config.delimiters phrase.pattern.text with
  | false => exact ⟨_, by rw [format, build_unbalanced hbalance]⟩
  | true =>
    cases hread : tokenize phrase.config.delimiters phrase.pattern.text with
    | error error => exact ⟨_, by rw [format, build_refused hbalance hread]⟩
    | ok segments => exact ⟨_, by rw [format, build_accepted hbalance hread]⟩

/-- And what it reports is of no matter to the user. -/
lemma level_of_mem_reports {report : Log.Report} (h : report ∈ phrase.build.reports) :
    report.level = .debug := by
  unfold build at h
  split at h
  · obtain rfl := List.mem_singleton.mp h
    rfl
  · split at h
    · cases h
    · obtain rfl := List.mem_singleton.mp h
      rfl

lemma format_unbalanced (h : isBalanced phrase.config.delimiters phrase.pattern.text = false) :
    phrase.format = .error (.pattern (.unbalanced phrase.pattern.text)) :=
  congrArg Formatting.outcome (build_unbalanced h)

lemma format_refused {error : PatternError}
    (h : isBalanced phrase.config.delimiters phrase.pattern.text = true)
    (hread : tokenize phrase.config.delimiters phrase.pattern.text = .error error) :
    phrase.format = .error (.pattern error) :=
  congrArg Formatting.outcome (build_refused h hread)

lemma format_accepted (h : isBalanced phrase.config.delimiters phrase.pattern.text = true)
    (hread : tokenize phrase.config.delimiters phrase.pattern.text = .ok segments) :
    phrase.format = .ok (phrase.rendered segments) :=
  congrArg Formatting.outcome (build_accepted h hread)

theorem format_eq_ok_iff {styled : StyledText} :
    phrase.format = .ok styled ↔
      isBalanced phrase.config.delimiters phrase.pattern.text = true ∧
        ∃ segments, tokenize phrase.config.delimiters phrase.pattern.text = .ok segments ∧
          phrase.rendered segments = styled := by
  constructor
  · intro h
    cases hbalance : isBalanced phrase.config.delimiters phrase.pattern.text with
    | false =>
      rw [format_unbalanced hbalance] at h
      cases h
    | true =>
      cases hread : tokenize phrase.config.delimiters phrase.pattern.text with
      | error error =>
        rw [format_refused hbalance hread] at h
        cases h
      | ok segments =>
        rw [format_accepted hbalance hread] at h
        exact ⟨rfl, segments, rfl, Except.ok.inj h⟩
  · rintro ⟨hbalance, segments, hread, rfl⟩
    exact format_accepted hbalance hread

lemma exists_pattern_error {error : FormatError} (h : phrase.format = .error error) :
    ∃ cause, error = .pattern cause := by
  cases hbalance : isBalanced phrase.config.delimiters phrase.pattern.text with
  | false =>
    rw [format_unbalanced hbalance] at h
    exact ⟨_, (Except.error.inj h).symm⟩
  | true =>
    cases hread : tokenize phrase.config.delimiters phrase.pattern.text with
    | ok segments =>
      rw [format_accepted hbalance hread] at h
      cases h
    | error cause =>
      rw [format_refused hbalance hread] at h
      exact ⟨_, (Except.error.inj h).symm⟩

lemma eq_emptyBracket {error : PatternError}
    (h : isBalanced phrase.config.delimiters phrase.pattern.text = true)
    (hread : tokenize phrase.config.delimiters phrase.pattern.text = .error error) :
    ∃ position, error =
      .emptyBracket [phrase.config.separator.left] [phrase.config.separator.right] position :=
  eq_emptyBracket_of_isBalanced h hread

theorem format_eq_unbalanced_iff {text : List Char} :
    phrase.format = .error (.pattern (.unbalanced text)) ↔
      isBalanced phrase.config.delimiters phrase.pattern.text = false ∧
        phrase.pattern.text = text := by
  cases hbalance : isBalanced phrase.config.delimiters phrase.pattern.text with
  | false => simp [format_unbalanced hbalance]
  | true =>
    cases hread : tokenize phrase.config.delimiters phrase.pattern.text with
    | ok segments => simp [format_accepted hbalance hread]
    | error error =>
      obtain ⟨opened, rfl⟩ := eq_emptyBracket hbalance hread
      simp [format_refused hbalance hread]

theorem format_eq_emptyBracket_iff {left right : List Char} {opened : Nat} :
    phrase.format = .error (.pattern (.emptyBracket left right opened)) ↔
      isBalanced phrase.config.delimiters phrase.pattern.text = true ∧
        tokenize phrase.config.delimiters phrase.pattern.text =
          .error (.emptyBracket left right opened) := by
  cases hbalance : isBalanced phrase.config.delimiters phrase.pattern.text with
  | false => simp [format_unbalanced hbalance]
  | true =>
    cases hread : tokenize phrase.config.delimiters phrase.pattern.text with
    | ok segments => simp [format_accepted hbalance hread]
    | error error => simp [format_refused hbalance hread]

lemma emptyBracketAt_iff {position : Nat} :
    phrase.EmptyBracketAt position ↔
      tokenize phrase.config.delimiters phrase.pattern.text =
        .error (.emptyBracket [phrase.config.separator.left] [phrase.config.separator.right]
          position) :=
  (tokenize_eq_emptyBracket_iff.trans (and_iff_right ⟨rfl, rfl⟩)).symm

/-- Formatting ends in exactly one of three ways: the marks do not balance; they do, and an empty
bracket is in the way; or there is a styled text. -/
theorem format_outcome (phrase : Phrase) :
    (phrase.format = .error (.pattern (.unbalanced phrase.pattern.text)) ↔
      isBalanced phrase.config.delimiters phrase.pattern.text = false) ∧
    (∀ position, phrase.format = .error (.pattern (.emptyBracket
        [phrase.config.separator.left] [phrase.config.separator.right] position)) ↔
      isBalanced phrase.config.delimiters phrase.pattern.text = true ∧
        phrase.EmptyBracketAt position) ∧
    ((∃ styled, phrase.format = .ok styled) ↔
      isBalanced phrase.config.delimiters phrase.pattern.text = true ∧
        ∀ position, ¬ phrase.EmptyBracketAt position) ∧
    (∀ error, phrase.format = .error error → ∃ cause, error = .pattern cause ∧
      (cause = .unbalanced phrase.pattern.text ∧ cause.position = none ∨
        ∃ position, cause = .emptyBracket [phrase.config.separator.left]
          [phrase.config.separator.right] position ∧ cause.position = some position)) := by
  simp only [emptyBracketAt_iff]
  cases hbalance : isBalanced phrase.config.delimiters phrase.pattern.text with
  | false => simp [format_unbalanced hbalance, PatternError.position]
  | true =>
    cases hread : tokenize phrase.config.delimiters phrase.pattern.text with
    | ok segments => simp [format_accepted hbalance hread]
    | error error =>
      obtain ⟨opened, rfl⟩ := eq_emptyBracket hbalance hread
      simp [format_refused hbalance hread, PatternError.position]

end TintedText.Phrase
