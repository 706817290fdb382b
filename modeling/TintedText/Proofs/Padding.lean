import TintedText.Proofs.Trimming

/-!
# Blank characters around a pattern

When no mark is blank, the blank characters at the ends of a pattern are ordinary text. So trimming
a pattern and formatting it can be done in either order: what is cut off stands around the output in
the outer colour, and an error is the same one, found as much earlier as characters are cut off in
front (`format_trim`).
-/
namespace TintedText

namespace Text

/-- What stands around the trimmed text is blank, since trimming cuts off nothing else. -/
lemma blank_of_trim {front text back : List Char} (h : trim (front ++ text ++ back) = text) :
    (∀ c ∈ front, isBlank c = true) ∧ ∀ c ∈ back, isBlank c = true := by
  obtain ⟨before, behind, hsplit, hbefore, hbehind⟩ := exists_trim (front ++ text ++ back)
  rw [h] at hsplit
  have hzero : ∀ blank : List Char, (∀ c ∈ blank, isBlank c = true) →
      blank.countP (!isBlank ·) = 0 := by
    intro blank hblank
    exact List.countP_eq_zero.mpr fun c hc => by simp [hblank c hc]
  -- both ways to cut the whole text have the same number of characters that are not blank
  have hcount := congrArg (List.countP (!isBlank ·)) hsplit
  simp only [List.countP_append, hzero before hbefore, hzero behind hbehind] at hcount
  have hfront : front.countP (!isBlank ·) = 0 := by omega
  have hback : back.countP (!isBlank ·) = 0 := by omega
  rw [List.countP_eq_zero] at hfront hback
  exact ⟨fun c hc => by simpa using hfront c hc, fun c hc => by simpa using hback c hc⟩

end Text

namespace StyledText

/-- The text is that of another one with plain text in front and behind; the plain text is drawn in
one colour, and all between as in the other text. -/
structure Pads (padded inner : StyledText) (front back : List Char) (color : Int) : Prop where
  text_eq : padded.text = front ++ inner.text ++ back
  colorAt_front : ∀ i < front.length, padded.colorAt i = .ok (some color)
  colorAt_inner : ∀ i < inner.text.length,
    padded.colorAt ((front.length + i : Nat) : Int) = inner.colorAt i
  colorAt_back : ∀ i < back.length,
    padded.colorAt ((front.length + inner.text.length + i : Nat) : Int) = .ok (some color)

end StyledText

namespace Phrase

variable {config : Config} {front text back : List Char}

lemma exists_format_clear (h : config.delimiters.Clear text) :
    ∃ styled, format ⟨.ofText text, config⟩ = .ok styled ∧ styled.text = text ∧
      ∀ i < text.length, styled.colorAt i = .ok (some config.outer.toInt) := by
  obtain ⟨segments, hcuts⟩ := h.exists_cuts
  have hformat : format ⟨.ofText text, config⟩ = .ok _ :=
    format_accepted (isBalanced_clear h) (tokenizeFrom_eq_ok_iff.mpr hcuts)
  have hshows := format_shows hformat
  have hpaint : transduce config .outside text = paint (some config.outer.toInt) text := by
    have hplain : transduce config .outside (text ++ []) =
        paint (some config.outer.toInt) text ++ transduce config .outside [] :=
      transduce_plain h.opens_eq
    rwa [List.append_nil, transduce, List.append_nil] at hplain
  rw [show (Pattern.ofText text).text = text from rfl, hpaint] at hshows
  refine ⟨_, hformat, ?_, fun i hi => ?_⟩
  · rw [hshows.text_eq, map_character_paint]
  · refine hshows.colorAt_eq i ⟨text[i], some config.outer.toInt⟩ ?_
    rw [paint, List.getElem?_map, List.getElem?_eq_getElem hi]
    rfl

theorem exists_format_between {inner : StyledText} (hfront : config.delimiters.Clear front)
    (hback : config.delimiters.Clear back) (h : format ⟨.ofText text, config⟩ = .ok inner) :
    ∃ padded, format ⟨.ofText (front ++ text ++ back), config⟩ = .ok padded ∧
      padded.Pads inner front back config.outer.toInt := by
  obtain ⟨first, hfirst, htext₁, hcolor₁⟩ := exists_format_clear hfront
  obtain ⟨last, hlast, htext₃, hcolor₃⟩ := exists_format_clear hback
  obtain ⟨both, hboth, htext, hbefore, hbehind⟩ := format_append_ok hfirst h
  obtain ⟨padded, hpadded, htext', hbefore', hbehind'⟩ := format_append_ok hboth hlast
  have hlength : both.text.length = front.length + inner.text.length := by
    rw [htext, htext₁, List.length_append]
  rw [htext₁] at htext hbefore hbehind
  rw [htext₃] at htext' hbehind'
  refine ⟨padded, hpadded, ?_, fun i hi => ?_, fun i hi => ?_, fun i hi => ?_⟩
  · rw [htext', htext]
  · rw [hbefore' i (by omega), hbefore i hi, hcolor₁ i hi]
  · rw [hbefore' _ (by omega), hbehind i hi]
  · rw [← hlength, hbehind' i hi, hcolor₃ i hi]

/-- Text without marks around a pattern leaves it refused, and for the same reason. An empty bracket
is found as much later as the text in front is long. -/
theorem format_between_error {error : FormatError} (hfront : config.delimiters.Clear front)
    (hback : config.delimiters.Clear back)
    (h : format ⟨.ofText text, config⟩ = .error error) :
    (error = .pattern (.unbalanced text) ∧
      format ⟨.ofText (front ++ text ++ back), config⟩ =
        .error (.pattern (.unbalanced (front ++ text ++ back)))) ∨
    ∃ opened, error = .pattern (.emptyBracket [config.separator.left] [config.separator.right]
        opened) ∧
      format ⟨.ofText (front ++ text ++ back), config⟩ =
        .error (.pattern (.emptyBracket [config.separator.left] [config.separator.right]
          (front.length + opened))) := by
  have hbetween : isBalanced config.delimiters (front ++ text ++ back) =
      isBalanced config.delimiters text := isBalanced_between hfront hback
  cases hbalance : isBalanced config.delimiters text with
  | false =>
    rw [format_unbalanced hbalance] at h
    exact .inl ⟨(Except.error.inj h).symm, format_unbalanced (hbetween.trans hbalance)⟩
  | true =>
    cases hread : tokenize config.delimiters text with
    | ok segments =>
      rw [format_accepted hbalance hread] at h
      cases h
    | error cause =>
      obtain ⟨opened, rfl⟩ := eq_emptyBracket_of_isBalanced hbalance hread
      rw [format_refused hbalance hread] at h
      exact .inr ⟨opened, (Except.error.inj h).symm,
        format_refused (hbetween.trans hbalance) (tokenize_between_error hread hfront hback)⟩

end Phrase

/-- When no mark is blank, a pattern and its trimmed form are formatted alike: both or neither can
be formatted, what is cut off stands around the output in the outer colour, and the error is of the
same kind, with an empty bracket found as much later as characters are cut off in front. -/
theorem format_trim {config : Config} (hleft : Text.isBlank config.separator.left = false)
    (hright : Text.isBlank config.separator.right = false) {front text back : List Char}
    (h : Text.trim (front ++ text ++ back) = text) :
    ((∃ inner, Phrase.format ⟨.ofText text, config⟩ = .ok inner) ↔
      ∃ padded, Phrase.format ⟨.ofText (front ++ text ++ back), config⟩ = .ok padded) ∧
    (∀ inner padded, Phrase.format ⟨.ofText text, config⟩ = .ok inner →
      Phrase.format ⟨.ofText (front ++ text ++ back), config⟩ = .ok padded →
        padded.Pads inner front back config.outer.toInt) ∧
    (∀ error, Phrase.format ⟨.ofText text, config⟩ = .error error →
      (error = .pattern (.unbalanced text) ∧
        Phrase.format ⟨.ofText (front ++ text ++ back), config⟩ =
          .error (.pattern (.unbalanced (front ++ text ++ back)))) ∨
      ∃ opened, error = .pattern (.emptyBracket [config.separator.left] [config.separator.right]
          opened) ∧
        Phrase.format ⟨.ofText (front ++ text ++ back), config⟩ =
          .error (.pattern (.emptyBracket [config.separator.left] [config.separator.right]
            (front.length + opened)))) := by
  obtain ⟨hblank, hblank'⟩ := Text.blank_of_trim h
  have hfront := Prompt.clear_of_blank hleft hright hblank
  have hback := Prompt.clear_of_blank hleft hright hblank'
  refine ⟨⟨?_, ?_⟩, ?_, fun error => Phrase.format_between_error hfront hback⟩
  · rintro ⟨inner, hinner⟩
    obtain ⟨padded, hpadded, -⟩ := Phrase.exists_format_between hfront hback hinner
    exact ⟨padded, hpadded⟩
  · rintro ⟨padded, hpadded⟩
    exact Phrase.exists_format_of_between hpadded hfront hback
  · intro inner padded hinner hpadded
    obtain ⟨styled, hstyled, hpads⟩ := Phrase.exists_format_between hfront hback hinner
    rw [hpadded] at hstyled
    rwa [Except.ok.inj hstyled]

/-- Blank characters on both sides and in a bracket; an empty bracket behind a blank character. -/
theorem format_trim_bracket :
    let config : Config := { separator := .pair '<' '>' }
    Text.trim ([' '] ++ ['<', ' ', '>', 'b'] ++ ['\n', ' ']) = ['<', ' ', '>', 'b'] ∧
    (∃ inner padded, Phrase.format ⟨.ofText ['<', ' ', '>', 'b'], config⟩ = .ok inner ∧
      Phrase.format ⟨.ofText ([' '] ++ ['<', ' ', '>', 'b'] ++ ['\n', ' ']), config⟩ =
        .ok padded ∧
      padded.text = [' '] ++ inner.text ++ ['\n', ' '] ∧
      padded.colorAt 1 = .ok (some 0xFFE6454A) ∧ padded.colorAt 4 = .ok (some 0xFF666666)) ∧
    Text.trim (['\t'] ++ ['a', '<', '>'] ++ []) = ['a', '<', '>'] ∧
    Phrase.format ⟨.ofText (['\t'] ++ ['a', '<', '>'] ++ []), config⟩ =
      .error (.pattern (.emptyBracket ['<'] ['>'] 2)) := by
  intro config
  have hleft : Text.isBlank config.separator.left = false := by decide
  have hright : Text.isBlank config.separator.right = false := by decide
  have hspaces : Text.trim ([' '] ++ ['<', ' ', '>', 'b'] ++ ['\n', ' ']) =
      ['<', ' ', '>', 'b'] := by
    decide
  have htab : Text.trim (['\t'] ++ ['a', '<', '>'] ++ []) = ['a', '<', '>'] := by decide
  have hinner : Phrase.format ⟨.ofText ['<', ' ', '>', 'b'], config⟩ =
      .ok ⟨[' ', 'b'], [⟨0, 1, 0xFFE6454A⟩, ⟨1, 2, 0xFF666666⟩], []⟩ := by
    cbv
  have hempty : Phrase.format ⟨.ofText ['a', '<', '>'], config⟩ =
      .error (.pattern (.emptyBracket ['<'] ['>'] 1)) :=
    Phrase.format_refused (by decide) (by cbv)
  refine ⟨hspaces, ?_, htab, ?_⟩
  · obtain ⟨hiff, hpads, -⟩ := format_trim hleft hright hspaces
    obtain ⟨padded, hformat⟩ := hiff.mp ⟨_, hinner⟩
    have h := hpads _ _ hinner hformat
    exact ⟨_, padded, hinner, hformat, h.text_eq, h.colorAt_inner 0 (by decide),
      h.colorAt_back 1 (by decide)⟩
  · obtain ⟨hother, -⟩ | ⟨opened, hopened, hformat⟩ :=
      (format_trim hleft hright htab).2.2 _ hempty
    · cases hother
    · cases hopened
      exact hformat

end TintedText
