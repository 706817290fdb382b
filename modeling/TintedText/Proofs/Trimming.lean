import TintedText.Prompt
import TintedText.Proofs.Joining

/-!
# Patterns between characters that are no marks

Text without marks at the ends of a pattern changes neither its balance (`isBalanced_between`) nor
whether it can be read (`exists_tokenize_of_between`). So an entry that the validator of a prompt
accepts can still be formatted when the blank characters at its ends are cut off, provided that
no mark is blank (`accepted_formattable`); a blank mark at an end of the entry is cut off with the
rest.
-/
namespace TintedText

namespace Text

lemma exists_trim (text : List Char) :
    ∃ front back, text = front ++ trim text ++ back ∧ (∀ c ∈ front, isBlank c = true) ∧
      ∀ c ∈ back, isBlank c = true :=
  exists_trimOf isBlank text

end Text

variable {marks : Delimiters}

namespace Delimiters

/-- The text holds no mark. -/
def Clear (marks : Delimiters) (text : List Char) : Prop :=
  ∀ c ∈ text, marks.opens c = false ∧ marks.closes c = false

namespace Clear

variable {text : List Char}

lemma opens_eq (h : marks.Clear text) : ∀ c ∈ text, marks.opens c = false :=
  fun c hc => (h c hc).1

lemma closes_eq (h : marks.Clear text) : ∀ c ∈ text, marks.closes c = false :=
  fun c hc => (h c hc).2

lemma exists_cuts (h : marks.Clear text) : ∃ segments, Cuts marks [] text segments := by
  by_cases hne : text = []
  · rw [hne]
    exact ⟨[], .done⟩
  · have hplain : Cuts marks [] (text ++ []) [.plain text.length] :=
      .plain hne h.opens_eq (by simp) .done
    rw [List.append_nil] at hplain
    exact ⟨_, hplain⟩

end Clear

end Delimiters

namespace Balance

lemma nests_append_clear {pending : Nat} {text back : List Char} (h : marks.Clear back) :
    nests marks pending (text ++ back) = nests marks pending text := by
  induction text generalizing pending with
  | nil =>
    induction back with
    | nil => rfl
    | cons c back ih =>
      obtain ⟨hopens, hcloses⟩ := h c (by simp)
      have hrest : marks.Clear back := fun d hd => h d (by simp [hd])
      rw [List.nil_append, nests_other hopens hcloses]
      exact ih hrest
  | cons c text ih =>
    rw [List.cons_append]
    cases hopens : marks.opens c with
    | true => rw [nests_open hopens, nests_open hopens, ih]
    | false =>
      cases hcloses : marks.closes c with
      | false => rw [nests_other hopens hcloses, nests_other hopens hcloses, ih]
      | true =>
        cases pending with
        | zero => rw [nests_close_zero hopens hcloses, nests_close_zero hopens hcloses]
        | succ outer => rw [nests_close hopens hcloses, nests_close hopens hcloses, ih]

lemma pairs_append_clear (hmarks : marks.left = marks.right) {text back : List Char}
    (h : marks.Clear back) : pairs marks false (text ++ back) = pairs marks false text := by
  obtain ⟨used, rest, segments, rfl, hcuts, hend⟩ := TintedText.exists_cuts marks text
  rw [List.append_assoc, pairs_of_cuts hmarks hcuts, pairs_of_cuts hmarks hcuts]
  obtain rfl | hstuck := hend
  · rw [List.nil_append, ← List.append_nil back, pairs_skip h.opens_eq]
  -- the last mark is in the text, so that both end inside of a bracket
  · obtain ⟨error, hstuck⟩ := hstuck 0
    obtain ⟨-, mark, tail, rfl, hmark, htail⟩ := hstuck.last_mark hmarks
    have hboth : ∀ c ∈ tail ++ back, marks.opens c = false := by
      intro c hc
      exact (List.mem_append.mp hc).elim (htail c) (h.opens_eq c)
    rw [List.cons_append, pairs_last_mark hmark hboth, pairs_last_mark hmark htail]

end Balance

lemma isBalanced_clear {text : List Char} (h : marks.Clear text) :
    isBalanced marks text = true := by
  rw [← List.nil_append text]
  unfold isBalanced
  split_ifs with hmarks
  · rw [Balance.pairs_append_clear hmarks h]
    rfl
  · rw [Balance.nests_append_clear h]
    rfl

/-- Text without marks in front of a pattern and behind it does not matter for the balance. -/
theorem isBalanced_between {front text back : List Char} (hfront : marks.Clear front)
    (hback : marks.Clear back) :
    isBalanced marks (front ++ text ++ back) = isBalanced marks text := by
  have hbehind : isBalanced marks (text ++ back) = isBalanced marks text := by
    unfold isBalanced
    split_ifs with hmarks
    · exact Balance.pairs_append_clear hmarks hback
    · exact Balance.nests_append_clear hback
  rw [List.append_assoc, isBalanced_append (isBalanced_clear hfront), hbehind]

lemma Stuck.append_clear {start : Nat} {text back : List Char} {error : PatternError}
    (h : Stuck marks start text error) (hback : marks.Clear back) :
    Stuck marks start (text ++ back) error := by
  cases h with
  | emptyBracket opens single closes => exact .emptyBracket opens single closes
  | @unterminated mark tail opens single inside =>
    refine .unterminated opens (fun c hc => ?_) (fun c hc => ?_)
    · cases tail with
      | nil => exact hback.opens_eq c (List.mem_of_mem_head? hc)
      | cons d tail => exact single c hc
    · exact (List.mem_append.mp hc).elim (inside c) (hback.closes_eq c)

/-- Behind a text that cannot be read, text without marks leaves the reader where it fails. -/
theorem tokenize_append_clear {text back : List Char} {error : PatternError}
    (h : tokenize marks text = .error error) (hback : marks.Clear back) :
    tokenize marks (text ++ back) = .error error := by
  obtain ⟨used, rest, segments, rfl, hcuts, hstuck⟩ := tokenizeFrom_eq_error_iff.mp h
  have hstuck := hstuck.append_clear hback
  exact tokenizeFrom_eq_error_iff.mpr ⟨used, rest ++ back, segments, List.append_assoc ..,
    hcuts.change_rest hstuck.head_opens, hstuck⟩

/-- Between texts without marks the reader fails as it does alone, as much later as the text in
front is long. -/
theorem tokenize_between_error {front text back : List Char} {error : PatternError}
    (h : tokenize marks text = .error error) (hfront : marks.Clear front)
    (hback : marks.Clear back) :
    tokenize marks (front ++ text ++ back) = .error (error.shift front.length) := by
  obtain ⟨first, hcuts⟩ := hfront.exists_cuts
  rw [List.append_assoc]
  exact tokenize_append_error (tokenizeFrom_eq_ok_iff.mpr hcuts) (tokenize_append_clear h hback)

/-- A text that can be read with text without marks around it can be read alone. -/
theorem exists_tokenize_of_between {front text back : List Char} {segments : List Segment}
    (h : tokenize marks (front ++ text ++ back) = .ok segments) (hfront : marks.Clear front)
    (hback : marks.Clear back) : ∃ inner, tokenize marks text = .ok inner := by
  cases hread : tokenize marks text with
  | ok inner => exact ⟨inner, rfl⟩
  | error error => cases h.symm.trans (tokenize_between_error hread hfront hback)

/-- A pattern that can be formatted with text without marks around it can be formatted alone. -/
theorem Phrase.exists_format_of_between {config : Config} {front text back : List Char}
    {padded : StyledText}
    (h : Phrase.format ⟨.ofText (front ++ text ++ back), config⟩ = .ok padded)
    (hfront : config.delimiters.Clear front) (hback : config.delimiters.Clear back) :
    ∃ styled, Phrase.format ⟨.ofText text, config⟩ = .ok styled := by
  obtain ⟨hbalance, segments, hread, -⟩ := format_eq_ok_iff.mp h
  obtain ⟨inner, hinner⟩ := exists_tokenize_of_between hread hfront hback
  exact ⟨_, format_accepted ((isBalanced_between hfront hback).symm.trans hbalance) hinner⟩

namespace Prompt

variable {config : Config}

lemma clear_of_blank (hleft : Text.isBlank config.separator.left = false)
    (hright : Text.isBlank config.separator.right = false) {text : List Char}
    (h : ∀ c ∈ text, Text.isBlank c = true) : config.delimiters.Clear text := by
  intro c hc
  refine ⟨opens_delimiters_eq_false_iff.mpr ?_, closes_delimiters_eq_false_iff.mpr ?_⟩
  · rintro rfl
    rw [h _ hc] at hleft
    cases hleft
  · rintro rfl
    rw [h _ hc] at hright
    cases hright

/-- An accepted entry can be formatted as it was typed. -/
lemma exists_format_of_examine {entry : List Char} (h : (examine config entry).verdict = .ok ()) :
    ∃ styled, (phrase config entry).format = .ok styled := by
  unfold examine at h
  split_ifs at h
  cases hformat : (phrase config entry).build.outcome with
  | error error =>
    simp only [hformat] at h
    cases h
  | ok styled => exact ⟨styled, hformat⟩

lemma exists_format_trim (hleft : Text.isBlank config.separator.left = false)
    (hright : Text.isBlank config.separator.right = false) {entry : List Char}
    (h : (examine config entry).verdict = .ok ()) :
    ∃ styled, (phrase config (Text.trim entry)).format = .ok styled := by
  obtain ⟨padded, hformat⟩ := exists_format_of_examine h
  obtain ⟨front, back, hentry, hfront, hback⟩ := Text.exists_trim entry
  rw [hentry] at hformat
  exact Phrase.exists_format_of_between hformat (clear_of_blank hleft hright hfront)
    (clear_of_blank hleft hright hback)

/-- When no mark is blank, every entry that is accepted can be formatted without the blank
characters at its ends, and so can every pattern that a prompt delivers. -/
theorem accepted_formattable (config : Config) (hleft : Text.isBlank config.separator.left = false)
    (hright : Text.isBlank config.separator.right = false) :
    (∀ entry, (examine config entry).verdict = .ok () →
      ∃ styled, (phrase config (Text.trim entry)).format = .ok styled) ∧
    ∀ entries text, (ask config true entries).1.delivery = .pattern text →
      ∃ styled, (phrase config text).format = .ok styled := by
  refine ⟨fun entry h => exists_format_trim hleft hright h, fun entries text h => ?_⟩
  induction entries with
  | nil => cases h
  | cons entry rest ih =>
    cases entry with
    | interrupt => cases h
    | typed entry =>
      rw [ask, if_pos rfl] at h
      cases hverdict : (examine config entry).verdict with
      | error refusal =>
        simp only [hverdict] at h
        exact ih h
      | ok accepted =>
        simp only [hverdict] at h
        cases h
        exact exists_format_trim hleft hright hverdict

/-- An entry with blank characters around it and one in its bracket. -/
theorem accepted_formattable_bracket :
    (ask { separator := .pair '<' '>' } true
      [.typed [' ', 'a', '<', ' ', '>', '\t']]).1.delivery = .pattern ['a', '<', ' ', '>'] ∧
    ∃ styled, (phrase { separator := .pair '<' '>' } ['a', '<', ' ', '>']).format = .ok styled := by
  have hdelivery : (ask { separator := .pair '<' '>' } true
      [.typed [' ', 'a', '<', ' ', '>', '\t']]).1.delivery = .pattern ['a', '<', ' ', '>'] := by
    cbv
  have hformat := (accepted_formattable { separator := .pair '<' '>' } (by decide) (by decide)).2
  exact ⟨hdelivery, hformat _ _ hdelivery⟩

/-- The space that closes the bracket is cut off the accepted entry. -/
theorem unformattable_of_cut_mark :
    (examine { separator := .single ' ' } ['a', ' ', 'x', ' ']).verdict = .ok () ∧
      Text.trim ['a', ' ', 'x', ' '] = ['a', ' ', 'x'] ∧
      (phrase { separator := .single ' ' } ['a', ' ', 'x']).format =
        .error (.pattern (.unbalanced ['a', ' ', 'x'])) := by
  have hopen : isBalanced (.ofChars ' ' ' ') ['a', ' ', 'x'] = false := by decide
  refine ⟨by cbv, by decide, ?_⟩
  exact Phrase.format_unbalanced hopen

end Prompt

end TintedText
