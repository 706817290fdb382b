import TintedText.Proofs.Agreement
import TintedText.Proofs.Transducer

/-!
# Patterns side by side

At the end of a pattern that can be formatted the check, the reader and the pass over the characters
are back where they started, so that a second pattern behind it is treated as if it stood alone. The
segments of both stand side by side, except that a plain run goes on over the seam
(`Cuts.append`); the output is that of the one followed by that of the other, and an error of the
second pattern is found as far behind its place as the first one is long.
-/
namespace TintedText

variable {marks : Delimiters}

namespace Segment

/-- The segment in front of others; a plain run goes on in a plain run. -/
def joinTo : Segment → List Segment → List Segment
  | plain length, plain more :: segments => plain (length + more) :: segments
  | segment, segments => segment :: segments

end Segment

/-- The segments of a text and of the text behind it as those of one text. -/
def joined (front back : List Segment) : List Segment :=
  front.foldr Segment.joinTo back

namespace PatternError

/-- The error as it is found with `count` characters in front of the text. -/
def shift (count : Nat) : PatternError → PatternError
  | unbalanced pattern => unbalanced pattern
  | unterminated right opened => unterminated right (count + opened)
  | emptyBracket left right opened => emptyBracket left right (count + opened)

end PatternError

namespace Stuck

variable {start : Nat} {text : List Char} {error : PatternError}

lemma shift (h : Stuck marks start text error) (count : Nat) :
    Stuck marks (count + start) text (error.shift count) := by
  cases h with
  | emptyBracket opens single closes => exact .emptyBracket opens single closes
  | unterminated opens single inside => exact .unterminated opens single inside

end Stuck

namespace Cuts

variable {rest front back : List Char} {first second : List Segment}

lemma plain_append {run : List Char} (ne : run ≠ []) (clear : ∀ c ∈ run, marks.opens c = false)
    (hrest : ∀ c ∈ rest.head?, marks.opens c = true) (h : Cuts marks rest back second) :
    Cuts marks rest (run ++ back) ((Segment.plain run.length).joinTo second) := by
  cases h with
  | done => exact .plain ne clear hrest .done
  | @plain more used segments _ clear' ends cuts =>
    -- the reader does not stop at the seam, so the two runs are one segment
    have hboth : ∀ c ∈ run ++ more, marks.opens c = false := by
      intro c hc
      exact (List.mem_append.mp hc).elim (clear c) (clear' c)
    have hjoin := Cuts.plain (List.append_ne_nil_of_left_ne_nil ne more) hboth ends cuts
    rw [List.length_append, Int.natCast_add, List.append_assoc] at hjoin
    exact hjoin
  | literal opens again cuts =>
    exact .plain ne clear (by simpa using opens) (.literal opens again cuts)
  | bracketed opens ne' single inside closes cuts =>
    exact .plain ne clear (by simpa using opens) (.bracketed opens ne' single inside closes cuts)

theorem append (hfront : Cuts marks [] front first) (hback : Cuts marks rest back second)
    (hrest : ∀ c ∈ rest.head?, marks.opens c = true) :
    Cuts marks rest (front ++ back) (joined first second) := by
  induction hfront with
  | done => exact hback
  | plain ne clear _ _ ih =>
    rw [List.append_assoc]
    exact ih.plain_append ne clear hrest
  | literal opens again _ ih => exact .literal opens again ih
  | bracketed opens ne single inside closes _ ih =>
    rw [List.cons_append, List.append_assoc, List.cons_append]
    exact .bracketed opens ne single inside closes ih

end Cuts

/-- Two texts that can be read are read one after the other. -/
theorem tokenize_append {front back : List Char} {first second : List Segment}
    (hfront : tokenize marks front = .ok first) (hback : tokenize marks back = .ok second) :
    tokenize marks (front ++ back) = .ok (joined first second) :=
  tokenizeFrom_eq_ok_iff.mpr ((tokenizeFrom_eq_ok_iff.mp hfront).append
    (tokenizeFrom_eq_ok_iff.mp hback) (by simp))

/-- Behind a text that can be read the reader fails as it does on the second text alone. -/
theorem tokenize_append_error {front back : List Char} {first : List Segment}
    {error : PatternError} (hfront : tokenize marks front = .ok first)
    (hback : tokenize marks back = .error error) :
    tokenize marks (front ++ back) = .error (error.shift front.length) := by
  obtain ⟨used, rest, second, rfl, hcuts, hstuck⟩ := tokenizeFrom_eq_error_iff.mp hback
  have hjoin := (tokenizeFrom_eq_ok_iff.mp hfront).append hcuts hstuck.head_opens
  refine tokenizeFrom_eq_error_iff.mpr ⟨front ++ used, rest, joined first second,
    (List.append_assoc ..).symm, hjoin, ?_⟩
  rw [List.length_append, Nat.add_left_comm]
  exact hstuck.shift front.length

/-- Behind a text that can be read the pass over the characters is outside of all brackets. -/
theorem transduce_append {config : Config} {rest used : List Char} {segments : List Segment}
    (h : Cuts config.delimiters rest used segments) (tail : List Char) :
    transduce config .outside (used ++ tail) =
      transduce config .outside used ++ transduce config .outside tail := by
  induction h with
  | done => rfl
  | plain _ clear _ _ ih =>
    rw [List.append_assoc, transduce_plain clear, transduce_plain clear, ih, List.append_assoc]
  | literal opens again _ ih =>
    rw [List.cons_append, List.cons_append, transduce_literal opens again,
      transduce_literal opens again, ih, List.cons_append]
  | bracketed opens ne single inside closes _ ih =>
    rw [List.cons_append, List.append_assoc, List.cons_append,
      transduce_bracketed opens ne single inside closes,
      transduce_bracketed opens ne single inside closes, ih, List.append_assoc]

namespace StyledText.Shows

variable {first second both : StyledText} {front back : List Glyph}

lemma length_eq (h : first.Shows front) : first.text.length = front.length := by
  rw [h.text_eq, List.length_map]

lemma colorAt_getElem (h : first.Shows front) {i : Nat} (hi : i < first.text.length) :
    ∃ glyph, front[i]? = some glyph ∧ first.colorAt i = .ok glyph.color := by
  rw [h.length_eq] at hi
  have hget : front[i]? = some front[i] := List.getElem?_eq_getElem hi
  exact ⟨front[i], hget, h.colorAt_eq i _ hget⟩

/-- What shows the characters of one text and then those of another looks like the two. -/
theorem split (hboth : both.Shows (front ++ back)) (hfirst : first.Shows front)
    (hsecond : second.Shows back) :
    both.text = first.text ++ second.text ∧
      (∀ i < first.text.length, both.colorAt i = first.colorAt i) ∧
      ∀ i < second.text.length,
        both.colorAt ((first.text.length + i : Nat) : Int) = second.colorAt i := by
  refine ⟨?_, fun i hi => ?_, fun i hi => ?_⟩
  · rw [hboth.text_eq, hfirst.text_eq, hsecond.text_eq, List.map_append]
  · obtain ⟨glyph, hget, hcolor⟩ := hfirst.colorAt_getElem hi
    rw [hcolor]
    refine hboth.colorAt_eq i glyph ?_
    rw [List.getElem?_append_left (by rwa [← hfirst.length_eq]), hget]
  · obtain ⟨glyph, hget, hcolor⟩ := hsecond.colorAt_getElem hi
    rw [hcolor]
    refine hboth.colorAt_eq _ glyph ?_
    rw [hfirst.length_eq, List.getElem?_append_right (Nat.le_add_right ..),
      Nat.add_sub_cancel_left, hget]

end StyledText.Shows

namespace Phrase

section append

variable {config : Config} {front back : List Char} {first second : StyledText}

theorem format_append_ok (hfront : format ⟨.ofText front, config⟩ = .ok first)
    (hback : format ⟨.ofText back, config⟩ = .ok second) :
    ∃ both, format ⟨.ofText (front ++ back), config⟩ = .ok both ∧
      both.text = first.text ++ second.text ∧
      (∀ i < first.text.length, both.colorAt i = first.colorAt i) ∧
      ∀ i < second.text.length,
        both.colorAt ((first.text.length + i : Nat) : Int) = second.colorAt i := by
  obtain ⟨hbalance₁, segments₁, hread₁, -⟩ := format_eq_ok_iff.mp hfront
  obtain ⟨hbalance₂, segments₂, hread₂, -⟩ := format_eq_ok_iff.mp hback
  have hbalance := (isBalanced_append hbalance₁ back).trans hbalance₂
  have hboth : format ⟨.ofText (front ++ back), config⟩ = .ok _ :=
    format_accepted hbalance (tokenize_append hread₁ hread₂)
  have hshows := format_shows hboth
  have hseam : transduce config .outside (front ++ back) =
      transduce config .outside front ++ transduce config .outside back :=
    transduce_append (tokenizeFrom_eq_ok_iff.mp hread₁) back
  rw [show (Pattern.ofText (front ++ back)).text = front ++ back from rfl, hseam] at hshows
  exact ⟨_, hboth, hshows.split (format_shows hfront) (format_shows hback)⟩

theorem format_append_unbalanced {text : List Char}
    (hfront : format ⟨.ofText front, config⟩ = .ok first)
    (hback : format ⟨.ofText back, config⟩ = .error (.pattern (.unbalanced text))) :
    format ⟨.ofText (front ++ back), config⟩ =
      .error (.pattern (.unbalanced (front ++ back))) := by
  obtain ⟨hbalance₁, -⟩ := format_eq_ok_iff.mp hfront
  obtain ⟨hbalance₂, -⟩ := format_eq_unbalanced_iff.mp hback
  exact format_unbalanced ((isBalanced_append hbalance₁ back).trans hbalance₂)

theorem format_append_emptyBracket {left right : List Char} {opened : Nat}
    (hfront : format ⟨.ofText front, config⟩ = .ok first)
    (hback : format ⟨.ofText back, config⟩ =
      .error (.pattern (.emptyBracket left right opened))) :
    format ⟨.ofText (front ++ back), config⟩ =
      .error (.pattern (.emptyBracket left right (front.length + opened))) := by
  obtain ⟨hbalance₁, segments₁, hread₁, -⟩ := format_eq_ok_iff.mp hfront
  obtain ⟨hbalance₂, hread₂⟩ := format_eq_emptyBracket_iff.mp hback
  exact format_refused ((isBalanced_append hbalance₁ back).trans hbalance₂)
    (tokenize_append_error hread₁ hread₂)

end append

end Phrase

/-- A pattern behind one that can be formatted is formatted as if it stood alone: the outputs are
side by side, and its errors are found behind the first pattern. -/
theorem format_append {config : Config} {front back : List Char} {first : StyledText}
    (h : Phrase.format ⟨.ofText front, config⟩ = .ok first) :
    (∀ second, Phrase.format ⟨.ofText back, config⟩ = .ok second →
      ∃ both, Phrase.format ⟨.ofText (front ++ back), config⟩ = .ok both ∧
        both.text = first.text ++ second.text ∧
        (∀ i < first.text.length, both.colorAt i = first.colorAt i) ∧
        ∀ i < second.text.length,
          both.colorAt ((first.text.length + i : Nat) : Int) = second.colorAt i) ∧
    (∀ text, Phrase.format ⟨.ofText back, config⟩ = .error (.pattern (.unbalanced text)) →
      Phrase.format ⟨.ofText (front ++ back), config⟩ =
        .error (.pattern (.unbalanced (front ++ back)))) ∧
    (∀ left right opened,
      Phrase.format ⟨.ofText back, config⟩ =
          .error (.pattern (.emptyBracket left right opened)) →
        Phrase.format ⟨.ofText (front ++ back), config⟩ =
          .error (.pattern (.emptyBracket left right (front.length + opened)))) := by
  refine ⟨fun second hback => ?_, fun text hback => ?_, fun left right opened hback => ?_⟩
  · exact Phrase.format_append_ok h hback
  · exact Phrase.format_append_unbalanced h hback
  · exact Phrase.format_append_emptyBracket h hback

/-- A plain run goes on over the seam, between a bracket in front of it and an escape behind; a mark
without a partner and an empty bracket behind it. -/
theorem format_append_seam :
    ∃ first second both,
      Phrase.format ⟨.ofText ['<', 'b', '>', 'a'], { separator := .pair '<' '>' }⟩ = .ok first ∧
      Phrase.format ⟨.ofText ['c', '<', '<', '>', '>'], { separator := .pair '<' '>' }⟩ =
        .ok second ∧
      Phrase.format ⟨.ofText (['<', 'b', '>', 'a'] ++ ['c', '<', '<', '>', '>']),
        { separator := .pair '<' '>' }⟩ = .ok both ∧
      both.text = ['b', 'a', 'c', '<', '>', '>'] ∧
      both.colorAt 0 = .ok (some 0xFFE6454A) ∧ both.colorAt 1 = .ok (some 0xFF666666) ∧
      both.colorAt 2 = .ok (some 0xFF666666) ∧ both.colorAt 3 = .ok none ∧
      both.colorAt 4 = .ok (some 0xFF666666) ∧ both.colorAt 5 = .ok (some 0xFF666666) ∧
      Phrase.format ⟨.ofText (['<', 'b', '>', 'a'] ++ ['>']), { separator := .pair '<' '>' }⟩ =
        .error (.pattern (.unbalanced ['<', 'b', '>', 'a', '>'])) ∧
      Phrase.format ⟨.ofText (['<', 'b', '>', 'a'] ++ ['c', '<', '>']),
        { separator := .pair '<' '>' }⟩ = .error (.pattern (.emptyBracket ['<'] ['>'] 5)) := by
  have hfirst : Phrase.format ⟨.ofText ['<', 'b', '>', 'a'], { separator := .pair '<' '>' }⟩ =
      .ok ⟨['b', 'a'], [⟨0, 1, 0xFFE6454A⟩, ⟨1, 2, 0xFF666666⟩], []⟩ := by
    cbv
  have hsecond : Phrase.format ⟨.ofText ['c', '<', '<', '>', '>'],
      { separator := .pair '<' '>' }⟩ =
        .ok ⟨['c', '<', '>', '>'], [⟨0, 1, 0xFF666666⟩, ⟨2, 4, 0xFF666666⟩], []⟩ := by
    cbv
  have hopen : Phrase.format ⟨.ofText ['>'], { separator := .pair '<' '>' }⟩ =
      .error (.pattern (.unbalanced ['>'])) :=
    Phrase.format_unbalanced (by decide)
  have hempty : Phrase.format ⟨.ofText ['c', '<', '>'], { separator := .pair '<' '>' }⟩ =
      .error (.pattern (.emptyBracket ['<'] ['>'] 1)) :=
    Phrase.format_refused (by decide) (by cbv)
  obtain ⟨both, hboth, htext, hfront, hback⟩ := (format_append hfirst).1 _ hsecond
  exact ⟨_, _, both, hfirst, hsecond, hboth, htext, hfront 0 (by decide), hfront 1 (by decide),
    hback 0 (by decide), hback 1 (by decide), hback 2 (by decide), hback 3 (by decide),
    (format_append hfirst).2.1 _ hopen, (format_append hfirst).2.2 _ _ _ hempty⟩

end TintedText
