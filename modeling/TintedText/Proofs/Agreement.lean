import TintedText.Proofs.Nesting

/-!
# The check agrees with the reader

Equal marks are paired by the check as they are by the reader, so that the check refuses exactly the
texts that cannot be read, and these fail in one way only: the last mark opens a bracket that is not
closed (`balanced_or_last_mark`). Different marks may balance around a bracket without content,
which is then the only reason for the reader to fail.
-/
namespace TintedText

variable {marks : Delimiters}

/-- With equal marks nothing but an unclosed bracket, whose mark is the last one, is in the way of
cutting off a segment. -/
lemma Stuck.last_mark (hmarks : marks.left = marks.right) {start : Nat} {text : List Char}
    {error : PatternError} (h : Stuck marks start text error) :
    error = .unterminated marks.right start ∧
      ∃ mark tail, text = mark :: tail ∧ marks.opens mark = true ∧
        ∀ c ∈ tail, marks.opens c = false := by
  cases h with
  | emptyBracket _ single closes =>
    rw [Delimiters.closes_eq_opens hmarks, single] at closes
    cases closes
  | @unterminated mark tail opens _ inside =>
    rw [Delimiters.closes_eq_opens hmarks] at inside
    exact ⟨rfl, mark, tail, rfl, opens, inside⟩

namespace Balance

/-- A last mark that opens a bracket leaves the check inside of it. -/
lemma pairs_last_mark {mark : Char} {tail : List Char} (hmark : marks.opens mark = true)
    (htail : ∀ c ∈ tail, marks.opens c = false) : pairs marks false (mark :: tail) = false := by
  have hsingle : ∀ c ∈ tail.head?, marks.opens c = false :=
    fun c hc => htail c (List.mem_of_mem_head? hc)
  rw [pairs_open hmark hsingle, pairs_unclosed htail]

end Balance

/-- With equal marks a text is balanced and can be read, or neither of both; in the latter case the
reader fails at the last mark of the text. -/
theorem balanced_or_last_mark (hmarks : marks.left = marks.right) (text : List Char) :
    (isBalanced marks text = true ∧ ∃ segments, tokenize marks text = .ok segments) ∨
      (isBalanced marks text = false ∧ ∃ front mark tail, text = front ++ mark :: tail ∧
        marks.opens mark = true ∧ (∀ c ∈ tail, marks.opens c = false) ∧
        tokenize marks text = .error (.unterminated marks.right front.length)) := by
  have hcheck : isBalanced marks text = Balance.pairs marks false text := if_pos hmarks
  obtain ⟨used, rest, segments, rfl, hcuts, hend⟩ := exists_cuts marks text
  rw [hcheck, Balance.pairs_of_cuts hmarks hcuts]
  obtain rfl | hstuck := hend
  · rw [List.append_nil]
    exact .inl ⟨rfl, segments, tokenizeFrom_eq_ok_iff.mpr hcuts⟩
  · obtain ⟨error, hstuck⟩ := hstuck (0 + used.length)
    obtain ⟨rfl, mark, tail, rfl, hmark, htail⟩ := hstuck.last_mark hmarks
    refine .inr ⟨Balance.pairs_last_mark hmark htail, used, mark, tail, rfl, hmark, htail, ?_⟩
    rw [← Nat.zero_add used.length]
    exact tokenizeFrom_eq_error_iff.mpr ⟨used, mark :: tail, segments, rfl, hcuts, hstuck⟩

lemma isBalanced_of_cuts (hmarks : marks.left = marks.right) {text : List Char}
    {segments : List Segment} (h : Cuts marks [] text segments) : isBalanced marks text = true := by
  rw [isBalanced, if_pos hmarks, ← List.append_nil text, Balance.pairs_of_cuts hmarks h]
  rfl

theorem isBalanced_append {front : List Char} (h : isBalanced marks front = true)
    (back : List Char) : isBalanced marks (front ++ back) = isBalanced marks back := by
  by_cases hmarks : marks.left = marks.right
  · -- the segments of the text in front say that no bracket is open at its end
    obtain ⟨-, segments, hread⟩ | ⟨hfalse, -⟩ := balanced_or_last_mark hmarks front
    · rw [isBalanced, isBalanced, if_pos hmarks, if_pos hmarks,
        Balance.pairs_of_cuts hmarks (tokenizeFrom_eq_ok_iff.mp hread)]
    · rw [hfalse] at h
      cases h
  · rw [isBalanced, if_neg hmarks] at h ⊢
    rw [isBalanced, if_neg hmarks, Balance.nests_behind h]

/-- For equal marks to balance and to be readable is the same, and the reader fails at the last mark
only; for different marks a balanced text is read up to its end or to an empty bracket. -/
theorem balance_agrees (l r : Char) (text : List Char) :
    (l = r →
      (isBalanced (.ofChars l r) text = true ↔
        ∃ segments, tokenize (.ofChars l r) text = .ok segments) ∧
      (isBalanced (.ofChars l r) text = false →
        ∃ error opened, tokenize (.ofChars l r) text = .error error ∧
          error = .unterminated [r] opened ∧ error.position = some opened ∧
          text[opened]? = some l ∧ l ∉ text.drop (opened + 1)) ∧
      ∀ left right opened,
        tokenize (.ofChars l r) text ≠ .error (.emptyBracket left right opened)) ∧
    (l ≠ r → isBalanced (.ofChars l r) text = true →
      (∀ right opened, tokenize (.ofChars l r) text ≠ .error (.unterminated right opened)) ∧
      ((∃ segments, tokenize (.ofChars l r) text = .ok segments) ∨
        ∃ opened, tokenize (.ofChars l r) text = .error (.emptyBracket [l] [r] opened))) := by
  constructor
  · rintro rfl
    have hmarks : (Delimiters.ofChars l l).left = (Delimiters.ofChars l l).right := rfl
    obtain ⟨hbalance, segments, hread⟩ | ⟨hbalance, front, mark, tail, rfl, hmark, htail, hread⟩ :=
      balanced_or_last_mark hmarks text
    · simp [hbalance, hread]
    · obtain rfl : l = mark := by simpa using hmark
      have hlast : l ∉ tail := fun hmem => by simpa using htail l hmem
      refine ⟨by simp [hbalance, hread], fun _ => ?_, by simp [hread]⟩
      refine ⟨_, front.length, hread, rfl, rfl, by simp, ?_⟩
      rw [← List.drop_drop, List.drop_left]
      exact hlast
  · intro _ hbalance
    refine ⟨fun _ _ => not_unterminated hbalance, ?_⟩
    cases hread : tokenize (.ofChars l r) text with
    | ok segments => exact .inl ⟨segments, rfl⟩
    | error error =>
      obtain ⟨opened, rfl⟩ := eq_emptyBracket_of_isBalanced hbalance hread
      exact .inr ⟨opened, rfl⟩

/-- A bracket, an escape and a bracket that is not closed; and different marks that balance around
an empty bracket. -/
theorem balance_agrees_unclosed :
    (isBalanced (.ofChars '|' '|') ['|', 'a', '|', '|', '|', '|', 'b'] = false ∧
      ∃ opened, tokenize (.ofChars '|' '|') ['|', 'a', '|', '|', '|', '|', 'b'] =
          .error (.unterminated ['|'] opened) ∧
        '|' ∉ ['|', 'a', '|', '|', '|', '|', 'b'].drop (opened + 1)) ∧
    ('<' ≠ '>' ∧ isBalanced (.ofChars '<' '>') ['<', 'a', '>', '<', '>'] = true ∧
      ∀ right opened, tokenize (.ofChars '<' '>') ['<', 'a', '>', '<', '>'] ≠
        .error (.unterminated right opened)) := by
  have hopen : isBalanced (.ofChars '|' '|') ['|', 'a', '|', '|', '|', '|', 'b'] = false := by
    decide
  have hnest : isBalanced (.ofChars '<' '>') ['<', 'a', '>', '<', '>'] = true := by decide
  have hne : '<' ≠ '>' := by decide
  obtain ⟨error, opened, hread, rfl, -, -, hlast⟩ := ((balance_agrees '|' '|' _).1 rfl).2.1 hopen
  exact ⟨⟨hopen, opened, hread, hlast⟩, hne, hnest, ((balance_agrees '<' '>' _).2 hne hnest).1⟩

end TintedText
