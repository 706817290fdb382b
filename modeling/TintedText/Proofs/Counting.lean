import TintedText.Proofs.Nesting

/-!
# Balance as a count of marks

What the check finds by going through a text can be said by counting. Equal marks pair when their
number is even: an escape takes two of them and so does a bracket, hence it does not matter which of
the two the check makes of a pair. Different marks nest when no front of the text has more closing
marks than opening ones and the whole text has as many of the one as of the other
(`isBalanced_iff_count`).
-/
namespace TintedText

variable {marks : Delimiters}

namespace Delimiters

lemma closes_eq_false (h : marks.left ≠ marks.right) {c : Char} (hc : marks.opens c = true) :
    marks.closes c = false := by
  rw [closes, beq_eq_false_iff_ne, ← opens_iff.mp hc]
  exact h.symm

lemma countP_opens (l r : Char) (text : List Char) :
    text.countP (ofChars l r).opens = text.count l :=
  List.countP_congr fun c _ => by rw [opens_ofChars, Bool.beq_comm]

lemma countP_closes (l r : Char) (text : List Char) :
    text.countP (ofChars l r).closes = text.count r :=
  List.countP_congr fun c _ => by rw [closes_ofChars, Bool.beq_comm]

end Delimiters

namespace Balance

/-- Outside of a bracket an even number of marks leads back there, inside of one an odd number. -/
theorem pairs_iff_even {inside : Bool} {text : List Char} :
    pairs marks inside text = true ↔ (Even (text.countP marks.opens) ↔ inside = false) := by
  fun_induction pairs marks inside text with
  | case1 inside => simp
  | case2 inside c rest hc ih =>
    rw [List.countP_cons_of_neg (by simpa using hc), ih]
  | case3 c rest hc ih =>
    rw [List.countP_cons_of_pos (by simpa using hc), Nat.even_add_one, ih]
    simp
  | case4 inside c hc hinside =>
    rw [List.countP_cons_of_pos (by simpa using hc)]
    simpa using hinside
  | case5 inside c hc hinside next rest hnext ih =>
    have hc' : marks.opens c = true := by simpa using hc
    obtain rfl : inside = false := by simpa using hinside
    -- an escape takes two marks, which leaves the parity as it is
    rw [List.countP_cons_of_pos hc', List.countP_cons_of_pos hnext, Nat.even_add_one,
      Nat.even_add_one, not_not, ih]
  | case6 inside c hc hinside next rest hnext ih =>
    obtain rfl : inside = false := by simpa using hinside
    rw [List.countP_cons_of_pos (by simpa using hc), Nat.even_add_one, ih]
    simp

/-- No front of the text has more closing marks than opening ones, `pending` being open already. -/
def NeverBehind (marks : Delimiters) (pending : Nat) (text : List Char) : Prop :=
  ∀ front, front <+: text → front.countP marks.closes ≤ pending + front.countP marks.opens

lemma neverBehind_nil {pending : Nat} : NeverBehind marks pending [] := by
  intro front hfront
  simp [List.prefix_nil.mp hfront]

/-- The empty front asks for nothing, and all others have the first character. -/
lemma neverBehind_cons {pending : Nat} {c : Char} {text : List Char} :
    NeverBehind marks pending (c :: text) ↔ ∀ front, front <+: text →
      (c :: front).countP marks.closes ≤ pending + (c :: front).countP marks.opens := by
  constructor
  · intro h front hfront
    exact h (c :: front) (List.prefix_cons_iff.mpr (.inr ⟨front, rfl, hfront⟩))
  · intro h front hfront
    obtain rfl | ⟨tail, rfl, htail⟩ := List.prefix_cons_iff.mp hfront
    · simp
    · exact h tail htail

/-- Different marks nest when the closing ones never get ahead and end up level. -/
theorem nests_iff_neverBehind (hmarks : marks.left ≠ marks.right) {pending : Nat}
    {text : List Char} :
    nests marks pending text = true ↔ NeverBehind marks pending text ∧
      text.countP marks.closes = pending + text.countP marks.opens := by
  induction text generalizing pending with
  | nil =>
    rw [nests, beq_iff_eq]
    simpa [neverBehind_nil] using eq_comm
  | cons c text ih =>
    rw [neverBehind_cons]
    cases hopens : marks.opens c with
    | true =>
      have hcloses := Delimiters.closes_eq_false hmarks hopens
      have hskip : ¬ marks.closes c = true := by simp [hcloses]
      simp only [nests_open hopens, ih, NeverBehind, List.countP_cons_of_pos hopens,
        List.countP_cons_of_neg hskip]
      refine and_congr (forall₂_congr fun front _ => ?_) ?_ <;> omega
    | false =>
      have hskip : ¬ marks.opens c = true := by simp [hopens]
      simp only [List.countP_cons_of_neg hskip]
      cases hcloses : marks.closes c with
      | false =>
        have hskip' : ¬ marks.closes c = true := by simp [hcloses]
        simp only [nests_other hopens hcloses, ih, NeverBehind, List.countP_cons_of_neg hskip']
      | true =>
        simp only [List.countP_cons_of_pos hcloses]
        cases pending with
        | zero =>
          -- the closing mark alone is a front that has too many
          simp only [nests_close_zero hopens hcloses, Bool.false_eq_true, false_iff, not_and]
          intro h
          have := h [] List.nil_prefix
          simp at this
        | succ outer =>
          simp only [nests_close hopens hcloses, ih, NeverBehind]
          refine and_congr (forall₂_congr fun front _ => ?_) ?_ <;> omega

end Balance

/-- For equal marks a text is balanced when their number is even, so that it does not matter which
of them are taken for escapes; for different marks it is balanced when every front of it has at
least as many opening marks as closing ones and the whole has equally many. -/
theorem isBalanced_iff_count (l r : Char) (text : List Char) :
    (l = r → (isBalanced (.ofChars l r) text = true ↔ Even (text.count l))) ∧
    (l ≠ r → (isBalanced (.ofChars l r) text = true ↔
      (∀ front, front <+: text → front.count r ≤ front.count l) ∧
        text.count l = text.count r)) := by
  constructor
  · rintro rfl
    have hmarks : (Delimiters.ofChars l l).left = (Delimiters.ofChars l l).right := rfl
    rw [isBalanced, if_pos hmarks, Balance.pairs_iff_even, Delimiters.countP_opens]
    simp
  · intro hne
    have hmarks : (Delimiters.ofChars l r).left ≠ (Delimiters.ofChars l r).right := by
      simpa [Delimiters.ofChars] using hne
    rw [isBalanced, if_neg hmarks, Balance.nests_iff_neverBehind hmarks]
    simp only [Balance.NeverBehind, Delimiters.countP_opens, Delimiters.countP_closes,
      Nat.zero_add]
    exact and_congr_right' eq_comm

/-- Three marks in a row, the first of which ends a bracket; and as many marks of both kinds, but
one front with too many closing ones. -/
theorem isBalanced_iff_count_order :
    ('|' = '|' ∧ isBalanced (.ofChars '|' '|') ['a', '|', 'b', '|', '|', '|', 'c'] = true) ∧
    ('<' ≠ '>' ∧ isBalanced (.ofChars '<' '>') ['<', 'a', '>', '>', '<'] = false) := by
  have hne : '<' ≠ '>' := by decide
  refine ⟨⟨rfl, ?_⟩, hne, ?_⟩
  · exact ((isBalanced_iff_count '|' '|' _).1 rfl).mpr (by decide)
  · rw [← Bool.not_eq_true, (isBalanced_iff_count '<' '>' _).2 hne]
    rintro ⟨hfronts, -⟩
    have := hfronts ['<', 'a', '>', '>'] ⟨['<'], rfl⟩
    revert this
    decide

end TintedText
