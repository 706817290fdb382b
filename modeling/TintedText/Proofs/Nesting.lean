import TintedText.Balance
import TintedText.Proofs.Cutting

/-!
# Balanced patterns are never left open

The check of the balance and the reader pair the marks in different ways: different marks nest for
the check, while for the reader the first closing mark ends a bracket and a doubled opening mark is
an escape. Still a bracket that the reader cannot close leaves the check with a mark too many
(`not_unterminated`): different marks because every end of a balanced text nests on its own, equal
marks because the check is outside of all brackets wherever a segment begins (`pairs_of_cuts`).
-/
namespace TintedText

variable {marks : Delimiters}

namespace Delimiters

lemma closes_eq_opens (h : marks.left = marks.right) : marks.closes = marks.opens := by
  ext c
  rw [closes, opens, h]

end Delimiters

namespace Balance

lemma nests_open {pending : Nat} {c : Char} {text : List Char} (h : marks.opens c = true) :
    nests marks pending (c :: text) = nests marks (pending + 1) text := by
  rw [nests.eq_def]
  simp [h]

lemma nests_close {pending : Nat} {c : Char} {text : List Char} (hsingle : marks.opens c = false)
    (h : marks.closes c = true) :
    nests marks (pending + 1) (c :: text) = nests marks pending text := by
  rw [nests.eq_def]
  simp [hsingle, h]

/-- A closing mark without an opening one before it. -/
lemma nests_close_zero {c : Char} {text : List Char} (hsingle : marks.opens c = false)
    (h : marks.closes c = true) : nests marks 0 (c :: text) = false := by
  rw [nests.eq_def]
  simp [hsingle, h]

lemma nests_other {pending : Nat} {c : Char} {text : List Char} (hopens : marks.opens c = false)
    (hcloses : marks.closes c = false) :
    nests marks pending (c :: text) = nests marks pending text := by
  rw [nests.eq_def]
  simp [hopens, hcloses]

/-- Whatever stands in front, the end of a balanced text is balanced from some depth on. -/
lemma nests_append {pending : Nat} {front back : List Char}
    (h : nests marks pending (front ++ back) = true) :
    ∃ outer, nests marks outer back = true := by
  induction front generalizing pending with
  | nil => exact ⟨pending, h⟩
  | cons c front ih =>
    rw [List.cons_append] at h
    cases hopens : marks.opens c with
    | true => exact ih (by rwa [nests_open hopens] at h)
    | false =>
      cases hcloses : marks.closes c with
      | false => exact ih (by rwa [nests_other hopens hcloses] at h)
      | true =>
        cases pending with
        | zero => simp [nests_close_zero hopens hcloses] at h
        | succ outer => exact ih (by rwa [nests_close hopens hcloses] at h)

/-- A text that closes all brackets leaves the text behind it to itself. -/
lemma nests_behind {pending : Nat} {front : List Char} (h : nests marks pending front = true)
    (back : List Char) : nests marks pending (front ++ back) = nests marks 0 back := by
  induction front generalizing pending with
  | nil =>
    have hzero : pending = 0 := by simpa [nests] using h
    rw [List.nil_append, hzero]
  | cons c front ih =>
    rw [List.cons_append]
    cases hopens : marks.opens c with
    | true =>
      rw [nests_open hopens] at h ⊢
      exact ih h
    | false =>
      cases hcloses : marks.closes c with
      | false =>
        rw [nests_other hopens hcloses] at h ⊢
        exact ih h
      | true =>
        cases pending with
        | zero => simp [nests_close_zero hopens hcloses] at h
        | succ outer =>
          rw [nests_close hopens hcloses] at h ⊢
          exact ih h

lemma nests_unclosed {text : List Char} (h : ∀ c ∈ text, marks.closes c = false)
    (pending : Nat) : nests marks (pending + 1) text = false := by
  induction text generalizing pending with
  | nil => rfl
  | cons c text ih =>
    have hrest : ∀ d ∈ text, marks.closes d = false := fun d hd => h d (by simp [hd])
    cases hopens : marks.opens c with
    | true => rw [nests_open hopens, ih hrest]
    | false => rw [nests_other hopens (h c (by simp)), ih hrest]

lemma pairs_skip {inside : Bool} {run tail : List Char} (h : ∀ c ∈ run, marks.opens c = false) :
    pairs marks inside (run ++ tail) = pairs marks inside tail := by
  induction run with
  | nil => rfl
  | cons c run ih =>
    have hskip : pairs marks inside (c :: (run ++ tail)) = pairs marks inside (run ++ tail) := by
      rw [pairs.eq_def]
      simp [h c (by simp)]
    rw [List.cons_append, hskip, ih fun d hd => h d (by simp [hd])]

lemma pairs_escape {first second : Char} {tail : List Char} (hfirst : marks.opens first = true)
    (hsecond : marks.opens second = true) :
    pairs marks false (first :: second :: tail) = pairs marks false tail := by
  simp [pairs, hfirst, hsecond]

lemma pairs_open {mark : Char} {tail : List Char} (hmark : marks.opens mark = true)
    (hsingle : ∀ c ∈ tail.head?, marks.opens c = false) :
    pairs marks false (mark :: tail) = pairs marks true tail := by
  cases tail with
  | nil => simp [pairs, hmark]
  | cons c tail =>
    have hc := hsingle c rfl
    simp [pairs, hmark, hc]

lemma pairs_close {mark : Char} {tail : List Char} (hmark : marks.opens mark = true) :
    pairs marks true (mark :: tail) = pairs marks false tail := by
  rw [pairs.eq_def]
  simp [hmark]

/-- Inside a bracket that is not closed the check ends with a mark too many. -/
lemma pairs_unclosed {text : List Char} (h : ∀ c ∈ text, marks.opens c = false) :
    pairs marks true text = false := by
  rw [← List.append_nil text, pairs_skip h]
  rfl

/-- With equal marks the check is outside of all brackets wherever a segment begins, whatever stands
behind the text. -/
theorem pairs_of_cuts (hmarks : marks.left = marks.right) {rest used : List Char}
    {segments : List Segment} (h : Cuts marks rest used segments) (tail : List Char) :
    pairs marks false (used ++ tail) = pairs marks false tail := by
  induction h with
  | done => rfl
  | plain _ clear _ _ ih => rw [List.append_assoc, pairs_skip clear, ih]
  | literal opens again _ ih =>
    rw [List.cons_append, List.cons_append, pairs_escape opens again, ih]
  | @bracketed mark close content used segments opens ne single inside closes _ ih =>
    rw [Delimiters.closes_eq_opens hmarks] at inside closes
    have hhead : ∀ c ∈ (content ++ (close :: used ++ tail)).head?, marks.opens c = false := by
      obtain ⟨c, content, rfl⟩ := List.exists_cons_of_ne_nil ne
      exact single
    rw [List.cons_append, List.append_assoc, pairs_open opens hhead, pairs_skip inside,
      List.cons_append, pairs_close closes, ih]

end Balance

theorem not_unterminated {text right : List Char} {opened : Nat}
    (h : isBalanced marks text = true) :
    tokenize marks text ≠ .error (.unterminated right opened) := by
  intro herror
  obtain ⟨used, rest, segments, rfl, hcuts, hstuck⟩ := tokenizeFrom_eq_error_iff.mp herror
  cases hstuck with
  | @unterminated mark tail opens single inside =>
    unfold isBalanced at h
    split_ifs at h with hmarks
    · rw [Delimiters.closes_eq_opens hmarks] at inside
      rw [Balance.pairs_of_cuts hmarks hcuts, Balance.pairs_open opens single,
        Balance.pairs_unclosed inside] at h
      cases h
    · obtain ⟨outer, hnests⟩ := Balance.nests_append h
      rw [Balance.nests_open opens, Balance.nests_unclosed inside] at hnests
      cases hnests

/-- The reader refuses a balanced text only for an empty bracket. -/
theorem eq_emptyBracket_of_isBalanced {text : List Char} {error : PatternError}
    (h : isBalanced marks text = true) (hread : tokenize marks text = .error error) :
    ∃ opened, error = .emptyBracket marks.left marks.right opened := by
  obtain ⟨used, rest, segments, htext, hcuts, hstuck⟩ := tokenizeFrom_eq_error_iff.mp hread
  cases hstuck with
  | emptyBracket opens single closes => exact ⟨_, rfl⟩
  | unterminated opens single inside => exact absurd hread (not_unterminated h)

end TintedText
