import Mathlib
import TintedText.Segment

/-!
# Cutting a pattern into segments

`Cuts` says, without running the reader, that a text is the slices of some segments one after
another; `Stuck` says that no segment can be cut off a text, and why. Every text is cut up to a
place where it ends or is stuck (`exists_cuts`), and `tokenizeFrom` follows the cuts
(`tokenizeFrom_append`), so that its success and each of its failures are read off the relation.
-/
namespace TintedText

variable {marks : Delimiters}

namespace Delimiters

theorem opens_iff {c : Char} : marks.opens c = true ↔ marks.left = [c] := by
  simp [opens]

section ofChars

variable {l r : Char} {text : List Char}

lemma forall_opens_iff : (∀ c ∈ text, (ofChars l r).opens c = false) ↔ l ∉ text := by
  simp [List.forall_mem_ne]

lemma forall_closes_iff : (∀ c ∈ text, (ofChars l r).closes c = false) ↔ r ∉ text := by
  simp [List.forall_mem_ne]

lemma head_opens_iff :
    (∀ c ∈ text.head?, (ofChars l r).opens c = false) ↔ text.head? ≠ some l := by
  cases text with
  | nil => simp
  | cons c text => simpa using ne_comm

end ofChars

end Delimiters

/-- The text `used` is the slices of the segments, and `rest` stands behind it. A plain run goes up
to the next opening mark or to the end of everything. -/
inductive Cuts (marks : Delimiters) (rest : List Char) : List Char → List Segment → Prop
  | done : Cuts marks rest [] []
  | plain {run used : List Char} {segments : List Segment} (ne : run ≠ [])
      (clear : ∀ c ∈ run, marks.opens c = false)
      (ends : ∀ c ∈ (used ++ rest).head?, marks.opens c = true)
      (cuts : Cuts marks rest used segments) :
      Cuts marks rest (run ++ used) (.plain run.length :: segments)
  | literal {first second : Char} {used : List Char} {segments : List Segment}
      (opens : marks.opens first = true) (again : marks.opens second = true)
      (cuts : Cuts marks rest used segments) :
      Cuts marks rest (first :: second :: used) (.literal marks.left :: segments)
  | bracketed {mark close : Char} {content used : List Char} {segments : List Segment}
      (opens : marks.opens mark = true) (ne : content ≠ [])
      (single : ∀ c ∈ content.head?, marks.opens c = false)
      (inside : ∀ c ∈ content, marks.closes c = false) (closes : marks.closes close = true)
      (cuts : Cuts marks rest used segments) :
      Cuts marks rest (mark :: (content ++ close :: used)) (.bracketed content :: segments)

/-- No segment can be cut off the text, which starts at position `start`. -/
inductive Stuck (marks : Delimiters) (start : Nat) : List Char → PatternError → Prop
  | emptyBracket {mark close : Char} {tail : List Char} (opens : marks.opens mark = true)
      (single : marks.opens close = false) (closes : marks.closes close = true) :
      Stuck marks start (mark :: close :: tail) (.emptyBracket marks.left marks.right start)
  | unterminated {mark : Char} {tail : List Char} (opens : marks.opens mark = true)
      (single : ∀ c ∈ tail.head?, marks.opens c = false)
      (inside : ∀ c ∈ tail, marks.closes c = false) :
      Stuck marks start (mark :: tail) (.unterminated marks.right start)

/-- Only at an opening mark no segment can be cut off. -/
lemma Stuck.head_opens {start : Nat} {text : List Char} {error : PatternError}
    (h : Stuck marks start text error) : ∀ c ∈ text.head?, marks.opens c = true := by
  cases h with
  | emptyBracket opens | unterminated opens => simpa using opens

namespace Segment

lemma read_plain (start : Nat) {c : Char} {run tail : List Char}
    (clear : ∀ d ∈ c :: run, marks.opens d = false)
    (ends : ∀ d ∈ tail.head?, marks.opens d = true) :
    read marks start c (run ++ tail) = ⟨.ok (.plain (c :: run).length), (c :: run).length⟩ := by
  have hrun : (run ++ tail).takeWhile (!marks.opens ·) = run := by
    rw [List.takeWhile_append_of_pos (fun d hd => by simp [clear d (by simp [hd])])]
    cases tail with
    | nil => simp
    | cons d tail => simp [ends d rfl]
  simp [read, hrun, clear c (by simp)]

lemma read_literal (start : Nat) {first second : Char} {tail : List Char}
    (opens : marks.opens first = true) (again : marks.opens second = true) :
    read marks start first (second :: tail) = ⟨.ok (.literal marks.left), 2⟩ := by
  simp [read, opens, again]

lemma read_bracketed (start : Nat) {mark close : Char} {content tail : List Char}
    (opens : marks.opens mark = true) (ne : content ≠ [])
    (single : ∀ c ∈ content.head?, marks.opens c = false)
    (inside : ∀ c ∈ content, marks.closes c = false) (closes : marks.closes close = true) :
    read marks start mark (content ++ close :: tail) =
      ⟨.ok (.bracketed content), content.length + 2⟩ := by
  have hcontent : (content ++ close :: tail).takeWhile (!marks.closes ·) = content := by
    rw [List.takeWhile_append_of_pos (fun c hc => by simp [inside c hc])]
    simp [closes]
  obtain ⟨c, content, rfl⟩ := List.exists_cons_of_ne_nil ne
  have hc : marks.opens c = false := single c rfl
  rw [List.cons_append] at hcontent ⊢
  simp [read, readBracket, opens, hc, hcontent, closes]

lemma read_stuck {start : Nat} {c : Char} {rest : List Char} {error : PatternError}
    (h : Stuck marks start (c :: rest) error) :
    (read marks start c rest).outcome = .error error := by
  cases h with
  | emptyBracket opens single closes => simp [read, readBracket, opens, single, closes]
  | unterminated opens single inside =>
    have hclose : rest.any marks.closes = false := by simpa using inside
    cases rest with
    | nil => simp [read, readBracket, opens]
    | cons d rest => simp [read, readBracket, opens, single d rfl, hclose]

end Segment

lemma tokenizeFrom_of_read {start count : Nat} {c : Char} {rest : List Char} {segment : Segment}
    (h : Segment.read marks start c rest = ⟨.ok segment, count⟩) :
    tokenizeFrom marks start (c :: rest) =
      (tokenizeFrom marks (start + count) ((c :: rest).drop count)).map (segment :: ·) := by
  rw [tokenizeFrom]
  simp only [h]

lemma tokenizeFrom_stuck {start : Nat} {text : List Char} {error : PatternError}
    (h : Stuck marks start text error) : tokenizeFrom marks start text = .error error := by
  cases text with
  | nil => cases h
  | cons c rest =>
    unfold tokenizeFrom
    simp only [Segment.read_stuck h]

theorem tokenizeFrom_append (start : Nat) {used rest : List Char} {segments : List Segment}
    (h : Cuts marks rest used segments) :
    tokenizeFrom marks start (used ++ rest) =
      (tokenizeFrom marks (start + used.length) rest).map (segments ++ ·) := by
  induction h generalizing start with
  | done => cases h : tokenizeFrom marks start rest <;> simp [h, Except.map]
  | @plain run used segments ne clear ends _ ih =>
    obtain ⟨c, run, rfl⟩ := List.exists_cons_of_ne_nil ne
    have hread := Segment.read_plain start clear ends
    rw [List.append_assoc, List.cons_append, tokenizeFrom_of_read hread]
    simp only [List.length_cons, List.drop_succ_cons, List.drop_left, ih]
    rw [show start + (run.length + 1) + used.length = start + (c :: run ++ used).length by
      simp; omega]
    cases tokenizeFrom marks (start + (c :: run ++ used).length) rest <;> rfl
  | @literal first second used segments opens again _ ih =>
    have hread : Segment.read marks start first (second :: (used ++ rest)) =
        ⟨.ok (.literal marks.left), 2⟩ := Segment.read_literal start opens again
    rw [List.cons_append, List.cons_append, tokenizeFrom_of_read hread]
    simp only [List.drop_succ_cons, List.drop_zero, ih]
    rw [show start + 2 + used.length = start + (first :: second :: used).length by simp; omega]
    cases tokenizeFrom marks (start + (first :: second :: used).length) rest <;> rfl
  | @bracketed mark close content used segments opens ne single inside closes _ ih =>
    have hread : Segment.read marks start mark (content ++ close :: (used ++ rest)) =
        ⟨.ok (.bracketed content), content.length + 2⟩ :=
      Segment.read_bracketed start opens ne single inside closes
    have hdrop : (mark :: (content ++ close :: (used ++ rest))).drop (content.length + 2) =
        used ++ rest := by
      rw [List.drop_succ_cons, ← List.drop_drop, List.drop_left]
      rfl
    rw [List.cons_append, List.append_assoc, List.cons_append, tokenizeFrom_of_read hread, hdrop,
      ih]
    rw [show start + (content.length + 2) + used.length =
      start + (mark :: (content ++ close :: used)).length by simp; omega]
    cases tokenizeFrom marks (start + (mark :: (content ++ close :: used)).length) rest <;> rfl

lemma exists_first (p : Char → Bool) (text : List Char) :
    ∃ front tail, text = front ++ tail ∧ (∀ c ∈ front, p c = false) ∧
      ∀ c ∈ tail.head?, p c = true := by
  induction text with
  | nil => exact ⟨[], [], rfl, by simp, by simp⟩
  | cons c text ih =>
    by_cases hc : p c = true
    · exact ⟨[], c :: text, rfl, by simp, by simpa using hc⟩
    · obtain ⟨front, tail, rfl, hfront, htail⟩ := ih
      have hc' : p c = false := by simpa using hc
      exact ⟨c :: front, tail, rfl, List.forall_mem_cons.mpr ⟨hc', hfront⟩, htail⟩

/-- Either no segment can be cut off the front of a text, or a slice of it is one. -/
lemma stuck_or_slice (marks : Delimiters) (c : Char) (rest : List Char) :
    (∀ start, ∃ error, Stuck marks start (c :: rest) error) ∨
    ∃ slice tail segment, c :: rest = slice ++ tail ∧ slice ≠ [] ∧
      ∀ used behind segments, tail = used ++ behind → Cuts marks behind used segments →
        Cuts marks behind (slice ++ used) (segment :: segments) := by
  by_cases hc : marks.opens c = true
  · by_cases hnext : rest.head?.any marks.opens = true
    · obtain ⟨d, hd, hopens⟩ := (Option.any_eq_true _ _).mp hnext
      obtain ⟨tail, rfl⟩ := List.head?_eq_some_iff.mp hd
      exact .inr ⟨[c, d], tail, .literal marks.left, rfl, by simp,
        fun _ _ _ _ cuts => .literal hc hopens cuts⟩
    have hsingle : ∀ d ∈ rest.head?, marks.opens d = false := by
      intro d hd
      simpa [Option.mem_def.mp hd] using hnext
    obtain ⟨content, tail, rfl, hinside, hends⟩ := exists_first marks.closes rest
    cases tail with
    | nil =>
      rw [List.append_nil] at hsingle ⊢
      exact .inl fun start => ⟨_, .unterminated hc hsingle hinside⟩
    | cons close tail =>
      have hcloses : marks.closes close = true := hends close rfl
      cases content with
      | nil => exact .inl fun start => ⟨_, .emptyBracket hc (hsingle close rfl) hcloses⟩
      | cons d content =>
        refine .inr ⟨c :: (d :: content ++ [close]), tail, .bracketed (d :: content), by simp,
          by simp, fun used behind segments _ cuts => ?_⟩
        have h : Cuts marks behind (c :: (d :: content ++ close :: used))
            (.bracketed (d :: content) :: segments) :=
          .bracketed hc (by simp) (by simpa using hsingle) hinside hcloses cuts
        simpa using h
  · obtain ⟨run, tail, hsplit, hclear, hends⟩ := exists_first marks.opens (c :: rest)
    have hne : run ≠ [] := by
      rintro rfl
      rw [List.nil_append] at hsplit
      exact hc (hends c (by simp [← hsplit]))
    refine .inr ⟨run, tail, .plain run.length, hsplit, hne, ?_⟩
    rintro used behind segments rfl cuts
    exact .plain hne hclear hends cuts

/-- Every text is cut up to a place where it ends or where it is stuck. -/
theorem exists_cuts (marks : Delimiters) (text : List Char) :
    ∃ used rest segments, text = used ++ rest ∧ Cuts marks rest used segments ∧
      (rest = [] ∨ ∀ start, ∃ error, Stuck marks start rest error) := by
  induction hlen : text.length using Nat.strong_induction_on generalizing text with
  | _ size ih =>
    cases text with
    | nil => exact ⟨[], [], [], rfl, .done, .inl rfl⟩
    | cons c rest =>
      obtain hstuck | ⟨slice, tail, segment, htext, hne, hcut⟩ := stuck_or_slice marks c rest
      · exact ⟨[], c :: rest, [], rfl, .done, .inr hstuck⟩
      have hshort : tail.length < size := by
        have := List.length_pos_iff.mpr hne
        have := congrArg List.length htext
        rw [List.length_append] at this
        omega
      obtain ⟨used, behind, segments, rfl, hcuts, hend⟩ := ih tail.length hshort tail rfl
      exact ⟨slice ++ used, behind, segment :: segments, by rw [htext, List.append_assoc],
        hcut used behind segments rfl hcuts, hend⟩

/-- Reading succeeds with exactly the segments that the whole text is cut into. -/
theorem tokenizeFrom_eq_ok_iff {start : Nat} {text : List Char} {segments : List Segment} :
    tokenizeFrom marks start text = .ok segments ↔ Cuts marks [] text segments := by
  constructor
  · intro h
    obtain ⟨used, rest, cut, rfl, hcuts, rfl | hstuck⟩ := exists_cuts marks text
    · rw [tokenizeFrom_append start hcuts, tokenizeFrom] at h
      obtain rfl : cut = segments := by simpa [Except.map] using h
      simpa using hcuts
    · obtain ⟨error, herror⟩ := hstuck (start + used.length)
      rw [tokenizeFrom_append start hcuts, tokenizeFrom_stuck herror] at h
      cases h
  · intro h
    have hread := tokenizeFrom_append start h
    rw [List.append_nil] at hread
    simp [hread, tokenizeFrom, Except.map]

/-- Reading fails exactly at a place where the text, cut up to there, is stuck. -/
theorem tokenizeFrom_eq_error_iff {start : Nat} {text : List Char} {error : PatternError} :
    tokenizeFrom marks start text = .error error ↔
      ∃ used rest segments, text = used ++ rest ∧ Cuts marks rest used segments ∧
        Stuck marks (start + used.length) rest error := by
  constructor
  · intro h
    obtain ⟨used, rest, segments, rfl, hcuts, rfl | hstuck⟩ := exists_cuts marks text
    · rw [tokenizeFrom_append start hcuts, tokenizeFrom] at h
      cases h
    · obtain ⟨failure, hfailure⟩ := hstuck (start + used.length)
      rw [tokenizeFrom_append start hcuts, tokenizeFrom_stuck hfailure] at h
      obtain rfl : failure = error := by simpa [Except.map] using h
      exact ⟨used, rest, segments, rfl, hcuts, hfailure⟩
  · rintro ⟨used, rest, segments, rfl, hcuts, hstuck⟩
    rw [tokenizeFrom_append start hcuts, tokenizeFrom_stuck hstuck]
    rfl

namespace Cuts

/-- Cuts do not depend on what stands behind them, as long as it goes on with an opening mark. -/
theorem change_rest {rest other used : List Char} {segments : List Segment}
    (h : Cuts marks rest used segments) (hother : ∀ c ∈ other.head?, marks.opens c = true) :
    Cuts marks other used segments := by
  induction h with
  | done => exact .done
  | @plain run used segments ne clear ends _ ih =>
    refine .plain ne clear ?_ ih
    cases used with
    | nil => exact hother
    | cons d used => exact ends
  | literal opens again _ ih => exact .literal opens again ih
  | bracketed opens ne single inside closes _ ih =>
    exact .bracketed opens ne single inside closes ih

/-- The segments stand for all characters that they were cut from. -/
theorem covered_eq {rest used : List Char} {segments : List Segment}
    (h : Cuts marks rest used segments) :
    covered segments = used.length := by
  induction h with
  | done => rfl
  | plain _ _ _ _ ih => simp [covered, Segment.sourceLength, ih]
  | literal _ _ _ ih => simp [covered, Segment.sourceLength, ih]; omega
  | bracketed _ _ _ _ _ _ ih => simp [covered, Segment.sourceLength, ih]; omega

end Cuts

lemma covered_eq_sum (segments : List Segment) :
    covered segments = (segments.map Segment.sourceLength).sum := by
  induction segments with
  | nil => rfl
  | cons segment rest ih => rw [covered, List.map_cons, List.sum_cons, ih]

/-- Reading fails exactly where the text is stuck behind a front that can be read alone. -/
theorem tokenize_eq_error_iff {text : List Char} {error : PatternError} :
    tokenize marks text = .error error ↔
      ∃ opened, (∃ segments, tokenize marks (text.take opened) = .ok segments) ∧
        Stuck marks opened (text.drop opened) error := by
  constructor
  · intro h
    obtain ⟨used, rest, segments, rfl, hcuts, hstuck⟩ := tokenizeFrom_eq_error_iff.mp h
    rw [Nat.zero_add] at hstuck
    refine ⟨used.length, ⟨segments, ?_⟩, ?_⟩
    · rw [List.take_left]
      exact tokenizeFrom_eq_ok_iff.mpr (hcuts.change_rest (by simp))
    · rwa [List.drop_left]
  · rintro ⟨opened, ⟨segments, hread⟩, hstuck⟩
    have hlength : opened < text.length := by
      by_contra hle
      rw [List.drop_eq_nil_of_le (Nat.not_lt.mp hle)] at hstuck
      cases hstuck
    have hcuts := (tokenizeFrom_eq_ok_iff.mp hread).change_rest hstuck.head_opens
    apply tokenizeFrom_eq_error_iff.mpr
    refine ⟨text.take opened, text.drop opened, segments, (List.take_append_drop ..).symm, hcuts,
      ?_⟩
    rwa [List.length_take_of_le hlength.le, Nat.zero_add]

end TintedText
