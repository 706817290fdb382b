import TintedText.Pattern
import TintedText.Proofs.Output

/-!
# Spans follow their characters

Rendering the segments of a pattern drops the marks, and one counting function says where all else
goes: a position moves by the number of dropped positions before it. The bounds of the spans move by
this function, and so do the kept characters; hence each of them keeps its styles
(`render_spans`).
-/
namespace TintedText

section afterDropping

variable {dropped : List Int}

lemma afterDropping_succ_of_notMem {position : Int} (h : position ∉ dropped) :
    afterDropping dropped (position + 1) = afterDropping dropped position + 1 := by
  rw [afterDropping_succ, List.count_eq_zero_of_not_mem h]
  omega

/-- A dropped position is where the one behind it goes. -/
lemma afterDropping_succ_of_mem (hdropped : dropped.Nodup) {position : Int}
    (h : position ∈ dropped) :
    afterDropping dropped (position + 1) = afterDropping dropped position := by
  rw [afterDropping_succ, List.count_eq_one_of_mem hdropped h]
  omega

lemma exists_kept (hnonneg : ∀ d ∈ dropped, 0 ≤ d) (size : Nat) :
    ∀ j : Nat, (j : Int) < afterDropping dropped size →
      ∃ i < size, (i : Int) ∉ dropped ∧ afterDropping dropped i = j := by
  induction size with
  | zero =>
    intro j hj
    rw [Int.natCast_zero, afterDropping_of_le hnonneg] at hj
    omega
  | succ size ih =>
    intro j hj
    by_cases hlt : (j : Int) < afterDropping dropped size
    · obtain ⟨i, hi, hkept⟩ := ih j hlt
      exact ⟨i, by omega, hkept⟩
    -- the last step of the count is one, so the last character is kept
    · rw [Int.natCast_succ, afterDropping_succ] at hj
      have hzero : dropped.count (size : Int) = 0 := by omega
      exact ⟨size, by omega, List.count_eq_zero.mp hzero, by omega⟩

namespace Span

variable {Style : Type}

/-- A kept character and all bounds keep to their sides of each other. -/
lemma follows_afterDropping (hdropped : dropped.Nodup) {position : Int}
    (hkept : position ∉ dropped) :
    Follows (afterDropping dropped) position (afterDropping dropped position) := by
  have hmono := afterDropping_mono hdropped
  have hsucc := afterDropping_succ_of_notMem hkept
  intro bound
  constructor
  · intro hle
    by_contra hlt
    have := hmono (show position + 1 ≤ bound by omega)
    omega
  · exact fun hle => hmono hle

lemma styles_carry (hdropped : dropped.Nodup) {position : Int} (hkept : position ∉ dropped)
    (spans : List (Span Style)) :
    ((carry (afterDropping dropped) spans).filter
        (·.covers (afterDropping dropped position))).map (·.style) =
      (spans.filter (·.covers position)).map (·.style) :=
  (follows_afterDropping hdropped hkept).styles_carry spans

end Span

end afterDropping

/-- The kept characters of the text are found in the output where the counting function says. -/
def Keeps (dropped : List Int) (text output : List Char) : Prop :=
  ∀ i < text.length, (i : Int) ∉ dropped →
    ∃ j : Nat, afterDropping dropped i = j ∧ output[j]? = text[i]?

namespace Keeps

lemma append {first second : List Int} {text₁ text₂ output₁ output₂ : List Char}
    (h₁ : Keeps first text₁ output₁) (h₂ : Keeps second text₂ output₂)
    (hfirst : ∀ d ∈ first, d < text₁.length) (hsecond : ∀ d ∈ second, 0 ≤ d)
    (hlength : (output₁.length : Int) = text₁.length - first.length) :
    Keeps (first ++ second.map (· + (text₁.length : Int))) (text₁ ++ text₂)
      (output₁ ++ output₂) := by
  intro i hi hkept
  rw [List.mem_append, not_or] at hkept
  by_cases hlt : i < text₁.length
  · obtain ⟨j, hj, hget⟩ := h₁ i hlt hkept.1
    have hbehind : ∀ d ∈ second.map (· + (text₁.length : Int)), (i : Int) ≤ d := by
      intro d hd
      obtain ⟨e, he, rfl⟩ := List.mem_map.mp hd
      have := hsecond e he
      omega
    have hj' : j < output₁.length := by
      by_contra hge
      rw [List.getElem?_eq_none (by omega), List.getElem?_eq_getElem hlt] at hget
      cases hget
    refine ⟨j, by rw [afterDropping_append_left hbehind, hj], ?_⟩
    rw [List.getElem?_append_left hj', List.getElem?_append_left hlt, hget]
  · obtain ⟨k, rfl⟩ : ∃ k, i = k + text₁.length := ⟨i - text₁.length, by omega⟩
    have hk : k < text₂.length := by
      rw [List.length_append] at hi
      omega
    have hkept' : (k : Int) ∉ second := fun hmem =>
      hkept.2 (List.mem_map.mpr ⟨k, hmem, (Int.natCast_add ..).symm⟩)
    obtain ⟨j, hj, hget⟩ := h₂ k hk hkept'
    have hfront : ∀ d ∈ first, d < (k : Int) + text₁.length := by
      intro d hd
      have := hfirst d hd
      omega
    refine ⟨j + output₁.length, ?_, ?_⟩
    · rw [Int.natCast_add, afterDropping_append_right hfront, afterDropping_map_add, hj]
      omega
    · rw [List.getElem?_append_right (by omega), List.getElem?_append_right (by omega),
        Nat.add_sub_cancel, Nat.add_sub_cancel, hget]

lemma cons {segment : Segment} {segments : List Segment} {slice used : List Char}
    (hdraw : ∀ s ∈ segment :: segments, s.IsDrawable)
    (hslice : (slice.length : Int) = segment.sourceLength)
    (hkeeps : Keeps (segment.dropped 0) slice (segment.output slice))
    (ih : Keeps (dropped 0 segments) used (outputs used segments)) :
    Keeps (dropped 0 (segment :: segments)) (slice ++ used)
      (outputs (slice ++ used) (segment :: segments)) := by
  have hfirst : segment.IsDrawable := hdraw segment (by simp)
  have hrest : ∀ s ∈ segments, s.IsDrawable := fun s hs => hdraw s (by simp [hs])
  rw [dropped, dropped_add, outputs_cons segments hslice, ← hslice]
  refine hkeeps.append ih (fun d hd => ?_) (fun d hd => (mem_dropped hrest hd).1) ?_
  · have := (Segment.mem_dropped hd).2
    omega
  · rw [Segment.length_output hfirst hslice, segment.outputLength_eq 0, hslice]

end Keeps

namespace Cuts

variable {marks : Delimiters} {rest used : List Char} {segments : List Segment}

/-- The kept characters of a text that was read are found in the output. -/
theorem keeps (h : Cuts marks rest used segments) :
    Keeps (dropped 0 segments) used (outputs used segments) := by
  induction h with
  | done => exact fun i hi => absurd hi (Nat.not_lt_zero i)
  | @plain run used segments ne clear ends cuts ih =>
    refine Keeps.cons (Cuts.plain ne clear ends cuts).isDrawable rfl ?_ ih
    exact fun i _ _ => ⟨i, rfl, rfl⟩
  | @literal first second used segments opens again cuts ih =>
    rw [show first :: second :: used = [first, second] ++ used from rfl]
    refine Keeps.cons (Cuts.literal opens again cuts).isDrawable rfl ?_ ih
    rw [Segment.output, Delimiters.opens_iff.mp opens]
    intro i hi hkept
    cases i with
    | zero => exact ⟨0, rfl, rfl⟩
    | succ i =>
      have hi : i = 0 := by
        simp only [List.length_cons, List.length_nil] at hi
        omega
      simp [Segment.dropped, hi] at hkept
  | @bracketed mark close content used segments opens ne single inside closes cuts ih =>
    rw [show mark :: (content ++ close :: used) = (mark :: (content ++ [close])) ++ used by simp]
    refine Keeps.cons (Cuts.bracketed opens ne single inside closes cuts).isDrawable
      (Segment.length_bracket mark close content) ?_ ih
    rw [Segment.output_bracket]
    intro i hi hkept
    simp only [Segment.dropped, List.mem_cons, List.not_mem_nil, or_false, not_or] at hkept
    obtain ⟨k, rfl⟩ := Nat.exists_eq_succ_of_ne_zero (show i ≠ 0 by omega)
    have hk : k < content.length := by
      simp only [List.length_cons, List.length_append, List.length_nil] at hi
      omega
    refine ⟨k, ?_, ?_⟩
    · simp only [afterDropping, Segment.dropped, List.countP_cons, List.countP_nil,
        decide_eq_true_eq]
      split_ifs <;> omega
    · rw [List.getElem?_cons_succ, List.getElem?_append_left hk]

end Cuts

/-- The style of a whole pattern stays first and goes over the whole output. -/
lemma head_carry_ofStyled {raw : List Char} {base : String} {carried : List (Span String)}
    {segments : List Segment} (hbase : base ≠ "")
    (hdraw : ∀ segment ∈ segments, segment.IsDrawable)
    (hcover : covered segments =
      (Pattern.ofStyled raw base carried).text.length)
    (hne : outputs (Pattern.ofStyled raw base carried).text segments ≠ []) :
    (Span.carry (afterDropping (dropped 0 segments))
        (Pattern.ofStyled raw base carried).spans).head? =
      some ⟨0, (outputs (Pattern.ofStyled raw base carried).text segments).length, base⟩ := by
  have hlength := length_outputs hdraw hcover 0
  have hpos := List.length_pos_iff.mpr hne
  have hstart : afterDropping (dropped 0 segments) 0 = 0 :=
    afterDropping_of_le fun d hd => (mem_dropped hdraw hd).1
  have hstop : afterDropping (dropped 0 segments) (Pattern.ofStyled raw base carried).text.length =
      (outputs (Pattern.ofStyled raw base carried).text segments).length := by
    rw [afterDropping_of_lt fun d hd => ?_, hlength]
    have := (mem_dropped hdraw hd).2
    omega
  have hspans : (Pattern.ofStyled raw base carried).spans =
      ⟨0, (Pattern.ofStyled raw base carried).text.length, base⟩ :: carried := by
    simp [Pattern.ofStyled, hbase]
  rw [hspans, Span.carry, List.map_cons, Span.move, hstart, hstop, List.filter_cons_of_pos]
  · rfl
  · exact Span.isVisible_iff.mpr (by simpa using hpos)

/-- The spans of a text that is rendered are moved by the number of dropped positions before each
bound, and those that are then empty are left out. So each character of the output has the styles
that it had in the text, in their order; the style of a whole pattern comes first and goes over the
whole output. -/
theorem render_spans (config : Config) {marks : Delimiters} {text : List Char}
    {segments : List Segment} (spans : List (Span String))
    (h : tokenize marks text = .ok segments) :
    ∃ styled, render config text segments spans = .ok styled ∧
      (dropped 0 segments).Nodup ∧
      styled.spans = (spans.map fun span => Span.mk (afterDropping (dropped 0 segments) span.start)
        (afterDropping (dropped 0 segments) span.stop) span.style).filter
          (fun span => span.start < span.stop) ∧
      (∀ i < text.length, (i : Int) ∉ dropped 0 segments →
        ∃ j : Nat, afterDropping (dropped 0 segments) i = j ∧ styled.text[j]? = text[i]? ∧
          (styled.spans.filter (·.covers j)).map (·.style) =
            (spans.filter (·.covers i)).map (·.style)) ∧
      (∀ j < styled.text.length, ∃ i < text.length, (i : Int) ∉ dropped 0 segments ∧
        afterDropping (dropped 0 segments) i = j) ∧
      (∀ raw base carried, base ≠ "" → text = (Pattern.ofStyled raw base carried).text →
        spans = (Pattern.ofStyled raw base carried).spans → styled.text ≠ [] →
          styled.spans.head? = some ⟨0, styled.text.length, base⟩) := by
  have hcuts := tokenizeFrom_eq_ok_iff.mp h
  have hdraw := hcuts.isDrawable
  have hcover := hcuts.covered_eq
  have hnodup := dropped_nodup hdraw 0
  refine ⟨_, render_eq_ok config hdraw hcover spans, hnodup, rfl, ?_, ?_, ?_⟩
  · intro i hi hkept
    obtain ⟨j, hj, hget⟩ := hcuts.keeps i hi hkept
    refine ⟨j, hj, hget, ?_⟩
    rw [← hj]
    exact Span.styles_carry hnodup hkept spans
  · intro j hj
    refine exists_kept (fun d hd => (mem_dropped hdraw hd).1) text.length j ?_
    rw [afterDropping_of_lt fun d hd => ?_, ← length_outputs hdraw hcover 0]
    · exact Int.ofNat_lt.mpr hj
    · have := (mem_dropped hdraw hd).2
      omega
  · rintro raw base carried hbase rfl rfl hne
    exact head_carry_ofStyled hbase hdraw hcover hne

/-- Two spans lose all that they cover, and one that started before the text still does. -/
theorem render_spans_escape :
    tokenize (.ofChars '<' '>') ['a', '<', '<', 'b', '<', 'c', '>'] =
        .ok [.plain 1, .literal ['<'], .plain 1, .bracketed ['c']] ∧
      ∃ styled, render {} ['a', '<', '<', 'b', '<', 'c', '>']
          [.plain 1, .literal ['<'], .plain 1, .bracketed ['c']]
          [⟨-1, 3, "bold"⟩, ⟨2, 3, "dim"⟩, ⟨4, 7, "red"⟩, ⟨5, 1, "blue"⟩] = .ok styled ∧
        styled.spans = [⟨-1, 2, "bold"⟩, ⟨3, 4, "red"⟩] := by
  have h : tokenize (.ofChars '<' '>') ['a', '<', '<', 'b', '<', 'c', '>'] =
      .ok [.plain 1, .literal ['<'], .plain 1, .bracketed ['c']] := by
    cbv
  obtain ⟨styled, hrender, -, hspans, -⟩ := render_spans {}
    [⟨-1, 3, "bold"⟩, ⟨2, 3, "dim"⟩, ⟨4, 7, "red"⟩, ⟨5, 1, "blue"⟩] h
  refine ⟨h, styled, hrender, hspans.trans ?_⟩
  decide

end TintedText
