import TintedText.Proofs.Output

/-!
# The colours of the output

Each segment gives its colour to all characters that it leaves. The colour ranges say the same: the
search for a position finds the colour of the segment that the position belongs to, and none where a
literal mark stands (`searchColor_ranges`).
-/
namespace TintedText

open StyledText

namespace ColorRange

variable {range : ColorRange} {position : Int}

lemma contains_eq_true_iff :
    range.contains position = true ↔ range.start ≤ position ∧ position < range.stop := by
  simp [contains]

lemma contains_eq_false_of_lt (h : position < range.start) : range.contains position = false := by
  rw [← Bool.not_eq_true, contains_eq_true_iff]
  omega

lemma contains_eq_false_of_le (h : range.stop ≤ position) : range.contains position = false := by
  rw [← Bool.not_eq_true, contains_eq_true_iff]
  omega

end ColorRange

variable {config : Config} {segments : List Segment}

/-- The colours of all characters of the output. -/
def colors (config : Config) (segments : List Segment) : List (Option Int) :=
  segments.flatMap fun segment =>
    List.replicate segment.outputLength.toNat (segment.color? config)

lemma colors_cons (segment : Segment) :
    colors config (segment :: segments) =
      List.replicate segment.outputLength.toNat (segment.color? config) ++
        colors config segments := rfl

lemma le_of_mem_layoutFrom (hdraw : ∀ segment ∈ segments, segment.IsDrawable) {cursor : Int}
    {placed : Int × Segment} (h : placed ∈ layoutFrom cursor segments) : cursor ≤ placed.1 := by
  induction segments generalizing cursor with
  | nil => cases h
  | cons segment rest ih =>
    rw [layoutFrom, List.mem_cons] at h
    obtain rfl | h := h
    · exact le_rfl
    · have hpos := Segment.outputLength_pos (hdraw segment (by simp))
      have := ih (fun s hs => hdraw s (by simp [hs])) h
      omega

lemma le_start_of_mem_ranges (hdraw : ∀ segment ∈ segments, segment.IsDrawable) {cursor : Int}
    {range : ColorRange} (h : range ∈ ranges config cursor segments) :
    cursor ≤ range.start := by
  obtain ⟨placed, hplaced, hrange⟩ := List.mem_filterMap.mp h
  obtain ⟨color, -, rfl⟩ := Option.map_eq_some_iff.mp hrange
  exact le_of_mem_layoutFrom hdraw hplaced

lemma searchColor_eq_none {position : Int} {found : List ColorRange}
    (h : ∀ range ∈ found, position < range.start) : searchColor position found = none := by
  cases found with
  | nil => rfl
  | cons range rest =>
    have hlt := h range (by simp)
    rw [searchColor, ColorRange.contains_eq_false_of_lt hlt, if_neg Bool.false_ne_true, if_pos hlt]

/-- The search for a position finds the colour of the character there. -/
theorem searchColor_ranges (config : Config) (hdraw : ∀ segment ∈ segments, segment.IsDrawable)
    (cursor : Int) (i : Nat) :
    searchColor (cursor + i) (ranges config cursor segments) =
      ((colors config segments)[i]?).join := by
  induction segments generalizing cursor i with
  | nil => simp [ranges, layoutFrom, searchColor, colors]
  | cons segment rest ih =>
    have hrest : ∀ s ∈ rest, s.IsDrawable := fun s hs => hdraw s (by simp [hs])
    have hpos := Segment.outputLength_pos (hdraw segment (by simp))
    rw [ranges_cons, colors_cons, Segment.range?]
    by_cases hi : i < segment.outputLength.toNat
    · -- the position belongs to the first segment
      rw [List.getElem?_append_left (by simpa using hi), List.getElem?_replicate, if_pos hi]
      cases segment.color? config with
      | none =>
        refine searchColor_eq_none fun range hrange => ?_
        have := le_start_of_mem_ranges hrest (by simpa using hrange)
        omega
      | some color =>
        have hin : (ColorRange.mk cursor (cursor + segment.outputLength) color).contains
            (cursor + i) = true :=
          ColorRange.contains_eq_true_iff.mpr ⟨by simp only; omega, by simp only; omega⟩
        simp [searchColor, hin]
    · obtain ⟨k, rfl⟩ : ∃ k, i = segment.outputLength.toNat + k :=
        ⟨i - segment.outputLength.toNat, by omega⟩
      have hposition : cursor + ((segment.outputLength.toNat + k : Nat) : Int) =
          cursor + segment.outputLength + k := by omega
      rw [List.getElem?_append_right (by simp), List.length_replicate, Nat.add_sub_cancel_left,
        hposition, ← ih hrest]
      cases segment.color? config with
      | none => rfl
      | some color =>
        have hout : (ColorRange.mk cursor (cursor + segment.outputLength) color).contains
            (cursor + segment.outputLength + k) = false :=
          ColorRange.contains_eq_false_of_le (by simp only; omega)
        have hbehind : ¬ cursor + segment.outputLength + k < cursor := by omega
        simp [searchColor, hout, hbehind]

theorem colorAt_rendered {source : List Char} (hdraw : ∀ segment ∈ segments, segment.IsDrawable)
    (spans : List (Span String)) {i : Nat} (hi : i < (outputs source segments).length) :
    (StyledText.mk (outputs source segments) (ranges config 0 segments) spans).colorAt i =
      .ok ((colors config segments)[i]?).join := by
  have hsearch := searchColor_ranges config hdraw 0 i
  rw [Int.zero_add] at hsearch
  rw [colorAt, if_pos ⟨by omega, Int.ofNat_lt.mpr hi⟩, hsearch]

end TintedText
