import TintedText.Proofs.Inking

/-!
# Looks laid over each other

When looks are laid over each other, the last one that says something of an attribute or of an ink
decides it (`foldl_above`); an attribute that none of them switches off is on if any of them has it
(`switch_layered_eq_true_iff`). A character of a formatted pattern has the looks of the spans that
cover it in this way, as far as the console knows their styles, and the ink of its colour on top
(`lookAt_ofStyled_tinted`).
-/
namespace TintedText

namespace Look

/-- The look of looks laid over each other, the last one on top. -/
def layered (looks : List Look) : Look where
  switch := fun a => (looks.filterMap (·.switch a)).getLast?
  ink := (looks.filterMap (·.ink)).getLast?
  ground := (looks.filterMap (·.ground)).getLast?

/-- The same looks with a colour on top, which leaves their ink alone when it is transparent. -/
def tinted (color : Option Int) (looks : List Look) : Look :=
  { layered looks with ink := ((color.bind Color.ink?).map .rgb).or (layered looks).ink }

variable {looks : List Look} {a : Attribute}

lemma layered_concat (looks : List Look) (top : Look) :
    layered (looks ++ [top]) = top.above (layered looks) := by
  have hlast : ∀ {α : Type} (f : Look → Option α),
      ((looks ++ [top]).filterMap f).getLast? = (f top).or (looks.filterMap f).getLast? := by
    intro α f
    rw [List.filterMap_append, List.getLast?_append]
    cases hf : f top <;> simp [hf]
  simp only [layered, above, hlast]

theorem foldl_above (looks : List Look) :
    looks.foldl (fun look next => next.above look) {} = layered looks := by
  induction looks using List.reverseRecOn with
  | nil => rfl
  | append_singleton looks top ih =>
    rw [List.foldl_append, ih, layered_concat]
    rfl

lemma above_plain (look : Look) : ({} : Look).above look = look := by
  simp only [above, Option.none_or]

theorem switch_layered_eq_true_iff (h : ∀ look ∈ looks, look.switch a ≠ some false) :
    (layered looks).switch a = some true ↔ ∃ look ∈ looks, look.switch a = some true := by
  constructor
  · exact fun hlast => List.mem_filterMap.mp (List.mem_of_getLast? hlast)
  · rintro ⟨look, hlook, hswitch⟩
    have hmem : true ∈ looks.filterMap (·.switch a) := List.mem_filterMap.mpr ⟨look, hlook, hswitch⟩
    obtain ⟨last, hlast⟩ := Option.isSome_iff_exists.mp
      (List.getLast?_isSome.mpr (List.ne_nil_of_mem hmem))
    obtain ⟨other, hother, hvalue⟩ := List.mem_filterMap.mp (List.mem_of_getLast? hlast)
    cases last with
    | true => exact hlast
    | false => exact absurd hvalue (h other hother)

end Look

/-- The looks of the spans that cover a position, as far as the console knows their styles. -/
def StyledText.looksAt (styled : StyledText) (console : Console) (position : Int) : List Look :=
  (styled.spans.filter (·.covers position)).filterMap fun span => console.look? span.style

namespace Overlay

variable {console : Console} {overlay : Overlay} {position : Int}

/-- A paint comes on top at the positions of the text that it is laid over. -/
lemma lookAt_lay (paint : Paint) {start stop : Int} (hstart : 0 ≤ start) (hstop : start < stop)
    (hposition : position < overlay.text.length) :
    (overlay.lay paint start stop).lookAt console position =
      if start ≤ position ∧ position < stop then
        (paint.look console).above (overlay.lookAt console position)
      else overlay.lookAt console position := by
  rw [lay_eq paint hstart hstop]
  unfold lookAt
  rw [List.filter_append, List.foldl_append]
  by_cases hcovers : start ≤ position ∧ position < stop
  · rw [if_pos (by omega), if_pos hcovers, List.filter_cons_of_pos (by simp [Span.covers]; omega)]
    rfl
  · rw [if_neg hcovers]
    split_ifs
    · rw [List.filter_cons_of_neg (by simp [Span.covers]; omega)]
      rfl
    · rfl

/-- So does a style; an unknown one has the plain look, and so has the empty name. -/
lemma lookAt_laySpan {span : Span String} (hstart : 0 ≤ span.start) (hstop : span.start < span.stop)
    (hposition : position < overlay.text.length) :
    (overlay.laySpan span).lookAt console position =
      if span.covers position then
        ((console.look? span.style).getD {}).above (overlay.lookAt console position)
      else overlay.lookAt console position := by
  unfold laySpan
  split_ifs with hempty hcovers hcovers
  · obtain hname : span.style = "" := String.isEmpty_iff.mp hempty
    rw [hname, console.look?_empty, Option.getD_some, Look.above_plain]
  · rfl
  · rw [lookAt_lay _ hstart hstop hposition, if_pos (by simpa [Span.covers] using hcovers)]
    rfl
  · rw [lookAt_lay _ hstart hstop hposition, if_neg (by simpa [Span.covers] using hcovers)]

lemma lookAt_foldl_laySpan {spans : List (Span String)}
    (h : ∀ span ∈ spans, 0 ≤ span.start ∧ span.start < span.stop)
    (hposition : position < overlay.text.length) :
    (spans.foldl laySpan overlay).lookAt console position =
      ((spans.filter (·.covers position)).filterMap fun span => console.look? span.style).foldl
        (fun look next => next.above look) (overlay.lookAt console position) := by
  induction spans generalizing overlay with
  | nil => rfl
  | cons span spans ih =>
    obtain ⟨hstart, hstop⟩ := h span (by simp)
    rw [List.foldl_cons, ih (fun other hother => h other (by simp [hother]))
      (by rwa [laySpan_text]), lookAt_laySpan hstart hstop hposition]
    split_ifs with hcovers
    · rw [List.filter_cons, if_pos hcovers]
      simp only [List.filterMap_cons]
      cases console.look? span.style with
      | none => rw [Option.getD_none, Look.above_plain]
      | some look => rw [Option.getD_some, List.foldl_cons]
    · rw [List.filter_cons, if_neg hcovers]

/-- A character is drawn with the known styles of the spans over it, one over the other, and with
its colour on top. -/
theorem lookAt_ofStyled_tinted (console : Console) {styled : StyledText} {last : Int}
    (horder : InOrder 0 last styled.ranges)
    (hspans : ∀ span ∈ styled.spans, 0 ≤ span.start ∧ span.start < span.stop)
    (hposition : position < (Text.dropControls styled.text).length) :
    (ofStyled styled).lookAt console position =
      .tinted (StyledText.searchColor position styled.ranges)
        (styled.looksAt console position) := by
  have hstyles : (styled.spans.foldl laySpan (ofText styled.text)).lookAt console position =
      .layered (styled.looksAt console position) :=
    (lookAt_foldl_laySpan hspans hposition).trans (Look.foldl_above _)
  rw [lookAt_ofStyled console horder hposition, hstyles, Look.tinted]
  cases (StyledText.searchColor position styled.ranges).bind Color.ink? with
  | none => rfl
  | some rgb =>
    simp only [Option.elim_some, Paint.look, Look.above, Option.map_some, Option.some_or,
      Option.none_or]

end Overlay

end TintedText
