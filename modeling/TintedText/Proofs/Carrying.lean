import Mathlib
import TintedText.Buffer

/-!
# Where spans are carried by edits

A buffer is looked at through its visible spans: an edit moves their bounds and leaves out the ones
that are then empty. Since bounds keep their order, leaving out early loses nothing
(`carry_carry`), and a run of edits is one move of all bounds. Deletions move a bound by the number
of deleted positions before it (`afterDropping`).
-/
namespace TintedText

namespace Span

variable {Style : Type}

/-- The spans with all bounds moved, without the ones that are then empty. -/
def carry (f : Int → Int) (spans : List (Span Style)) : List (Span Style) :=
  (spans.map (·.move f)).filter (·.isVisible)

lemma isVisible_iff {span : Span Style} : span.isVisible = true ↔ span.start < span.stop := by
  simp [isVisible]

lemma isVisible_move {f : Int → Int} {span : Span Style} :
    (span.move f).isVisible = true ↔ f span.start < f span.stop :=
  isVisible_iff

/-- A span that is empty or inverted never becomes visible by a move that keeps the order. -/
lemma isVisible_of_move {f : Int → Int} (hf : Monotone f) {span : Span Style}
    (h : (span.move f).isVisible = true) : span.isVisible = true :=
  isVisible_iff.mpr (hf.reflect_lt (isVisible_move.mp h))

lemma carry_id (spans : List (Span Style)) : carry id spans = spans.filter (·.isVisible) := by
  have h : (fun span : Span Style => span.move id) = id := rfl
  rw [carry, h, List.map_id]

/-- Spans that are not visible do not matter to a later move. -/
lemma carry_filter {f : Int → Int} (hf : Monotone f) (spans : List (Span Style)) :
    carry f (spans.filter (·.isVisible)) = carry f spans := by
  induction spans with
  | nil => rfl
  | cons span spans ih =>
    simp only [carry] at ih ⊢
    by_cases h : span.isVisible = true
    · simp [h, List.filter_cons, ih]
    · have hmove : ¬ (span.move f).isVisible = true := fun hmove => h (isVisible_of_move hf hmove)
      simp [h, hmove, ih]

/-- Two moves are one; what the first one leaves out the second one would have left out. -/
theorem carry_carry {f g : Int → Int} (hf : Monotone f) (spans : List (Span Style)) :
    carry f (carry g spans) = carry (f ∘ g) spans := by
  rw [carry.eq_def g, carry_filter hf, carry, List.map_map]
  rfl

/-- Moved bounds lie up to `now` exactly when they lay up to `before`: a character that was at the
one position and is now at the other has every bound on the same side of it as before. -/
def Follows (f : Int → Int) (before now : Int) : Prop :=
  ∀ bound, f bound ≤ now ↔ bound ≤ before

namespace Follows

variable {f g : Int → Int} {before now later : Int}

lemma refl (position : Int) : Follows id position position :=
  fun _ => Iff.rfl

lemma trans (hf : Follows f before now) (hg : Follows g now later) :
    Follows (g ∘ f) before later := by
  intro bound
  rw [Function.comp_apply, hg, hf]

/-- A span covers the character before and after, or at neither time. -/
theorem covers_move (h : Follows f before now) (span : Span Style) :
    (span.move f).covers now = span.covers before := by
  unfold covers move
  have hstop : now < f span.stop ↔ before < span.stop := by
    rw [← Int.not_le, h, Int.not_le]
  simp only [h span.start, hstop]

/-- The spans over the character are those that were over it, moved, in their order. -/
theorem filter_carry (h : Follows f before now) (spans : List (Span Style)) :
    (carry f spans).filter (·.covers now) = (spans.filter (·.covers before)).map (·.move f) := by
  unfold carry
  have hvisible : ∀ span : Span Style, (span.covers now && span.isVisible) = span.covers now := by
    intro span
    cases hcovers : span.covers now with
    | true => exact isVisible_of_covers hcovers
    | false => rfl
  rw [List.filter_filter]
  simp only [hvisible]
  rw [List.filter_map]
  exact congrArg (List.map _) (List.filter_congr fun span _ => h.covers_move span)

/-- So the character keeps its styles. -/
lemma styles_carry (h : Follows f before now) (spans : List (Span Style)) :
    ((carry f spans).filter (·.covers now)).map (·.style) =
      (spans.filter (·.covers before)).map (·.style) := by
  rw [h.filter_carry, List.map_map]
  rfl

end Follows

end Span

namespace Buffer

lemma movedBound_mono {start stop size : Int} (hsize : 0 ≤ size) :
    Monotone (movedBound start stop size) := by
  intro first second hle
  simp only [movedBound]
  split_ifs <;> omega

lemma replace_middle {buffer : Buffer} {before region behind : List Char} {start stop : Int}
    (htext : buffer.text = before ++ region ++ behind) (hstart : start = before.length)
    (hstop : stop = before.length + region.length) (replacement : List Char) :
    ∃ after, buffer.replace start stop replacement = .ok after ∧
      after.text = before ++ replacement ++ behind ∧
      after.visibleSpans =
        Span.carry (movedBound start stop replacement.length) buffer.visibleSpans := by
  have hbounds : 0 ≤ start ∧ start ≤ stop ∧ stop ≤ buffer.text.length := by
    simp only [htext, List.length_append]
    omega
  have hmono : Monotone (movedBound start stop replacement.length) :=
    movedBound_mono (Int.natCast_nonneg _)
  refine ⟨_, if_pos hbounds, ?_, ?_⟩
  · have hfrom : start.toNat = before.length := by omega
    have hto : stop.toNat = (before ++ region).length := by rw [List.length_append]; omega
    simp only [htext, hfrom, hto, List.drop_left]
    rw [List.append_assoc before region, List.take_left]
  · simp only [visibleSpans]
    rw [Span.carry_filter hmono, List.filter_filter]
    simp [Span.carry]

lemma delete_middle {buffer : Buffer} {before behind : List Char} {c : Char} {index : Int}
    (htext : buffer.text = before ++ c :: behind) (hindex : index = before.length) :
    ∃ after, buffer.delete index 1 = .ok after ∧ after.text = before ++ behind ∧
      after.visibleSpans = Span.carry (movedBound index (index + 1) 0) buffer.visibleSpans := by
  have htext' : buffer.text = before ++ [c] ++ behind := by simpa using htext
  have hstop : index + 1 = before.length + [c].length := by simp [hindex]
  obtain ⟨after, hreplace, hafter, hspans⟩ := replace_middle htext' hindex hstop []
  exact ⟨after, hreplace, by simpa using hafter, hspans⟩

end Buffer

/-- Where a position goes when the dropped positions are taken out of the text. -/
def afterDropping (dropped : List Int) (position : Int) : Int :=
  position - dropped.countP fun d => decide (d < position)

section afterDropping

variable {dropped first second : List Int}

@[simp] lemma afterDropping_nil : afterDropping [] = id := by
  ext position
  simp [afterDropping]

lemma afterDropping_succ (dropped : List Int) (position : Int) :
    afterDropping dropped (position + 1) =
      afterDropping dropped position + 1 - dropped.count position := by
  have hcount : dropped.countP (fun d => decide (d < position + 1)) =
      dropped.countP (fun d => decide (d < position)) + dropped.count position := by
    induction dropped with
    | nil => rfl
    | cons d dropped ih =>
      simp only [List.countP_cons, List.count_cons, ih, decide_eq_true_eq, beq_iff_eq]
      split_ifs <;> omega
  unfold afterDropping
  rw [hcount]
  omega

/-- Positions keep their order when each dropped one is dropped once. -/
theorem afterDropping_mono (h : dropped.Nodup) : Monotone (afterDropping dropped) := by
  refine monotone_int_of_le_succ fun position => ?_
  have hcount := List.nodup_iff_count_le_one.mp h position
  rw [afterDropping_succ]
  omega

lemma countP_of_lt {position : Int} (h : ∀ d ∈ dropped, d < position) :
    dropped.countP (fun d => decide (d < position)) = dropped.length :=
  List.countP_eq_length.mpr fun d hd => by simpa using h d hd

lemma countP_of_le {position : Int} (h : ∀ d ∈ dropped, position ≤ d) :
    dropped.countP (fun d => decide (d < position)) = 0 :=
  List.countP_eq_zero.mpr fun d hd => by simpa using h d hd

/-- Behind all dropped positions everything moves by their number. -/
lemma afterDropping_of_lt {position : Int} (h : ∀ d ∈ dropped, d < position) :
    afterDropping dropped position = position - dropped.length := by
  rw [afterDropping, countP_of_lt h]

lemma afterDropping_of_le {position : Int} (h : ∀ d ∈ dropped, position ≤ d) :
    afterDropping dropped position = position := by
  rw [afterDropping, countP_of_le h]
  omega

lemma afterDropping_append_left {position : Int} (h : ∀ d ∈ second, position ≤ d) :
    afterDropping (first ++ second) position = afterDropping first position := by
  unfold afterDropping
  rw [List.countP_append, countP_of_le h, Nat.add_zero]

lemma afterDropping_append_right {position : Int} (h : ∀ d ∈ first, d < position) :
    afterDropping (first ++ second) position =
      afterDropping second position - first.length := by
  unfold afterDropping
  rw [List.countP_append, countP_of_lt h]
  omega

lemma afterDropping_map_add (dropped : List Int) (shift position : Int) :
    afterDropping (dropped.map (· + shift)) (position + shift) =
      afterDropping dropped position + shift := by
  unfold afterDropping
  simp only [List.countP_map, Function.comp_def, Int.add_lt_add_iff_right]
  omega

/-- Positions are dropped in two rounds; the second one finds its positions moved already. -/
theorem afterDropping_append (hfirst : first.Nodup)
    (horder : ∀ a ∈ first, ∀ b ∈ second, a < b) :
    afterDropping (second.map (· - (first.length : Int))) ∘ afterDropping first =
      afterDropping (first ++ second) := by
  ext position
  have hiff : ∀ b ∈ second,
      (b - first.length < afterDropping first position ↔ b < position) := by
    intro b hb
    have hb' := afterDropping_of_lt fun a ha => horder a ha b hb
    constructor
    · intro hlt
      by_contra hle
      have := afterDropping_mono hfirst (Int.not_lt.mp hle)
      omega
    · intro hlt
      rw [afterDropping_of_lt fun a ha => (horder a ha b hb).trans hlt]
      omega
  have hcount : (second.map (· - (first.length : Int))).countP
      (fun d => decide (d < afterDropping first position)) =
        second.countP (fun d => decide (d < position)) := by
    rw [List.countP_map]
    exact List.countP_congr fun b hb => by simpa using hiff b hb
  rw [Function.comp_apply, afterDropping, hcount, afterDropping, afterDropping, List.countP_append]
  omega

lemma movedBound_delete (index : Int) :
    Buffer.movedBound index (index + 1) 0 = afterDropping [index] := by
  ext position
  simp only [Buffer.movedBound, afterDropping, List.countP_singleton, decide_eq_true_eq]
  split_ifs <;> omega

/-- Two characters that become one lose the second one. -/
lemma movedBound_contract (index : Int) :
    Buffer.movedBound index (index + 2) 1 = afterDropping [index + 1] := by
  ext position
  simp only [Buffer.movedBound, afterDropping, List.countP_singleton, decide_eq_true_eq]
  split_ifs <;> omega

end afterDropping

/-- Two characters are deleted, the later one first, so that the other one is still in place. -/
lemma Buffer.delete_around {buffer : Buffer} {before inner behind : List Char} {c d : Char}
    {index : Int} (htext : buffer.text = before ++ c :: (inner ++ d :: behind))
    (hindex : index = before.length) :
    ∃ middle after, buffer.delete (index + inner.length + 1) 1 = .ok middle ∧
      middle.delete index 1 = .ok after ∧ after.text = before ++ inner ++ behind ∧
      after.visibleSpans = Span.carry (afterDropping [index, index + inner.length + 1])
        buffer.visibleSpans := by
  have hlast : buffer.text = (before ++ c :: inner) ++ d :: behind := by simpa using htext
  have hsecond : index + inner.length + 1 = (before ++ c :: inner).length := by
    simp only [List.length_append, List.length_cons]
    omega
  obtain ⟨middle, hmiddle, htext₁, hspans₁⟩ := delete_middle hlast hsecond
  have hfirst : middle.text = before ++ c :: (inner ++ behind) := by simpa using htext₁
  obtain ⟨after, hafter, htext₂, hspans₂⟩ := delete_middle hfirst hindex
  refine ⟨middle, after, hmiddle, hafter, by rw [htext₂, List.append_assoc], ?_⟩
  have hboth : afterDropping [index] ∘ afterDropping [index + inner.length + 1] =
      afterDropping [index, index + inner.length + 1] := by
    ext position
    simp only [Function.comp_apply, afterDropping, List.countP_cons, List.countP_nil,
      decide_eq_true_eq]
    split_ifs <;> omega
  rw [hspans₂, hspans₁, movedBound_delete, movedBound_delete,
    Span.carry_carry (afterDropping_mono (List.nodup_singleton _)), hboth]

end TintedText
