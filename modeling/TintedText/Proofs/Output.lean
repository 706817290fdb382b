import TintedText.Proofs.Carrying
import TintedText.Proofs.Cutting
import TintedText.Rendering

/-!
# What segments leave in the output

Rendering edits a buffer segment by segment. The invariant is that the buffer is finished output
followed by source that has not been touched, and that the cursor is the length of the former. One
segment keeps it (`Segment.apply_spec`), hence so does a run over all of them (`applyAll_spec`), and
`render` has a closed form in the slices that the segments stand for (`render_eq_ok`).
-/
namespace TintedText

namespace Segment

/-- The segment can be applied to a text that has room for it. -/
def IsDrawable : Segment → Prop
  | plain length => 1 ≤ length
  | literal mark => mark.length = 1
  | bracketed content => content ≠ []

/-- What the segment leaves of its slice of the text. -/
def output (slice : List Char) : Segment → List Char
  | plain _ => slice
  | literal mark => mark
  | bracketed _ => slice.tail.dropLast

/-- The colour that the segment draws with. -/
def color? (config : Config) : Segment → Option Int
  | plain _ => some config.outer.toInt
  | literal _ => none
  | bracketed _ => some config.inner.toInt

/-- The colour range of the segment when its output starts at the cursor. -/
def range? (config : Config) (cursor : Int) (segment : Segment) : Option ColorRange :=
  (segment.color? config).map fun color => ⟨cursor, cursor + segment.outputLength, color⟩

/-- The positions that the segment takes out of a text in which its slice starts at `start`: both
marks of a bracket, and the second one of a doubled mark. -/
def dropped (start : Int) : Segment → List Int
  | plain _ => []
  | literal _ => [start + 1]
  | bracketed content => [start, start + content.length + 1]

lemma sourceLength_pos {segment : Segment} (h : segment.IsDrawable) : 0 < segment.sourceLength := by
  cases segment with
  | plain length => exact h
  | literal mark => simp [sourceLength]
  | bracketed content => simp only [sourceLength]; omega

lemma outputLength_pos {segment : Segment} (h : segment.IsDrawable) : 0 < segment.outputLength := by
  cases segment with
  | plain length => exact h
  | literal mark => simp [outputLength]
  | bracketed content => exact Int.natCast_pos.mpr (List.length_pos_iff.mpr h)

lemma length_output {segment : Segment} {slice : List Char} (h : segment.IsDrawable)
    (hslice : (slice.length : Int) = segment.sourceLength) :
    ((segment.output slice).length : Int) = segment.outputLength := by
  cases segment with
  | plain length => exact hslice
  | literal mark => exact congrArg Int.ofNat h
  | bracketed content =>
    simp only [sourceLength] at hslice
    simp only [output, outputLength, List.length_dropLast, List.length_tail]
    omega

lemma length_bracket (mark close : Char) (content : List Char) :
    ((mark :: (content ++ [close])).length : Int) = (bracketed content).sourceLength := by
  simp [sourceLength]
  omega

lemma output_bracket (mark close : Char) (content : List Char) :
    (bracketed content).output (mark :: (content ++ [close])) = content := by
  simp [output]

/-- A slice for a bracket is two marks with something of the content's length between them. -/
lemma exists_bracket {content slice : List Char}
    (h : (slice.length : Int) = (bracketed content).sourceLength) :
    ∃ mark inner close, slice = mark :: (inner ++ [close]) ∧ inner.length = content.length := by
  simp only [sourceLength] at h
  obtain ⟨mark, between, rfl⟩ : ∃ mark between, slice = mark :: between :=
    List.exists_cons_of_length_pos (by omega)
  rw [List.length_cons] at h
  have hne : between ≠ [] := by
    rintro rfl
    simp only [List.length_nil] at h
    omega
  refine ⟨mark, between.dropLast, between.getLast hne, ?_, ?_⟩
  · rw [List.dropLast_append_getLast]
  · rw [List.length_dropLast]
    omega

/-- The output is as much shorter as positions are dropped. -/
lemma outputLength_eq (segment : Segment) (start : Int) :
    segment.outputLength = segment.sourceLength - (segment.dropped start).length := by
  cases segment <;> simp [outputLength, sourceLength, dropped]

lemma dropped_nodup (segment : Segment) (start : Int) : (segment.dropped start).Nodup := by
  cases segment with
  | plain length => exact List.nodup_nil
  | literal mark => exact List.nodup_singleton _
  | bracketed content => simp [dropped]; omega

lemma mem_dropped {segment : Segment} {start d : Int} (h : d ∈ segment.dropped start) :
    start ≤ d ∧ d < start + segment.sourceLength := by
  cases segment with
  | plain length => simp [dropped] at h
  | literal mark => simp [dropped, sourceLength] at h ⊢; omega
  | bracketed content => simp [dropped, sourceLength] at h ⊢; omega

lemma dropped_add (segment : Segment) (start shift : Int) :
    segment.dropped (start + shift) = (segment.dropped start).map (· + shift) := by
  cases segment <;> simp [dropped] <;> omega

lemma ofBounds_eq_ok {start stop color : Int} (hstart : 0 ≤ start) (hstop : start < stop) :
    ColorRange.ofBounds start stop color = .ok ⟨start, stop, color⟩ :=
  if_pos ⟨hstart, hstop⟩

/-- Applying a segment right behind the finished output replaces its slice by its output. -/
theorem apply_spec (config : Config) {segment : Segment} {buffer : Buffer} {cursor : Int}
    {done slice rest : List Char} (hdraw : segment.IsDrawable)
    (hslice : (slice.length : Int) = segment.sourceLength)
    (htext : buffer.text = done ++ slice ++ rest) (hcursor : cursor = done.length) :
    ∃ after, segment.apply config cursor buffer = .ok (segment.range? config cursor, after) ∧
      after.text = done ++ segment.output slice ++ rest ∧
      after.visibleSpans =
        Span.carry (afterDropping (segment.dropped cursor)) buffer.visibleSpans := by
  have hpos := outputLength_pos hdraw
  cases segment with
  | plain length =>
    have hstop : cursor < cursor + length := by
      simp only [outputLength] at hpos
      omega
    have hrange : ColorRange.ofBounds cursor (cursor + length) config.outer.toInt =
        .ok ⟨cursor, cursor + length, config.outer.toInt⟩ := ofBounds_eq_ok (by omega) hstop
    refine ⟨buffer, ?_, htext, ?_⟩
    · simp only [apply, hrange]
      rfl
    · rw [dropped, afterDropping_nil, Span.carry_id, Buffer.visibleSpans, List.filter_filter]
      simp
  | literal mark =>
    have hone : mark.length = 1 := hdraw
    have hstop : cursor + 2 = done.length + slice.length := by
      rw [hslice, hcursor]
      rfl
    obtain ⟨after, hreplace, hafter, hspans⟩ := Buffer.replace_middle htext hcursor hstop mark
    refine ⟨after, ?_, hafter, ?_⟩
    · simp only [apply, hreplace]
      rfl
    · rw [hspans, hone, dropped, ← movedBound_contract]
      rfl
  | bracketed content =>
    obtain ⟨mark, inner, close, rfl, hinner⟩ := exists_bracket hslice
    have htext' : buffer.text = done ++ mark :: (inner ++ close :: rest) := by simpa using htext
    obtain ⟨middle, after, hclose, hopen, hafter, hspans⟩ := Buffer.delete_around htext' hcursor
    rw [hinner] at hclose hspans
    have hstop : cursor < cursor + content.length := by
      simp only [outputLength] at hpos
      omega
    have hrange : ColorRange.ofBounds cursor (cursor + content.length) config.inner.toInt =
        .ok ⟨cursor, cursor + content.length, config.inner.toInt⟩ :=
      ofBounds_eq_ok (by omega) hstop
    refine ⟨after, ?_, by simpa [output] using hafter, hspans⟩
    simp only [apply, hclose, Except.mapError, bind, Except.bind, hopen, hrange]
    rfl

end Segment

/-- What the segments leave of the text. -/
def outputs : List Char → List Segment → List Char
  | _, [] => []
  | text, segment :: rest =>
    segment.output (text.take segment.sourceLength.toNat) ++
      outputs (text.drop segment.sourceLength.toNat) rest

def ranges (config : Config) (cursor : Int) (segments : List Segment) : List ColorRange :=
  (layoutFrom cursor segments).filterMap fun placed => placed.2.range? config placed.1

/-- The positions that the segments take out of a text in which their slices begin at `start`. -/
def dropped (start : Int) : List Segment → List Int
  | [] => []
  | segment :: rest => segment.dropped start ++ dropped (start + segment.sourceLength) rest

lemma ranges_cons (config : Config) (cursor : Int) (segment : Segment) (rest : List Segment) :
    ranges config cursor (segment :: rest) =
      (segment.range? config cursor).toList ++
        ranges config (cursor + segment.outputLength) rest := by
  rw [ranges, layoutFrom, List.filterMap_cons]
  cases segment.range? config cursor <;> rfl

lemma outputs_cons {slice rest : List Char} {segment : Segment} (segments : List Segment)
    (h : (slice.length : Int) = segment.sourceLength) :
    outputs (slice ++ rest) (segment :: segments) =
      segment.output slice ++ outputs rest segments := by
  have hlength : segment.sourceLength.toNat = slice.length := by omega
  rw [outputs, hlength, List.take_left, List.drop_left]

lemma outputs_plain (run rest : List Char) (segments : List Segment) :
    outputs (run ++ rest) (.plain run.length :: segments) = run ++ outputs rest segments :=
  outputs_cons segments rfl

lemma outputs_literal (first second : Char) (mark rest : List Char) (segments : List Segment) :
    outputs (first :: second :: rest) (.literal mark :: segments) =
      mark ++ outputs rest segments := rfl

/-- Between its marks, a bracket that was read has the content that it says. -/
lemma outputs_bracketed (mark close : Char) (content rest : List Char) (segments : List Segment) :
    outputs (mark :: (content ++ close :: rest)) (.bracketed content :: segments) =
      content ++ outputs rest segments := by
  have h : outputs ((mark :: (content ++ [close])) ++ rest) (.bracketed content :: segments) =
      (Segment.bracketed content).output (mark :: (content ++ [close])) ++ outputs rest segments :=
    outputs_cons segments (Segment.length_bracket mark close content)
  rw [Segment.output_bracket] at h
  simpa using h

lemma dropped_add (start shift : Int) (segments : List Segment) :
    dropped (start + shift) segments = (dropped start segments).map (· + shift) := by
  induction segments generalizing start with
  | nil => rfl
  | cons segment rest ih =>
    rw [dropped, dropped, List.map_append, segment.dropped_add, ← ih]
    congr 2
    omega

lemma sourceLength_nonneg {segments : List Segment}
    (hdraw : ∀ segment ∈ segments, segment.IsDrawable) :
    ∀ segment ∈ segments, 0 ≤ segment.sourceLength :=
  fun segment hsegment => (Segment.sourceLength_pos (hdraw segment hsegment)).le

lemma covered_nonneg {segments : List Segment}
    (hnonneg : ∀ segment ∈ segments, 0 ≤ segment.sourceLength) : 0 ≤ covered segments := by
  induction segments with
  | nil => exact le_rfl
  | cons segment rest ih =>
    obtain ⟨hfirst, hrest⟩ := List.forall_mem_cons.mp hnonneg
    have := ih hrest
    rw [covered]
    omega

/-- The first of some segments that cover a source stands for a slice at its front. -/
lemma exists_slice {segment : Segment} {rest : List Segment} {source : List Char}
    (hnonneg : ∀ s ∈ segment :: rest, 0 ≤ s.sourceLength)
    (hcover : covered (segment :: rest) = source.length) :
    ∃ slice tail, source = slice ++ tail ∧ (slice.length : Int) = segment.sourceLength ∧
      covered rest = tail.length := by
  obtain ⟨hfirst, hrest⟩ := List.forall_mem_cons.mp hnonneg
  have hcovered := covered_nonneg hrest
  rw [covered] at hcover
  refine ⟨source.take segment.sourceLength.toNat, source.drop segment.sourceLength.toNat,
    (List.take_append_drop ..).symm, ?_, ?_⟩
  · rw [List.length_take]
    omega
  · rw [List.length_drop]
    omega

/-- The source is the slices of drawable segments, one after the other. -/
inductive Sliced : List Segment → List Char → Prop
  | nil : Sliced [] []
  | cons {segment : Segment} {segments : List Segment} {slice tail : List Char}
      (draw : segment.IsDrawable) (length_eq : (slice.length : Int) = segment.sourceLength)
      (rest : Sliced segments tail) : Sliced (segment :: segments) (slice ++ tail)

theorem sliced_of_covered {segments : List Segment} {source : List Char}
    (hdraw : ∀ segment ∈ segments, segment.IsDrawable)
    (hcover : covered segments = source.length) : Sliced segments source := by
  induction segments generalizing source with
  | nil =>
    have hnil : source = [] := by simpa [covered, eq_comm] using hcover
    rw [hnil]
    exact .nil
  | cons segment rest ih =>
    obtain ⟨slice, tail, rfl, hslice, hcover'⟩ :=
      exists_slice (sourceLength_nonneg hdraw) hcover
    exact .cons (hdraw segment (by simp)) hslice (ih (fun s hs => hdraw s (by simp [hs])) hcover')

theorem Sliced.isDrawable {segments : List Segment} {source : List Char}
    (h : Sliced segments source) : ∀ segment ∈ segments, segment.IsDrawable := by
  induction h with
  | nil => simp
  | cons draw _ _ ih => exact List.forall_mem_cons.mpr ⟨draw, ih⟩

lemma mem_dropped {segments : List Segment} (hdraw : ∀ segment ∈ segments, segment.IsDrawable)
    {start d : Int} (h : d ∈ dropped start segments) :
    start ≤ d ∧ d < start + covered segments := by
  induction segments generalizing start with
  | nil => simp [dropped] at h
  | cons segment rest ih =>
    have hpos := Segment.sourceLength_pos (hdraw segment (by simp))
    have hrest : ∀ s ∈ rest, s.IsDrawable := fun s hs => hdraw s (by simp [hs])
    have hsum := covered_nonneg (sourceLength_nonneg hrest)
    rw [covered]
    rw [dropped, List.mem_append] at h
    obtain h | h := h
    · have := Segment.mem_dropped h
      omega
    · have := ih hrest h
      omega

theorem dropped_nodup {segments : List Segment}
    (hdraw : ∀ segment ∈ segments, segment.IsDrawable) (start : Int) :
    (dropped start segments).Nodup := by
  induction segments generalizing start with
  | nil => exact List.nodup_nil
  | cons segment rest ih =>
    have hrest : ∀ s ∈ rest, s.IsDrawable := fun s hs => hdraw s (by simp [hs])
    refine List.nodup_append.mpr ⟨segment.dropped_nodup start, ih hrest _, ?_⟩
    rintro a ha b hb rfl
    have := (Segment.mem_dropped ha).2
    have := (mem_dropped hrest hb).1
    omega

theorem length_outputs {segments : List Segment} {source : List Char}
    (hdraw : ∀ segment ∈ segments, segment.IsDrawable)
    (hcover : covered segments = source.length) (start : Int) :
    ((outputs source segments).length : Int) = source.length - (dropped start segments).length := by
  have h := sliced_of_covered hdraw hcover
  clear hdraw hcover
  induction h generalizing start with
  | nil => simp [outputs, dropped]
  | @cons segment rest slice tail draw hslice _ ih =>
    have hout := Segment.length_output draw hslice
    have hlength := segment.outputLength_eq start
    have htail := ih (start + segment.sourceLength)
    rw [outputs_cons rest hslice, dropped]
    simp only [List.length_append, Int.natCast_add]
    omega

/-- Dropping for the first segment and then, in the text as it is now, for the rest. -/
lemma afterDropping_dropped_cons {segment : Segment} {rest : List Segment}
    (hdraw : ∀ s ∈ rest, s.IsDrawable) (start : Int) :
    afterDropping (dropped (start + segment.outputLength) rest) ∘
        afterDropping (segment.dropped start) =
      afterDropping (dropped start (segment :: rest)) := by
  have hshift : dropped (start + segment.outputLength) rest =
      (dropped (start + segment.sourceLength) rest).map
        (· - ((segment.dropped start).length : Int)) := by
    rw [segment.outputLength_eq start, ← Int.add_sub_assoc, Int.sub_eq_add_neg, dropped_add]
    rfl
  rw [hshift, afterDropping_append (segment.dropped_nodup start), dropped]
  intro a ha b hb
  exact (Segment.mem_dropped ha).2.trans_le (mem_dropped hdraw hb).1

/-- A run over segments that cover the source turns the buffer into finished output. -/
theorem applyAll_spec (config : Config) {segments : List Segment} {buffer : Buffer} {cursor : Int}
    {done source : List Char} (hdraw : ∀ segment ∈ segments, segment.IsDrawable)
    (hcover : covered segments = source.length)
    (htext : buffer.text = done ++ source) (hcursor : cursor = done.length) :
    ∃ after, applyAll config buffer (layoutFrom cursor segments) =
        .ok (ranges config cursor segments, after) ∧
      after.text = done ++ outputs source segments ∧
      after.visibleSpans =
        Span.carry (afterDropping (dropped cursor segments)) buffer.visibleSpans := by
  have h := sliced_of_covered hdraw hcover
  clear hdraw hcover
  induction h generalizing buffer cursor done with
  | nil =>
    refine ⟨buffer, rfl, by simp [htext, outputs], ?_⟩
    rw [dropped, afterDropping_nil, Span.carry_id, Buffer.visibleSpans, List.filter_filter]
    simp
  | @cons segment rest slice tail draw hslice hrest ih =>
    obtain ⟨middle, happly, hmiddle, hspans₁⟩ := Segment.apply_spec config draw hslice
      (by rw [htext, List.append_assoc]) hcursor
    have hcursor' : cursor + segment.outputLength = (done ++ segment.output slice).length := by
      rw [List.length_append, hcursor, Int.natCast_add, Segment.length_output draw hslice]
    obtain ⟨after, hrun, hafter, hspans₂⟩ := ih hmiddle hcursor'
    refine ⟨after, ?_, ?_, ?_⟩
    · simp only [layoutFrom, applyAll, happly, bind, Except.bind, hrun, ranges_cons]
      rfl
    · rw [hafter, outputs_cons rest hslice, List.append_assoc]
    · have hmono := afterDropping_mono
        (dropped_nodup hrest.isDrawable (cursor + segment.outputLength))
      rw [hspans₂, hspans₁, Span.carry_carry hmono, afterDropping_dropped_cons hrest.isDrawable]

/-- Rendering drawable segments that cover the text succeeds, with this result. -/
theorem render_eq_ok (config : Config) {text : List Char} {segments : List Segment}
    (hdraw : ∀ segment ∈ segments, segment.IsDrawable)
    (hcover : covered segments = text.length) (spans : List (Span String)) :
    render config text segments spans =
      .ok ⟨outputs text segments, ranges config 0 segments,
        Span.carry (afterDropping (dropped 0 segments)) spans⟩ := by
  have htext : (Buffer.mk text spans).text = [] ++ text := rfl
  have hcursor : (0 : Int) = ([] : List Char).length := rfl
  obtain ⟨after, hrun, hafter, hspans⟩ := applyAll_spec config hdraw hcover htext hcursor
  simp only [render, hcover, ne_eq, not_true_eq_false, if_false, layout, hrun, bind, Except.bind]
  have hmono := afterDropping_mono (dropped_nodup hdraw 0)
  rw [hafter, hspans, Buffer.visibleSpans, Span.carry_filter hmono]
  rfl

namespace Cuts

variable {marks : Delimiters} {rest used : List Char} {segments : List Segment}

theorem isDrawable (h : Cuts marks rest used segments) :
    ∀ segment ∈ segments, segment.IsDrawable := by
  induction h with
  | done => simp
  | plain ne _ _ _ ih =>
    have hrun := List.length_pos_iff.mpr ne
    exact List.forall_mem_cons.mpr ⟨by simp only [Segment.IsDrawable]; omega, ih⟩
  | literal opens _ _ ih =>
    exact List.forall_mem_cons.mpr
      ⟨by simp [Segment.IsDrawable, Delimiters.opens_iff.mp opens], ih⟩
  | bracketed _ ne _ _ _ _ ih => exact List.forall_mem_cons.mpr ⟨ne, ih⟩

end Cuts

end TintedText
