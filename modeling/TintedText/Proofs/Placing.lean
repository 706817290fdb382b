import TintedText.Proofs.Output

/-!
# Segments given by hand

Segments that no reader has cut from the text can be rendered all the same, when they cover the text
and each of them leaves something: then every one takes its slice and leaves its output at the sums
of the lengths in front of it, whatever it says that the slice contains (`render_places`). Other
segments are refused. A negative length may lead an edit out of the text; without one, the first
segment that leaves nothing is found by its colour range, before any edit goes wrong.
-/
namespace TintedText

/-- Where the slice of a segment begins: the sum of the lengths in front of it. -/
def sourceStart (segments : List Segment) (i : Nat) : Int :=
  ((segments.take i).map Segment.sourceLength).sum

/-- Where the output of a segment begins. -/
def outputStart (segments : List Segment) (i : Nat) : Int :=
  ((segments.take i).map Segment.outputLength).sum

section starts

variable (segment : Segment) (segments : List Segment) (i : Nat)

@[simp] lemma sourceStart_zero : sourceStart segments 0 = 0 := rfl

@[simp] lemma outputStart_zero : outputStart segments 0 = 0 := rfl

@[simp] lemma sourceStart_cons_succ :
    sourceStart (segment :: segments) (i + 1) =
      segment.sourceLength + sourceStart segments i := by
  simp [sourceStart]

@[simp] lemma outputStart_cons_succ :
    outputStart (segment :: segments) (i + 1) =
      segment.outputLength + outputStart segments i := by
  simp [outputStart]

end starts

variable {config : Config} {segments : List Segment}

lemma sourceStart_nonneg (hnonneg : ∀ segment ∈ segments, 0 ≤ segment.sourceLength) (i : Nat) :
    0 ≤ sourceStart segments i := by
  apply List.sum_nonneg
  intro length hlength
  obtain ⟨segment, hsegment, rfl⟩ := List.mem_map.mp hlength
  exact hnonneg segment (List.mem_of_mem_take hsegment)

theorem outputs_eq_flatten (hnonneg : ∀ segment ∈ segments, 0 ≤ segment.sourceLength)
    (text : List Char) :
    outputs text segments = (segments.mapIdx fun i segment =>
      segment.output ((text.drop (sourceStart segments i).toNat).take
        segment.sourceLength.toNat)).flatten := by
  induction segments generalizing text with
  | nil => rfl
  | cons segment rest ih =>
    obtain ⟨hfirst, hrest⟩ := List.forall_mem_cons.mp hnonneg
    have hstart : ∀ i, (sourceStart (segment :: rest) (i + 1)).toNat =
        segment.sourceLength.toNat + (sourceStart rest i).toNat := by
      intro i
      rw [sourceStart_cons_succ, Int.toNat_add hfirst (sourceStart_nonneg hrest i)]
    rw [outputs, List.mapIdx_cons, List.flatten_cons, ih hrest]
    simp only [sourceStart_zero, Int.toNat_zero, List.drop_zero, hstart, List.drop_drop]

theorem ranges_eq_reduceOption (config : Config) (cursor : Int) (segments : List Segment) :
    ranges config cursor segments = (segments.mapIdx fun i segment =>
      segment.range? config (cursor + outputStart segments i)).reduceOption := by
  induction segments generalizing cursor with
  | nil => rfl
  | cons segment rest ih =>
    rw [ranges_cons, List.mapIdx_cons, ih]
    simp only [outputStart_zero, outputStart_cons_succ, Int.add_zero, ← Int.add_assoc]
    cases segment.range? config cursor with
    | none => rw [List.reduceOption_cons_of_none]; rfl
    | some range => rw [List.reduceOption_cons_of_some]; rfl

namespace Segment

/-- A literal mark is a single character. -/
def IsSingle : Segment → Prop
  | literal mark => mark.length = 1
  | plain _ | bracketed _ => True

variable {segment : Segment} {buffer : Buffer} {cursor : Int}

lemma ofBounds_eq_error {start stop : Int} (hstop : stop ≤ start) (color : Int) :
    ColorRange.ofBounds start stop color = .error ⟨start, stop⟩ :=
  if_neg fun h => absurd h.2 (Int.not_lt.mpr hstop)

lemma exists_apply_error (hsingle : segment.IsSingle) (hdraw : ¬ segment.IsDrawable)
    (config : Config) (cursor : Int) (buffer : Buffer) :
    ∃ error, segment.apply config cursor buffer = .error error := by
  cases segment with
  | plain length =>
    have hrange : ColorRange.ofBounds cursor (cursor + length) config.outer.toInt = .error _ :=
      ofBounds_eq_error (by simp only [IsDrawable] at hdraw; omega) _
    simp only [apply, hrange]
    exact ⟨_, rfl⟩
  | literal mark => exact absurd hsingle hdraw
  | bracketed content =>
    obtain rfl : content = [] := by simpa only [IsDrawable, not_not] using hdraw
    have hrange : ColorRange.ofBounds cursor (cursor + ([] : List Char).length)
        config.inner.toInt = .error _ := ofBounds_eq_error (by simp) _
    simp only [apply, hrange]
    cases buffer.delete (cursor + ([] : List Char).length + 1) 1 with
    | error error => exact ⟨_, rfl⟩
    | ok middle =>
      simp only [Except.mapError, bind, Except.bind]
      cases middle.delete cursor 1 <;> exact ⟨_, rfl⟩

lemma apply_blank (config : Config) {done slice rest : List Char} (hsingle : segment.IsSingle)
    (hdraw : ¬ segment.IsDrawable) (hslice : (slice.length : Int) = segment.sourceLength)
    (htext : buffer.text = done ++ slice ++ rest) (hcursor : cursor = done.length) :
    segment.apply config cursor buffer = .error (.range ⟨cursor, cursor⟩) := by
  cases segment with
  | plain length =>
    obtain rfl : length = 0 := by
      simp only [IsDrawable] at hdraw
      simp only [sourceLength] at hslice
      omega
    simp only [apply, Int.add_zero, ofBounds_eq_error (le_refl cursor)]
    rfl
  | literal mark => exact absurd hsingle hdraw
  | bracketed content =>
    obtain rfl : content = [] := by simpa only [IsDrawable, not_not] using hdraw
    obtain ⟨mark, inner, close, rfl, hinner⟩ := exists_bracket hslice
    have htext' : buffer.text = done ++ mark :: (inner ++ close :: rest) := by simpa using htext
    obtain ⟨middle, after, hclose, hopen, -, -⟩ := Buffer.delete_around htext' hcursor
    simp only [hinner, List.length_nil, Int.natCast_zero, Int.add_zero] at hclose
    simp only [apply, List.length_nil, Int.natCast_zero, Int.add_zero, hclose, hopen,
      Except.mapError, bind, Except.bind, ofBounds_eq_error (le_refl cursor)]

end Segment

section run

variable {segment : Segment} {buffer middle : Buffer} {cursor : Int} {error : RenderError}

lemma applyAll_of_apply_error {rest : List Segment}
    (h : segment.apply config cursor buffer = .error error) :
    applyAll config buffer (layoutFrom cursor (segment :: rest)) = .error error := by
  simp only [layoutFrom, applyAll, h, bind, Except.bind]

lemma applyAll_of_apply_ok {rest : List Segment} {range : Option ColorRange}
    (h : segment.apply config cursor buffer = .ok (range, middle)) :
    applyAll config buffer (layoutFrom cursor (segment :: rest)) =
      (applyAll config middle (layoutFrom (cursor + segment.outputLength) rest)).map
        fun result => (range.toList ++ result.1, result.2) := by
  simp only [layoutFrom, applyAll, h, bind, Except.bind]
  cases applyAll config middle (layoutFrom (cursor + segment.outputLength) rest) <;> rfl

/-- A run over segments does not get over one that leaves nothing. -/
theorem exists_applyAll_error (hsingle : ∀ segment ∈ segments, segment.IsSingle)
    (hdraw : ∃ segment ∈ segments, ¬ segment.IsDrawable) (config : Config) (cursor : Int)
    (buffer : Buffer) :
    ∃ error, applyAll config buffer (layoutFrom cursor segments) = .error error := by
  -- of the buffer nothing is known, so a segment in front of the blank one may fail already
  induction segments generalizing cursor buffer with
  | nil => simp at hdraw
  | cons segment rest ih =>
    obtain ⟨hfirst, hrest⟩ := List.forall_mem_cons.mp hsingle
    cases happly : segment.apply config cursor buffer with
    | error error => exact ⟨error, applyAll_of_apply_error happly⟩
    | ok applied =>
      have hnext : ∃ other ∈ rest, ¬ other.IsDrawable := by
        obtain ⟨other, hmem, hother⟩ := hdraw
        obtain rfl | hmem := List.mem_cons.mp hmem
        · obtain ⟨error, herror⟩ := Segment.exists_apply_error hfirst hother config cursor buffer
          cases happly.symm.trans herror
        · exact ⟨other, hmem, hother⟩
      obtain ⟨error, herror⟩ := ih hrest hnext (cursor + segment.outputLength) applied.2
      refine ⟨error, ?_⟩
      rw [applyAll_of_apply_ok happly, herror]
      rfl

/-- Without negative lengths no edit of a run reaches outside the text, so that it fails for a
colour range only, which is empty. -/
theorem applyAll_eq_error {done source : List Char}
    (hsingle : ∀ segment ∈ segments, segment.IsSingle)
    (hnonneg : ∀ segment ∈ segments, 0 ≤ segment.sourceLength)
    (hcover : covered segments = source.length) (htext : buffer.text = done ++ source)
    (hcursor : cursor = done.length)
    (h : applyAll config buffer (layoutFrom cursor segments) = .error error) :
    ∃ place, error = .range ⟨place, place⟩ := by
  -- up to the first blank segment the buffer is the finished output and the untouched source
  induction segments generalizing buffer cursor done source with
  | nil => cases h
  | cons segment rest ih =>
    obtain ⟨hfirst, hsingle'⟩ := List.forall_mem_cons.mp hsingle
    obtain ⟨slice, tail, rfl, hslice, hcover'⟩ := exists_slice hnonneg hcover
    rw [← List.append_assoc] at htext
    by_cases hdraw : segment.IsDrawable
    · obtain ⟨middle, happly, hmiddle, -⟩ := Segment.apply_spec config hdraw hslice htext hcursor
      have hcursor' : cursor + segment.outputLength = (done ++ segment.output slice).length := by
        rw [List.length_append, hcursor, Int.natCast_add, Segment.length_output hdraw hslice]
      rw [applyAll_of_apply_ok happly] at h
      cases hrun : applyAll config middle (layoutFrom (cursor + segment.outputLength) rest) with
      | error other =>
        rw [hrun] at h
        obtain rfl : other = error := Except.error.inj h
        exact ih hsingle' (List.forall_mem_cons.mp hnonneg).2 hcover' hmiddle hcursor' hrun
      | ok result =>
        rw [hrun] at h
        cases h
    · have happly := Segment.apply_blank config hfirst hdraw hslice htext hcursor
      rw [applyAll_of_apply_error happly] at h
      exact ⟨cursor, (Except.error.inj h).symm⟩

end run

section render

variable {text : List Char} {spans : List (Span String)}

theorem exists_render_iff (hsingle : ∀ segment ∈ segments, segment.IsSingle) :
    (∃ styled, render config text segments spans = .ok styled) ↔
      covered segments = text.length ∧ ∀ segment ∈ segments, segment.IsDrawable := by
  constructor
  · rintro ⟨styled, hrender⟩
    unfold render at hrender
    split_ifs at hrender with hcover
    refine ⟨by simpa using hcover, ?_⟩
    by_contra hdraw
    push Not at hdraw
    obtain ⟨error, herror⟩ := exists_applyAll_error hsingle hdraw config 0 ⟨text, spans⟩
    rw [layout, herror] at hrender
    cases hrender
  · rintro ⟨hcover, hdraw⟩
    exact ⟨_, render_eq_ok config hdraw hcover spans⟩

theorem render_eq_error (hsingle : ∀ segment ∈ segments, segment.IsSingle)
    (hnonneg : ∀ segment ∈ segments, 0 ≤ segment.sourceLength) {error : RenderError}
    (h : render config text segments spans = .error error) :
    error = .cover (covered segments) text.length ∨ ∃ place, error = .range ⟨place, place⟩ := by
  unfold render at h
  split_ifs at h with hcover
  · exact .inl (Except.error.inj h).symm
  · right
    have htext : (Buffer.mk text spans).text = [] ++ text := rfl
    have hcursor : (0 : Int) = ([] : List Char).length := rfl
    cases hrun : applyAll config ⟨text, spans⟩ (layout segments) with
    | ok result =>
      rw [hrun] at h
      cases h
    | error other =>
      rw [hrun] at h
      obtain rfl : other = error := Except.error.inj h
      exact applyAll_eq_error hsingle hnonneg (not_not.mp hcover) htext hcursor hrun

end render

/-- Segments given by hand, whose literal marks are single characters, are rendered exactly when
they cover the text, plain runs have at least one character and brackets a content. The output and
the colour ranges are then those of the slices that the lengths of the segments say; and if they are
not rendered, they do not cover the text or leave nothing to colour, lest a length be negative. -/
theorem render_places (config : Config) (text : List Char) {segments : List Segment}
    (spans : List (Span String))
    (hsingle : ∀ mark, Segment.literal mark ∈ segments → mark.length = 1) :
    ((∃ styled, render config text segments spans = .ok styled) ↔
      (segments.map Segment.sourceLength).sum = text.length ∧
        (∀ length, Segment.plain length ∈ segments → 1 ≤ length) ∧
        ∀ content, Segment.bracketed content ∈ segments → content ≠ []) ∧
    (∀ styled, render config text segments spans = .ok styled →
      styled.text = (segments.mapIdx fun i segment =>
        segment.output ((text.drop (sourceStart segments i).toNat).take
          segment.sourceLength.toNat)).flatten ∧
      styled.ranges = (segments.mapIdx fun i segment =>
        segment.range? config (outputStart segments i)).reduceOption) ∧
    ∀ error, render config text segments spans = .error error →
      (∀ length, Segment.plain length ∈ segments → 0 ≤ length) →
        error = .cover (segments.map Segment.sourceLength).sum text.length ∨
          ∃ place, error = .range ⟨place, place⟩ := by
  have hsingle' : ∀ segment ∈ segments, segment.IsSingle := by
    intro segment hsegment
    cases segment with
    | literal mark => exact hsingle mark hsegment
    | plain | bracketed => exact trivial
  have hdraw : (∀ segment ∈ segments, segment.IsDrawable) ↔
      (∀ length, Segment.plain length ∈ segments → 1 ≤ length) ∧
        ∀ content, Segment.bracketed content ∈ segments → content ≠ [] := by
    constructor
    · exact fun h => ⟨fun length => h (.plain length), fun content => h (.bracketed content)⟩
    · rintro ⟨hplain, hbracketed⟩ segment hsegment
      cases segment with
      | plain length => exact hplain length hsegment
      | literal mark => exact hsingle mark hsegment
      | bracketed content => exact hbracketed content hsegment
  simp only [← covered_eq_sum, ← hdraw]
  refine ⟨exists_render_iff hsingle', fun styled hrender => ?_, fun error hrender hplain => ?_⟩
  · obtain ⟨hcover, hall⟩ := (exists_render_iff hsingle').mp ⟨styled, hrender⟩
    rw [render_eq_ok config hall hcover spans] at hrender
    obtain rfl := Except.ok.inj hrender
    refine ⟨outputs_eq_flatten (sourceLength_nonneg hall) text, ?_⟩
    simpa only [Int.zero_add] using ranges_eq_reduceOption config 0 segments
  · refine render_eq_error hsingle' (fun segment hsegment => ?_) hrender
    cases segment with
    | plain length => exact hplain length hsegment
    | literal | bracketed =>
      simp only [Segment.sourceLength]
      omega

/-- A bracket and a literal mark on a text that has neither of them. -/
theorem render_places_unread :
    ∃ styled, render {} ['a', 'b', 'c', 'd', 'e', 'f'] [.bracketed ['y', 'z'], .literal ['*']] [] =
        .ok styled ∧
      styled.text = ['b', 'c', '*'] ∧ styled.ranges = [⟨0, 2, 0xFFE6454A⟩] := by
  have hsingle : ∀ mark, Segment.literal mark ∈
      [Segment.bracketed ['y', 'z'], Segment.literal ['*']] → mark.length = 1 := by
    simp
  obtain ⟨hiff, hparts, -⟩ := render_places {} ['a', 'b', 'c', 'd', 'e', 'f'] [] hsingle
  obtain ⟨styled, hrender⟩ := hiff.mpr ⟨by decide, by simp, by simp⟩
  obtain ⟨htext, hranges⟩ := hparts styled hrender
  exact ⟨styled, hrender, htext.trans (by decide), hranges.trans (by decide)⟩

end TintedText
