import TintedText.Proofs.Editing

/-!
# What one replacement does to the spans

A replacement whose region lies in the text always succeeds, and any other fails without a change.
The failure tells the region, unless a bound has so many digits that it cannot be written. Of what a
span covers in the region only the part up to the length of the new text is left, so that a span is
gone exactly when it lies in the region and begins where the new text has ended already
(`isVisible_move_iff`). All other spans are still seen, and those that lay in the text lie in the
new text (`replace_effect`).
-/
namespace TintedText.Buffer

variable {start stop size : Int}

/-- A span that is seen is left empty when it lies in the region, at or behind the end of the new
text. -/
lemma isVisible_move_iff {Style : Type} (hsize : 0 ≤ size) {span : Span Style}
    (hvisible : span.isVisible = true) :
    (span.move (movedBound start stop size)).isVisible = true ↔
      ¬ (start ≤ span.start ∧ span.stop ≤ stop ∧ size ≤ span.start - start) := by
  rw [Span.isVisible_iff] at hvisible
  rw [Span.isVisible_move]
  unfold movedBound
  split_ifs <;> omega

theorem visibleSpans_moved (hsize : 0 ≤ size) (buffer : Buffer) :
    Span.carry (movedBound start stop size) buffer.visibleSpans =
      (buffer.visibleSpans.filter fun span =>
          ¬ (start ≤ span.start ∧ span.stop ≤ stop ∧ size ≤ span.start - start)).map
        (·.move (movedBound start stop size)) := by
  rw [Span.carry, List.filter_map]
  refine congrArg (List.map _) (List.filter_congr fun span hspan => ?_)
  have hvisible : span.isVisible = true := (List.mem_filter.mp hspan).2
  rw [Function.comp_apply, Bool.eq_iff_iff, decide_eq_true_iff]
  exact isVisible_move_iff hsize hvisible

lemma movedBound_bounds {length bound : Int} (hstart : 0 ≤ start) (hstop : stop ≤ length)
    (hsize : 0 ≤ size) (hnonneg : 0 ≤ bound) (hle : bound ≤ length) :
    0 ≤ movedBound start stop size bound ∧
      movedBound start stop size bound ≤ length + size - (stop - start) := by
  unfold movedBound
  split_ifs <;> omega

lemma exists_region {text : List Char}
    (h : 0 ≤ start ∧ start ≤ stop ∧ stop ≤ text.length) :
    ∃ front region back, text = front ++ region ++ back ∧ start = front.length ∧
      stop = front.length + region.length := by
  refine ⟨text.take start.toNat, (text.drop start.toNat).take (stop - start).toNat,
    (text.drop start.toNat).drop (stop - start).toNat, ?_, ?_, ?_⟩
  · rw [List.append_assoc, List.take_append_drop, List.take_append_drop]
  · rw [List.length_take]
    omega
  · rw [List.length_take, List.length_take, List.length_drop]
    omega

/-- What is told of a region that was refused. -/
lemma shown_eq_ok_iff {error : EditError} {message : String} : error.shown = .ok message ↔
    (Text.isWritable error.start = true ∧ Text.isWritable error.stop = true) ∧
      message = error.message := by
  rw [EditError.shown, Text.shown_eq_ok_iff, List.forall_mem_cons, List.forall_mem_singleton,
    @eq_comm _ message]

lemma shown_eq_error_iff {error : EditError} : error.shown = .error {} ↔
    ¬ (Text.isWritable error.start = true ∧ Text.isWritable error.stop = true) := by
  cases hshown : error.shown with
  | ok message => simp [(shown_eq_ok_iff.mp hshown).1]
  | error unwritable =>
    refine ⟨fun _ hwritable => ?_, fun _ => rfl⟩
    rw [shown_eq_ok_iff.mpr ⟨hwritable, rfl⟩] at hshown
    cases hshown

/-- A replacement fails exactly when its region does not lie in the text, and then changes neither
the text nor the spans that are seen. The failure tells the region exactly when both bounds can be
written, and is the failure to write a number when one cannot. Otherwise the new text stands in
place of the region; the spans that are seen keep their order and their styles, but those are gone
that lie in the region and begin at or behind the end of the new text; and a span that lay in the
text lies in it now. -/
theorem replace_effect (buffer : Buffer) (start stop : Int) (replacement : List Char) :
    ((∃ error, buffer.replace start stop replacement = .error error) ↔
      ¬ (0 ≤ start ∧ start ≤ stop ∧ stop ≤ buffer.text.length)) ∧
    ((∃ error message, buffer.replace start stop replacement = .error error ∧
        error.shown = .ok message) ↔
      ¬ (0 ≤ start ∧ start ≤ stop ∧ stop ≤ buffer.text.length) ∧
        (Text.isWritable start = true ∧ Text.isWritable stop = true)) ∧
    ((∃ error, buffer.replace start stop replacement = .error error ∧ error.shown = .error {}) ↔
      ¬ (0 ≤ start ∧ start ≤ stop ∧ stop ≤ buffer.text.length) ∧
        ¬ (Text.isWritable start = true ∧ Text.isWritable stop = true)) ∧
    (¬ (0 ≤ start ∧ start ≤ stop ∧ stop ≤ buffer.text.length) →
      (buffer.after (.replace start stop replacement)).text = buffer.text ∧
        (buffer.after (.replace start stop replacement)).visibleSpans = buffer.visibleSpans) ∧
    (0 ≤ start ∧ start ≤ stop ∧ stop ≤ buffer.text.length →
      ∃ changed, buffer.replace start stop replacement = .ok changed ∧
        (∃ front region back, buffer.text = front ++ region ++ back ∧ start = front.length ∧
          stop = front.length + region.length ∧ changed.text = front ++ replacement ++ back) ∧
        changed.visibleSpans =
          (buffer.visibleSpans.filter fun span => ¬ (start ≤ span.start ∧ span.stop ≤ stop ∧
              replacement.length ≤ span.start - start)).map
            (·.move (movedBound start stop replacement.length)) ∧
        ∀ span ∈ buffer.visibleSpans, 0 ≤ span.start → span.stop ≤ buffer.text.length →
          0 ≤ (span.move (movedBound start stop replacement.length)).start ∧
            (span.move (movedBound start stop replacement.length)).stop ≤
              changed.text.length) := by
  refine ⟨?_, ?_, ?_, fun hbounds => ?_, fun hbounds => ?_⟩
  · simp only [replace_eq_error_iff, exists_and_left, exists_eq, and_true]
  · simp only [replace_eq_error_iff, shown_eq_ok_iff]
    constructor
    · rintro ⟨_, _, ⟨hbounds, rfl⟩, hwritable, -⟩
      exact ⟨hbounds, hwritable⟩
    · rintro ⟨hbounds, hwritable⟩
      exact ⟨_, _, ⟨hbounds, rfl⟩, hwritable, rfl⟩
  · simp only [replace_eq_error_iff, shown_eq_error_iff]
    constructor
    · rintro ⟨_, ⟨hbounds, rfl⟩, hlong⟩
      exact ⟨hbounds, hlong⟩
    · rintro ⟨hbounds, hlong⟩
      exact ⟨_, ⟨hbounds, rfl⟩, hlong⟩
  · have hperform : buffer.perform (.replace start stop replacement) =
        .error ⟨start, stop, buffer.text.length⟩ := replace_eq_error_iff.mpr ⟨hbounds, rfl⟩
    simp only [after, hperform, and_self]
  · obtain ⟨front, region, back, htext, hstart, hstop⟩ := exists_region hbounds
    obtain ⟨changed, hreplace, hchanged, hspans⟩ := replace_middle htext hstart hstop replacement
    have hsize : 0 ≤ (replacement.length : Int) := Int.natCast_nonneg _
    have hlength : (changed.text.length : Int) =
        buffer.text.length + replacement.length - (stop - start) := by
      simp only [hchanged, htext, List.length_append]
      omega
    refine ⟨changed, hreplace, ⟨front, region, back, htext, hstart, hstop, hchanged⟩, ?_, ?_⟩
    · rw [hspans, visibleSpans_moved hsize]
    · intro span hspan hfrom hto
      have hvisible := Span.isVisible_iff.mp (List.mem_filter.mp hspan).2
      rw [hlength]
      exact ⟨(movedBound_bounds hbounds.1 hbounds.2.2 hsize hfrom (by omega)).1,
        (movedBound_bounds hbounds.1 hbounds.2.2 hsize (by omega) hto).2⟩

/-- Three characters become one: of three spans in the region the one that begins with it is left,
and so is one that starts before the text. A region that ends behind the text is told. -/
theorem replace_effect_shorter :
    let buffer : Buffer := ⟨['a', 'b', 'c', 'd', 'e'],
      [⟨-1, 2, "bold"⟩, ⟨3, 4, "dim"⟩, ⟨1, 3, "red"⟩, ⟨2, 4, "blue"⟩]⟩
    (∃ changed, buffer.replace 1 4 ['x'] = .ok changed ∧
      changed.visibleSpans = [⟨-1, 2, "bold"⟩, ⟨1, 2, "red"⟩]) ∧
    ¬ (0 ≤ (4 : Int) ∧ (4 : Int) ≤ 6 ∧ (6 : Int) ≤ buffer.text.length) ∧
    (buffer.after (.replace 4 6 ['x'])).text = buffer.text ∧
    ∃ error message, buffer.replace 4 6 ['x'] = .error error ∧ error.shown = .ok message := by
  intro buffer
  have hbounds : ¬ (0 ≤ (4 : Int) ∧ (4 : Int) ≤ 6 ∧ (6 : Int) ≤ buffer.text.length) := by decide
  have hwritable : Text.isWritable 4 = true ∧ Text.isWritable 6 = true := by decide +kernel
  obtain ⟨-, htold, -, hsame, -⟩ := replace_effect buffer 4 6 ['x']
  refine ⟨?_, hbounds, (hsame hbounds).1, htold.mpr ⟨hbounds, hwritable⟩⟩
  obtain ⟨-, -, -, -, heffect⟩ := replace_effect buffer 1 4 ['x']
  obtain ⟨changed, hreplace, -, hspans, -⟩ := heffect (by decide)
  refine ⟨changed, hreplace, hspans.trans ?_⟩
  decide

/-- A region that ends at a number with one digit too many is refused, but the refusal cannot be
told. -/
theorem replace_unshown :
    let stop : Int := (10 ^ Text.maxDigits : Nat)
    ∃ error, (⟨['a', 'b', 'c'], []⟩ : Buffer).replace 1 stop [] = .error error ∧
      error.shown = .error {} ∧ ¬ ∃ message, error.shown = .ok message := by
  intro stop
  -- said of any number of digits, lest the power is computed
  have hpower : ∀ digits : Nat, ¬ ((10 ^ digits : Nat) : Int).natAbs < Nat.pow 10 digits := by
    simp
  have hlong : Text.isWritable stop = false := decide_eq_false (hpower Text.maxDigits)
  have hlarge : (3 : Int) < stop := by
    have hdigits : 3 < Text.maxDigits := by decide
    exact Int.ofNat_lt.mpr (hdigits.trans (Nat.lt_pow_self (by decide)))
  have hbounds : ¬ ((0 : Int) ≤ 1 ∧ 1 ≤ stop ∧ stop ≤ (3 : Nat)) := by
    rintro ⟨-, -, hle⟩
    exact absurd hle (not_le.mpr hlarge)
  refine ⟨⟨1, stop, 3⟩, replace_eq_error_iff.mpr ⟨hbounds, rfl⟩, ?_, ?_⟩
  · rw [shown_eq_error_iff, hlong]
    simp
  · simp [shown_eq_ok_iff, hlong]

end TintedText.Buffer
