import TintedText.Proofs.Carrying

/-!
# Spans over edit histories

A buffer is edited again and again; an edit whose region does not lie in the text fails and changes
nothing. A character that no edit replaces moves with the text around it, and an edit leaves every
bound on its side of the character (`follows_boundAfter`). So does a whole history, and its edits
are one move of all bounds that keeps their order: the character is under the same spans as at the
beginning, and a span that once holds no position holds none from then on (`edits_keep_spans`).
-/
namespace TintedText.Buffer

namespace Edit

def start : Edit → Int
  | replace start _ _ => start
  | delete index _ => index

def stop : Edit → Int
  | replace _ stop _ => stop
  | delete index count => index + count

def replacement : Edit → List Char
  | replace _ _ replacement => replacement
  | delete _ _ => []

end Edit

/-- Where the character at a position goes in an edit, unless the edit replaces it. -/
def positionAfter (buffer : Buffer) (edit : Edit) (position : Nat) : Option Nat :=
  match buffer.perform edit with
  | .error _ => some position
  | .ok _ =>
    if (position : Int) < edit.start then some position
    else if edit.stop ≤ position then
      some (position + edit.replacement.length - (edit.stop - edit.start).toNat)
    else none

/-- Where a bound goes in an edit. -/
def boundAfter (buffer : Buffer) (edit : Edit) : Int → Int :=
  match buffer.perform edit with
  | .error _ => id
  | .ok _ => movedBound edit.start edit.stop edit.replacement.length

/-- The buffer after some edits, one after the other. -/
def afterAll (buffer : Buffer) : List Edit → Buffer
  | [] => buffer
  | edit :: edits => (buffer.after edit).afterAll edits

/-- Where the character at a position goes in some edits, unless one of them replaces it. -/
def positionAfterAll (buffer : Buffer) : List Edit → Nat → Option Nat
  | [], position => some position
  | edit :: edits, position =>
    (buffer.positionAfter edit position).bind ((buffer.after edit).positionAfterAll edits)

/-- Where a bound goes in some edits. -/
def boundAfterAll (buffer : Buffer) : List Edit → Int → Int
  | [] => id
  | edit :: edits => (buffer.after edit).boundAfterAll edits ∘ buffer.boundAfter edit

section step

variable {buffer : Buffer} {edit : Edit}

lemma perform_eq_replace (buffer : Buffer) (edit : Edit) :
    buffer.perform edit = buffer.replace edit.start edit.stop edit.replacement := by
  cases edit <;> rfl

/-- An edit fails, or its region lies in the text and is replaced. -/
lemma perform_cases (buffer : Buffer) (edit : Edit) :
    (∃ error, buffer.perform edit = .error error) ∨
      ∃ changed, buffer.perform edit = .ok changed ∧
        0 ≤ edit.start ∧ edit.start ≤ edit.stop ∧ edit.stop ≤ buffer.text.length ∧
        changed.text = buffer.text.take edit.start.toNat ++ edit.replacement ++
          buffer.text.drop edit.stop.toNat ∧
        changed.spans =
          Span.carry (movedBound edit.start edit.stop edit.replacement.length) buffer.spans := by
  rw [perform_eq_replace]
  unfold replace
  by_cases h : 0 ≤ edit.start ∧ edit.start ≤ edit.stop ∧ edit.stop ≤ buffer.text.length
  · rw [if_pos h]
    exact .inr ⟨_, rfl, h.1, h.2.1, h.2.2, rfl, rfl⟩
  · rw [if_neg h]
    exact .inl ⟨_, rfl⟩

lemma boundAfter_mono (buffer : Buffer) (edit : Edit) : Monotone (buffer.boundAfter edit) := by
  unfold boundAfter
  split
  · exact monotone_id
  · exact movedBound_mono (Int.natCast_nonneg _)

theorem visibleSpans_after (buffer : Buffer) (edit : Edit) :
    (buffer.after edit).visibleSpans = Span.carry (buffer.boundAfter edit) buffer.spans := by
  obtain ⟨error, hperform⟩ | ⟨changed, hperform, -, -, -, -, hspans⟩ := perform_cases buffer edit
  · simp only [after, boundAfter, hperform, Span.carry_id]
    rfl
  · simp only [after, boundAfter, hperform, visibleSpans, hspans, Span.carry, List.filter_filter,
      Bool.and_self]

/-- An edit leaves every bound on its side of a character that it does not replace. -/
theorem follows_boundAfter {position now : Nat}
    (h : buffer.positionAfter edit position = some now) :
    Span.Follows (buffer.boundAfter edit) position now := by
  unfold positionAfter at h
  unfold boundAfter
  obtain ⟨error, hperform⟩ | ⟨changed, hperform, hstart, hle, -⟩ := perform_cases buffer edit
  · simp only [hperform, Option.some.injEq] at h ⊢
    rw [h]
    exact .refl _
  · simp only [hperform] at h ⊢
    intro bound
    unfold movedBound
    split_ifs at h with hbefore hbehind
    · have hnow : position = now := Option.some.inj h
      split_ifs <;> omega
    · have hnow : position + edit.replacement.length - (edit.stop - edit.start).toNat = now :=
        Option.some.inj h
      split_ifs <;> omega

theorem getElem?_after {position now : Nat} (h : buffer.positionAfter edit position = some now) :
    (buffer.after edit).text[now]? = buffer.text[position]? := by
  unfold positionAfter at h
  unfold after
  obtain ⟨error, hperform⟩ | ⟨changed, hperform, hstart, hle, hstop, htext, -⟩ :=
    perform_cases buffer edit
  · simp only [hperform, Option.some.injEq] at h ⊢
    rw [h]
  · simp only [hperform] at h ⊢
    rw [htext]
    have hfront : (buffer.text.take edit.start.toNat).length = edit.start.toNat := by
      rw [List.length_take]
      omega
    split_ifs at h with hbefore hbehind
    · have hnow : position = now := Option.some.inj h
      rw [← hnow, List.append_assoc, List.getElem?_append_left (by omega),
        List.getElem?_take_of_lt (by omega)]
    · have hnow : position + edit.replacement.length - (edit.stop - edit.start).toNat = now :=
        Option.some.inj h
      rw [List.getElem?_append_right (by rw [List.length_append]; omega), List.getElem?_drop]
      congr 1
      rw [List.length_append]
      omega

end step

section history

variable {buffer : Buffer}

lemma boundAfterAll_mono (buffer : Buffer) (edits : List Edit) :
    Monotone (buffer.boundAfterAll edits) := by
  induction edits generalizing buffer with
  | nil => exact monotone_id
  | cons edit edits ih => exact (ih _).comp (buffer.boundAfter_mono edit)

lemma boundAfterAll_append (buffer : Buffer) (earlier later : List Edit) :
    buffer.boundAfterAll (earlier ++ later) =
      (buffer.afterAll earlier).boundAfterAll later ∘ buffer.boundAfterAll earlier := by
  induction earlier generalizing buffer with
  | nil => rfl
  | cons edit earlier ih =>
    rw [List.cons_append, boundAfterAll, ih]
    rfl

theorem visibleSpans_afterAll (buffer : Buffer) (edits : List Edit) :
    (buffer.afterAll edits).visibleSpans =
      Span.carry (buffer.boundAfterAll edits) buffer.spans := by
  induction edits generalizing buffer with
  | nil => exact (Span.carry_id buffer.spans).symm
  | cons edit edits ih =>
    have hmono := boundAfterAll_mono (buffer.after edit) edits
    calc (buffer.afterAll (edit :: edits)).visibleSpans
        = Span.carry ((buffer.after edit).boundAfterAll edits) (buffer.after edit).spans := ih _
      _ = Span.carry ((buffer.after edit).boundAfterAll edits)
            (buffer.after edit).visibleSpans := (Span.carry_filter hmono _).symm
      _ = Span.carry (buffer.boundAfterAll (edit :: edits)) buffer.spans := by
            rw [visibleSpans_after, Span.carry_carry hmono]
            rfl

/-- A character that none of the edits replaces is found where it has gone, and all bounds are on
their sides of it. -/
theorem follows_boundAfterAll {edits : List Edit} {position now : Nat}
    (h : buffer.positionAfterAll edits position = some now) :
    (buffer.afterAll edits).text[now]? = buffer.text[position]? ∧
      Span.Follows (buffer.boundAfterAll edits) position now := by
  induction edits generalizing buffer position with
  | nil =>
    obtain rfl : position = now := Option.some.inj h
    exact ⟨rfl, .refl _⟩
  | cons edit edits ih =>
    obtain ⟨middle, hfirst, hrest⟩ := Option.bind_eq_some_iff.mp h
    obtain ⟨htext, hfollows⟩ := ih hrest
    exact ⟨htext.trans (getElem?_after hfirst), (follows_boundAfter hfirst).trans hfollows⟩

end history

/-- Whatever edits are made of a buffer, and whichever of them fail: a character that none of them
replaces is under the spans that were over it at the beginning, with the same styles in the same
order; and the spans that are seen are those of the beginning that have held a position ever
since. -/
theorem edits_keep_spans (buffer : Buffer) (edits : List Edit) :
    (∀ i j, buffer.positionAfterAll edits i = some j →
      (buffer.afterAll edits).text[j]? = buffer.text[i]? ∧
      (buffer.afterAll edits).visibleSpans.filter (·.covers j) =
        (buffer.visibleSpans.filter (·.covers i)).map (·.move (buffer.boundAfterAll edits)) ∧
      ((buffer.afterAll edits).visibleSpans.filter (·.covers j)).map (·.style) =
        (buffer.visibleSpans.filter (·.covers i)).map (·.style)) ∧
    (buffer.afterAll edits).visibleSpans =
      (buffer.spans.map (·.move (buffer.boundAfterAll edits))).filter (·.isVisible) ∧
    ∀ earlier later, edits = earlier ++ later → ∀ span ∈ buffer.spans,
      (span.move (buffer.boundAfterAll earlier)).isVisible = false →
        (span.move (buffer.boundAfterAll edits)).isVisible = false := by
  have hmono := boundAfterAll_mono buffer edits
  have hvisible : (buffer.afterAll edits).visibleSpans =
      Span.carry (buffer.boundAfterAll edits) buffer.visibleSpans := by
    rw [visibleSpans_afterAll, visibleSpans, Span.carry_filter hmono]
  refine ⟨fun i j hj => ?_, visibleSpans_afterAll buffer edits, ?_⟩
  · obtain ⟨htext, hfollows⟩ := follows_boundAfterAll hj
    rw [hvisible]
    exact ⟨htext, hfollows.filter_carry _, hfollows.styles_carry _⟩
  · rintro earlier later rfl span - hempty
    have hlater := boundAfterAll_mono (buffer.afterAll earlier) later
    rw [boundAfterAll_append, ← Bool.not_eq_true]
    intro hseen
    have hearlier : (span.move (buffer.boundAfterAll earlier)).isVisible = true :=
      Span.isVisible_of_move hlater hseen
    rw [hempty] at hearlier
    cases hearlier

/-- A longer text in the middle, an edit that fails, and a deletion. The character behind the longer
text is displaced and keeps its two spans; the span of the deleted character is dropped, and the one
that was empty never comes to be seen. -/
theorem edits_keep_spans_failed :
    let buffer : Buffer := ⟨['a', 'b', 'c', 'd'],
      [⟨-1, 9, "bold"⟩, ⟨2, 2, "dim"⟩, ⟨0, 1, "italic"⟩, ⟨1, 3, "red"⟩]⟩
    let edits : List Edit := [.replace 1 2 ['x', 'y', 'z'], .delete 3 9, .delete 0 1]
    buffer.positionAfterAll edits 2 = some 3 ∧
      (buffer.afterAll edits).text[3]? = some 'c' ∧
      ((buffer.afterAll edits).visibleSpans.filter (·.covers (3 : Nat))).map (·.style) =
        ["bold", "red"] ∧
      (buffer.afterAll edits).visibleSpans = [⟨-1, 10, "bold"⟩, ⟨0, 4, "red"⟩] ∧
      (Span.move (buffer.boundAfterAll []) ⟨2, 2, "dim"⟩).isVisible = false ∧
      (Span.move (buffer.boundAfterAll edits) ⟨2, 2, "dim"⟩).isVisible = false := by
  intro buffer edits
  have hkept : buffer.positionAfterAll edits 2 = some 3 := by decide
  have hempty : (Span.move (buffer.boundAfterAll []) ⟨2, 2, "dim"⟩).isVisible = false := by decide
  have hmoved : (buffer.spans.map (·.move (buffer.boundAfterAll edits))).filter (·.isVisible) =
      [⟨-1, 10, "bold"⟩, ⟨0, 4, "red"⟩] := by
    decide
  obtain ⟨hcharacter, hvisible, hnever⟩ := edits_keep_spans buffer edits
  obtain ⟨htext, -, hstyles⟩ := hcharacter 2 3 hkept
  exact ⟨hkept, htext, hstyles, hvisible.trans hmoved, hempty,
    hnever [] edits rfl _ (by decide) hempty⟩

end TintedText.Buffer
