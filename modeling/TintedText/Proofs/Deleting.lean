import TintedText.Proofs.Replacing
import TintedText.Proofs.Transport

/-!
# Deletions in any order

Characters of a text may be deleted one at a time in any order, or several at once wherever they
have come to stand together. A deletion names its region by where the characters are then: a
position has moved by the number of deleted positions before it (`afterDropping`). So it is known
which positions of the first text each deletion takes out (`taken`), and text and spans depend on
the set of all of them only (`Lacks`, kept by `Lacks.delete`).
-/
namespace TintedText

/-- The characters of the text whose positions are not dropped. -/
def keptText (dropped : List Int) (text : List Char) : List Char :=
  (text.zipIdx.filter fun c => (c.2 : Int) ∉ dropped).map Prod.fst

/-- The character at the position is left when those of `gone` are out, and stands in the region
`[start, stop)` of what is left. -/
def StandsIn (gone : List Int) (start stop position : Int) : Prop :=
  position ∉ gone ∧ start ≤ afterDropping gone position ∧ afterDropping gone position < stop

instance (gone : List Int) (start stop : Int) : DecidablePred (StandsIn gone start stop) :=
  fun position => inferInstanceAs (Decidable (position ∉ gone ∧
    start ≤ afterDropping gone position ∧ afterDropping gone position < stop))

section dropped

variable {gone group : List Int}

@[simp] lemma keptText_nil (text : List Char) : keptText [] text = text := by
  simp [keptText]

lemma keptText_concat (gone : List Int) (text : List Char) (c : Char) :
    keptText gone (text ++ [c]) =
      keptText gone text ++ if (text.length : Int) ∈ gone then [] else [c] := by
  unfold keptText
  rw [List.zipIdx_append, List.filter_append, List.map_append]
  by_cases h : (text.length : Int) ∈ gone <;> simp [h]

lemma keptText_congr (h : ∀ position, position ∈ gone ↔ position ∈ group) (text : List Char) :
    keptText gone text = keptText group text := by
  simp only [keptText, h]

lemma length_keptText (hnodup : gone.Nodup) (hnonneg : ∀ d ∈ gone, 0 ≤ d) (text : List Char) :
    ((keptText gone text).length : Int) = afterDropping gone text.length := by
  induction text using List.reverseRecOn with
  | nil => simp [keptText, afterDropping_of_le hnonneg]
  | append_singleton text c ih =>
    rw [keptText_concat, List.length_append, List.length_append, List.length_singleton,
      Int.natCast_add, Int.natCast_add, Int.natCast_one, afterDropping_succ, ih, hnodup.count]
    split_ifs <;> simp

/-- To delete a region of what is left is to leave out the characters that stand in it. -/
theorem keptText_append (hgone : gone.Nodup) (hnonneg : ∀ d ∈ gone, 0 ≤ d) {start stop : Nat}
    (hle : start ≤ stop) {text : List Char}
    (hgroup : ∀ position : Nat, position < text.length →
      ((position : Int) ∈ group ↔ StandsIn gone start stop position)) :
    keptText (gone ++ group) text =
      (keptText gone text).take start ++ (keptText gone text).drop stop := by
  induction text using List.reverseRecOn with
  | nil => simp [keptText]
  | append_singleton text c ih =>
    have hlast := hgroup text.length (by simp)
    have hlength := length_keptText hgone hnonneg text
    rw [keptText_concat, keptText_concat, ih fun position h => hgroup position (by simp; omega)]
    by_cases hout : (text.length : Int) ∈ gone
    · simp [hout]
    -- the last character stands where what is left of the others ends
    · simp only [StandsIn, hout, not_false_eq_true, true_and, ← hlength] at hlast
      simp only [List.mem_append, hout, false_or, hlast, if_false]
      split_ifs with hregion
      · rw [List.take_append_of_le_length (by omega), List.drop_eq_nil_of_le (by omega),
          List.drop_eq_nil_of_le (by simp; omega), List.append_nil]
      · by_cases hbefore : (keptText gone text).length < start
        · rw [List.take_of_length_le (by omega), List.drop_eq_nil_of_le (by omega),
            List.take_of_length_le (by simp; omega), List.drop_eq_nil_of_le (by simp; omega)]
          simp
        · rw [List.take_append_of_le_length (by omega), List.drop_append_of_le_length (by omega),
            List.append_assoc]

/-- Two positions that are left do not come to stand at the same place. -/
lemma standsIn_single_iff (hgone : gone.Nodup) {position other : Int} (hout : position ∉ gone) :
    StandsIn gone (afterDropping gone position) (afterDropping gone position + 1) other ↔
      other = position := by
  constructor
  · rintro ⟨hother, hfrom, hto⟩
    have hfollows := Span.follows_afterDropping hgone hother position
    have hfollows' := Span.follows_afterDropping hgone hout other
    exact le_antisymm (hfollows'.mp (by omega)) (hfollows.mp hfrom)
  · rintro rfl
    exact ⟨hout, le_rfl, by omega⟩

lemma movedBound_succ (index bound : Int) {count : Int} (hcount : 0 ≤ count) :
    Buffer.movedBound index (index + count) 0 (bound + 1) =
      Buffer.movedBound index (index + count) 0 bound +
        if index ≤ bound ∧ bound < index + count then 0 else 1 := by
  unfold Buffer.movedBound
  split_ifs <;> omega

theorem movedBound_comp_afterDropping {size : Nat} {index count : Int} (hgone : gone.Nodup)
    (hinside : ∀ d ∈ gone, 0 ≤ d ∧ d < size) (hindex : 0 ≤ index) (hcount : 0 ≤ count)
    (hfits : index + count + gone.length ≤ size) (hboth : (gone ++ group).Nodup)
    (hmem : ∀ position, position ∈ group ↔
      (0 ≤ position ∧ position < size) ∧ StandsIn gone index (index + count) position) :
    Buffer.movedBound index (index + count) 0 ∘ afterDropping gone =
      afterDropping (gone ++ group) := by
  have hnonneg : ∀ d ∈ gone ++ group, 0 ≤ d := by
    intro d hd
    exact (List.mem_append.mp hd).elim (fun h => (hinside d h).1) (fun h => ((hmem d).mp h).1.1)
  have hstart : ∀ bound ≤ 0,
      Buffer.movedBound index (index + count) 0 (afterDropping gone bound) =
        afterDropping (gone ++ group) bound := by
    intro bound hbound
    rw [afterDropping_of_le fun d hd => hbound.trans (hinside d hd).1,
      afterDropping_of_le fun d hd => hbound.trans (hnonneg d hd), Buffer.movedBound,
      if_pos (by omega)]
  ext bound
  rw [Function.comp_apply]
  by_cases hbound : bound ≤ 0
  · exact hstart bound hbound
  obtain ⟨position, rfl⟩ := Int.eq_ofNat_of_zero_le (show 0 ≤ bound by omega)
  clear hbound
  -- from one position to the next one both sides grow by one, or by nothing if it is out then
  induction position with
  | zero => exact hstart 0 le_rfl
  | succ position ih =>
    rw [Int.natCast_succ]
    by_cases hout : (position : Int) ∈ gone
    · rw [afterDropping_succ_of_mem hgone hout,
        afterDropping_succ_of_mem hboth (List.mem_append_left _ hout), ih]
    rw [afterDropping_succ_of_notMem hout, movedBound_succ index _ hcount, ih]
    by_cases hin : (position : Int) ∈ group
    · obtain ⟨-, -, hregion⟩ := (hmem _).mp hin
      rw [if_pos hregion, afterDropping_succ_of_mem hboth (List.mem_append_right _ hin), add_zero]
    · have hregion : ¬ (index ≤ afterDropping gone position ∧
          afterDropping gone position < index + count) := by
        intro hregion
        by_cases hend : (position : Int) < size
        · exact hin ((hmem _).mpr ⟨⟨Int.natCast_nonneg _, hend⟩, hout, hregion⟩)
        · rw [afterDropping_of_lt fun d hd => (hinside d hd).2.trans_le (not_lt.mp hend)] at hregion
          omega
      rw [if_neg hregion, afterDropping_succ_of_notMem (by simp [hout, hin])]

end dropped

namespace Buffer

/-- The positions of a text of the given size that a deletion takes out when those of `gone` are out
already: none if its region does not lie in what is left, else those of the characters in it. -/
def taken (size : Nat) (gone : List Int) (index count : Int) : List Int :=
  if 0 ≤ index ∧ 0 ≤ count ∧ index + count + gone.length ≤ size then
    ((List.range size).map Int.ofNat).filter fun position =>
      StandsIn gone index (index + count) position
  else []

lemma nodup_taken (size : Nat) (gone : List Int) (index count : Int) :
    (taken size gone index count).Nodup := by
  unfold taken
  split_ifs
  · exact (List.nodup_range.map fun _ _ => Int.ofNat.inj).filter _
  · exact List.nodup_nil

lemma mem_taken_iff {size : Nat} {gone : List Int} {index count : Int} (hindex : 0 ≤ index)
    (hcount : 0 ≤ count) (hfits : index + count + gone.length ≤ size) {position : Int} :
    position ∈ taken size gone index count ↔
      (0 ≤ position ∧ position < size) ∧ StandsIn gone index (index + count) position := by
  rw [taken, if_pos ⟨hindex, hcount, hfits⟩, List.mem_filter, decide_eq_true_iff, List.mem_map]
  refine and_congr_left fun _ => ⟨?_, fun h => ?_⟩
  · rintro ⟨place, hplace, rfl⟩
    have := List.mem_range.mp hplace
    exact ⟨Int.natCast_nonneg place, Int.ofNat_lt.mpr this⟩
  · exact ⟨position.toNat, List.mem_range.mpr (by omega), Int.toNat_of_nonneg h.1⟩

/-- The positions that are out after some more deletions, each given by its index and its count. -/
def takenAll (size : Nat) (gone : List Int) : List (Int × Int) → List Int
  | [] => gone
  | (index, count) :: calls => takenAll size (gone ++ taken size gone index count) calls

/-- Deletions, each given by its index and its count. -/
def deletions (calls : List (Int × Int)) : List Edit :=
  calls.map fun call => .delete call.1 call.2

/-- Deletions of single positions, those of `gone` being out already; the index of each is the
position lowered by the number of smaller ones that are out by then. -/
def singleDeletions (gone : List Int) : List Int → List Edit
  | [] => []
  | position :: rest =>
    .delete (afterDropping gone position) 1 :: singleDeletions (gone ++ [position]) rest

/-- The buffer is what is left of another one when the positions are out. -/
structure Lacks (now before : Buffer) (gone : List Int) : Prop where
  nodup : gone.Nodup
  inside : ∀ d ∈ gone, 0 ≤ d ∧ d < before.text.length
  text_eq : now.text = keptText gone before.text
  visibleSpans_eq : now.visibleSpans = Span.carry (afterDropping gone) before.spans

namespace Lacks

variable {now before : Buffer} {gone group : List Int}

lemma refl (buffer : Buffer) : buffer.Lacks buffer [] where
  nodup := List.nodup_nil
  inside := by simp
  text_eq := (keptText_nil _).symm
  visibleSpans_eq := by rw [afterDropping_nil, Span.carry_id]; rfl

lemma length_eq (h : now.Lacks before gone) :
    (now.text.length : Int) = before.text.length - gone.length := by
  rw [h.text_eq, length_keptText h.nodup fun d hd => (h.inside d hd).1,
    afterDropping_of_lt fun d hd => (h.inside d hd).2]

lemma place_bounds (h : now.Lacks before gone) {position : Int} (hout : position ∉ gone)
    (hposition : 0 ≤ position ∧ position < before.text.length) :
    0 ≤ afterDropping gone position ∧
      afterDropping gone position + 1 + gone.length ≤ before.text.length := by
  have hmono := afterDropping_mono h.nodup
  have hfirst := hmono hposition.1
  have hlast := hmono (Int.add_one_le_of_lt hposition.2)
  rw [afterDropping_of_le fun d hd => (h.inside d hd).1] at hfirst
  rw [afterDropping_succ_of_notMem hout, afterDropping_of_lt fun d hd => (h.inside d hd).2] at hlast
  exact ⟨hfirst, by omega⟩

lemma perm (h : now.Lacks before gone) (hperm : gone.Perm group) : now.Lacks before group where
  nodup := hperm.nodup_iff.mp h.nodup
  inside d hd := h.inside d (hperm.mem_iff.mpr hd)
  text_eq := h.text_eq.trans (keptText_congr (fun _ => hperm.mem_iff) _)
  visibleSpans_eq := by
    have hafter : afterDropping gone = afterDropping group := by
      ext position
      rw [afterDropping, afterDropping, hperm.countP_eq]
    rw [h.visibleSpans_eq, hafter]

theorem delete (h : now.Lacks before gone) {index count : Int} (hindex : 0 ≤ index)
    (hcount : 0 ≤ count) (hfits : index + count + gone.length ≤ before.text.length)
    (hgroup : group.Nodup)
    (hmem : ∀ position, position ∈ group ↔ (0 ≤ position ∧ position < before.text.length) ∧
      StandsIn gone index (index + count) position) :
    ∃ after, now.perform (.delete index count) = .ok after ∧
      after.Lacks before (gone ++ group) := by
  have hnonneg : ∀ d ∈ gone, 0 ≤ d := fun d hd => (h.inside d hd).1
  have hboth : (gone ++ group).Nodup := h.nodup.append hgroup fun d hd hd' =>
    ((hmem d).mp hd').2.1 hd
  have hlength := h.length_eq
  obtain ⟨error, herror⟩ | ⟨after, hperform, -, -, -, htext, -⟩ :=
    perform_cases now (.delete index count)
  · have := (replace_eq_error_iff.mp herror).1
    omega
  refine ⟨after, hperform, hboth, ?_, ?_, ?_⟩
  · intro d hd
    exact (List.mem_append.mp hd).elim (h.inside d) fun hd => ((hmem d).mp hd).1
  · have hkept : keptText (gone ++ group) before.text =
        (keptText gone before.text).take index.toNat ++
          (keptText gone before.text).drop (index + count).toNat := by
      refine keptText_append h.nodup hnonneg (by omega) fun position hposition => ?_
      rw [hmem, Int.toNat_of_nonneg hindex, Int.toNat_of_nonneg (by omega)]
      exact and_iff_right ⟨by omega, by omega⟩
    rw [hkept, htext, h.text_eq]
    simp [Edit.start, Edit.stop, Edit.replacement]
  · have hmono : Monotone (movedBound index (index + count) 0) := movedBound_mono le_rfl
    have hspans := visibleSpans_after now (.delete index count)
    simp only [Buffer.after, boundAfter, hperform] at hspans
    calc after.visibleSpans
        = Span.carry (movedBound index (index + count) 0) now.spans := hspans
      _ = Span.carry (movedBound index (index + count) 0) now.visibleSpans :=
          (Span.carry_filter hmono _).symm
      _ = Span.carry (afterDropping (gone ++ group)) before.spans := by
          rw [h.visibleSpans_eq, Span.carry_carry hmono,
            movedBound_comp_afterDropping h.nodup h.inside hindex hcount hfits hboth hmem]

/-- Single positions are deleted in their order, each where it then stands. -/
theorem singles {order : List Int} (h : now.Lacks before gone) (hnodup : (gone ++ order).Nodup)
    (hinside : ∀ d ∈ order, 0 ≤ d ∧ d < before.text.length) :
    ∃ after, (singleDeletions gone order).foldlM perform now = .ok after ∧
      after.Lacks before (gone ++ order) := by
  induction order generalizing now gone with
  | nil => exact ⟨now, rfl, by rwa [List.append_nil]⟩
  | cons position rest ih =>
    have hposition := hinside position (by simp)
    have hout : position ∉ gone := fun hmem =>
      (List.disjoint_of_nodup_append hnodup) hmem (by simp)
    obtain ⟨hfirst, hlast⟩ := h.place_bounds hout hposition
    have hmem : ∀ other, other ∈ [position] ↔ (0 ≤ other ∧ other < before.text.length) ∧
        StandsIn gone (afterDropping gone position) (afterDropping gone position + 1) other := by
      intro other
      rw [List.mem_singleton, standsIn_single_iff h.nodup hout]
      exact ⟨fun heq => ⟨heq ▸ hposition, heq⟩, And.right⟩
    obtain ⟨middle, hperform, hmiddle⟩ :=
      h.delete hfirst (by omega) hlast (List.nodup_singleton position) hmem
    rw [List.append_cons] at hnodup ⊢
    obtain ⟨after, hrest, hafter⟩ := ih hmiddle hnodup fun d hd => hinside d (by simp [hd])
    refine ⟨after, ?_, hafter⟩
    rw [singleDeletions, List.foldlM_cons, hperform]
    exact hrest

/-- After any deletions, whichever of them fail, the positions that they take out are out. -/
theorem afterAll (h : now.Lacks before gone) (calls : List (Int × Int)) :
    (now.afterAll (deletions calls)).Lacks before
      (takenAll before.text.length gone calls) := by
  induction calls generalizing now gone with
  | nil => exact h
  | cons call calls ih =>
    obtain ⟨index, count⟩ := call
    refine ih ?_
    by_cases hfits : 0 ≤ index ∧ 0 ≤ count ∧ index + count + gone.length ≤ before.text.length
    · obtain ⟨hindex, hcount, hfits'⟩ := hfits
      obtain ⟨after, hperform, hafter⟩ := h.delete hindex hcount hfits'
        (nodup_taken ..) fun _ => mem_taken_iff hindex hcount hfits'
      simpa only [Buffer.after, hperform] using hafter
    · have hfail : now.perform (.delete index count) =
          .error ⟨index, index + count, now.text.length⟩ :=
        replace_eq_error_iff.mpr ⟨by have := h.length_eq; omega, rfl⟩
      rw [taken, if_neg hfits, List.append_nil]
      simpa only [Buffer.after, hfail] using h

end Lacks

/-- Deletions that take out the same positions come to the same, whether they are made one at a
time, in any order, or with any regions: the text is that of the other characters, and every bound
of a span is lowered by the number of positions that are taken out before it. -/
theorem deletions_agree (buffer : Buffer) {positions : List Int} (hnodup : positions.Nodup)
    (hinside : ∀ d ∈ positions, 0 ≤ d ∧ d < buffer.text.length) :
    (∀ order, order.Perm positions →
      ∃ after, (singleDeletions [] order).foldlM perform buffer = .ok after ∧
        after.text =
          (buffer.text.zipIdx.filter fun c => (c.2 : Int) ∉ positions).map Prod.fst ∧
        after.visibleSpans = (buffer.spans.map fun span => Span.mk
            (span.start - positions.countP fun d => d < span.start)
            (span.stop - positions.countP fun d => d < span.stop) span.style).filter
          fun span => span.start < span.stop) ∧
    (∀ calls, (∀ d, d ∈ takenAll buffer.text.length [] calls ↔ d ∈ positions) →
      (buffer.afterAll (deletions calls)).text =
          (buffer.text.zipIdx.filter fun c => (c.2 : Int) ∉ positions).map Prod.fst ∧
        (buffer.afterAll (deletions calls)).visibleSpans = (buffer.spans.map fun span => Span.mk
            (span.start - positions.countP fun d => d < span.start)
            (span.stop - positions.countP fun d => d < span.stop) span.style).filter
          fun span => span.start < span.stop) := by
  constructor
  · intro order hperm
    have hnodup' : ([] ++ order).Nodup := hperm.nodup_iff.mpr hnodup
    obtain ⟨after, hrun, hlacks⟩ := (Lacks.refl buffer).singles hnodup' fun d hd =>
      hinside d (hperm.mem_iff.mp hd)
    have h := hlacks.perm hperm
    exact ⟨after, hrun, h.text_eq, h.visibleSpans_eq⟩
  · intro calls hcalls
    have hlacks := (Lacks.refl buffer).afterAll calls
    have h := hlacks.perm ((List.perm_ext_iff_of_nodup hlacks.nodup hnodup).mpr hcalls)
    exact ⟨h.text_eq, h.visibleSpans_eq⟩

/-- Three positions from the last one on, and by two deletions around one that fails; one span ends
between the deleted positions, and another one loses all that it covers. -/
theorem deletions_agree_failed :
    let buffer : Buffer := ⟨['a', 'b', 'c', 'd', 'e'],
      [⟨-1, 4, "bold"⟩, ⟨1, 3, "dim"⟩, ⟨3, 9, "red"⟩]⟩
    let positions : List Int := [1, 2, 4]
    positions.Nodup ∧ (∀ d ∈ positions, 0 ≤ d ∧ d < buffer.text.length) ∧
    [4, 2, 1].Perm positions ∧
    (∃ after, (singleDeletions [] [4, 2, 1]).foldlM perform buffer = .ok after ∧
      after.text = ['a', 'd'] ∧ after.visibleSpans = [⟨-1, 2, "bold"⟩, ⟨1, 6, "red"⟩]) ∧
    (∀ d, d ∈ takenAll buffer.text.length [] [(4, 1), (3, 2), (1, 2)] ↔ d ∈ positions) ∧
    (buffer.afterAll (deletions [(4, 1), (3, 2), (1, 2)])).visibleSpans =
      [⟨-1, 2, "bold"⟩, ⟨1, 6, "red"⟩] := by
  intro buffer positions
  have hnodup : positions.Nodup := by decide
  have hinside : ∀ d ∈ positions, 0 ≤ d ∧ d < buffer.text.length := by decide
  have hperm : [4, 2, 1].Perm positions := by decide
  have htaken : ∀ d, d ∈ takenAll buffer.text.length [] [(4, 1), (3, 2), (1, 2)] ↔
      d ∈ positions := by
    have heq : takenAll buffer.text.length [] [(4, 1), (3, 2), (1, 2)] = [4, 1, 2] := by decide
    intro d
    simp only [heq, positions, List.mem_cons, List.not_mem_nil, or_false]
    omega
  obtain ⟨hsingles, hcalls⟩ := deletions_agree buffer hnodup hinside
  obtain ⟨after, hrun, htext, hspans⟩ := hsingles _ hperm
  obtain ⟨-, hspans'⟩ := hcalls _ htaken
  refine ⟨hnodup, hinside, hperm, ⟨after, hrun, htext.trans ?_, hspans.trans ?_⟩, htaken,
    hspans'.trans ?_⟩
  all_goals decide

end Buffer

end TintedText
