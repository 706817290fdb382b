import TintedText.Proofs.Calling
import TintedText.Proofs.Racing

/-!
# Calls one after another

When calls at the same time have all ended, they have done what as many calls do one after another
(`results_eq_of_ended`): the first of these builds and reports and the others find its result kept,
or each of them is refused and reports it. So the step of a workshop that stands for calls at the
same time does what they do in any order of their steps (`formatTogether_of_ended`).
-/
namespace TintedText

/-- How a call that has ended came out. -/
def Stage.outcome? : Stage → Option (Except WorkshopError Result)
  | returned result => result.map .ok
  | raised error => some (.error (.format error))
  | called | waiting | entered | building | built _ | leaving _ | reading => none

lemma Stage.eq_of_outcome? {stage : Stage} {outcome : Except WorkshopError Result}
    (h : stage.outcome? = some outcome) :
    (∃ result, stage = .returned (some result) ∧ outcome = .ok result) ∨
      ∃ error, stage = .raised error ∧ outcome = .error (.format error) := by
  cases stage with
  | returned result =>
    obtain ⟨result, rfl, rfl⟩ := Option.map_eq_some_iff.mp h
    exact .inl ⟨result, rfl, rfl⟩
  | raised error =>
    cases h
    exact .inr ⟨error, rfl, rfl⟩
  | _ => cases h

/-- A workshop after calls to format one of its phrases. -/
def Race.workshop {calls : Nat} (race : Race calls) (before : Workshop) (number : Nat)
    (slot : Slot) : Workshop where
  slots := before.slots.set number { slot with cached := race.cached }
  built := race.built
  log := before.log ++ race.log.map fun entry => (slot.journal, entry.2)

namespace Workshop

variable {workshop : Workshop} {number : Nat} {slot : Slot} {styled : StyledText}
  {error : FormatError} {report : Log.Report}

/-! ### Calls one after another -/

lemma results_succ (workshop : Workshop) (number count : Nat) :
    workshop.results number (count + 1) =
      ((workshop.result number).1 :: ((workshop.result number).2.results number count).1,
        ((workshop.result number).2.results number count).2) := rfl

lemma results_of_kept? {result : Result} (hkept : workshop.kept? number = some result)
    (count : Nat) :
    workshop.results number count = (List.replicate count (.ok result), workshop) := by
  obtain ⟨houtcome, hnext⟩ := (formats_result workshop number).eq_of_kept? hkept
  induction count with
  | zero => rfl
  | succ count ih => rw [results_succ, houtcome, hnext, ih, List.replicate_succ]

lemma results_of_ok (hslot : workshop.slots[number]? = some slot) (hcached : slot.cached = none)
    (hbuild : slot.phrase.build = ⟨.ok styled, [report]⟩) (count : Nat) :
    workshop.results number (count + 1) =
      (List.replicate (count + 1) (.ok ⟨workshop.built, styled⟩),
        { slots := workshop.slots.set number { slot with cached := some ⟨workshop.built, styled⟩ }
          built := workshop.built + 1
          log := workshop.log ++ [(slot.journal, report)] }) := by
  have hformats := formats_result workshop number
  have hresult : workshop.result number =
      (.ok ⟨workshop.built, styled⟩,
        { slots := workshop.slots.set number { slot with cached := some ⟨workshop.built, styled⟩ }
          built := workshop.built + 1
          log := workshop.log ++ [(slot.journal, report)] }) := by
    simp only [result, Workshop.slot, hslot, hcached, hbuild, List.map_cons, List.map_nil]
  rw [hresult] at hformats
  rw [results_succ, hresult, results_of_kept? hformats.kept?_of_ok, List.replicate_succ]

lemma results_of_error (hslot : workshop.slots[number]? = some slot) (hcached : slot.cached = none)
    (hbuild : slot.phrase.build = ⟨.error error, [report]⟩) (count : Nat) :
    workshop.results number count = (List.replicate count (.error (.format error)),
      { workshop with
        log := workshop.log ++ List.replicate count (slot.journal, report) }) := by
  induction count generalizing workshop with
  | zero => simp [results]
  | succ count ih =>
    have hresult : workshop.result number = (.error (.format error),
        { workshop with log := workshop.log ++ [(slot.journal, report)] }) := by
      simp only [result, Workshop.slot, hslot, hcached, hbuild, List.map_cons, List.map_nil]
    have hrest := @ih { workshop with log := workshop.log ++ [(slot.journal, report)] } hslot
    rw [results_succ, hresult, hrest]
    simp [List.replicate_succ]

/-! ### Calls at the same time -/

variable {calls : Nat} {race : Race calls}

lemma slots_set_eq {cached : Option Result} (hslot : workshop.slots[number]? = some slot)
    (hcached : slot.cached = cached) :
    workshop.slots.set number { slot with cached } = workshop.slots := by
  subst hcached
  obtain ⟨hlt, rfl⟩ := List.getElem?_eq_some_iff.mp hslot
  exact List.set_getElem_self hlt

/-- When all calls have ended with the errors of their builds, each of them has built once. -/
lemma length_builds (hfruitless : Race.Fruitless workshop.built race)
    (hfailed : ∀ call, (race.stages call).hasFailed = true) : race.builds.length = calls := by
  have hperm : race.builds.Perm (List.finRange calls) := by
    rw [List.perm_iff_count]
    intro call
    rw [hfruitless.count_eq, if_pos (hfailed call),
      List.count_eq_one_of_mem (List.nodup_finRange calls) (List.mem_finRange call)]
  rw [hperm.length_eq, List.length_finRange]

/-- The reports of calls at the same time, with the journal of the phrase. -/
lemma map_log_eq {cached : Option Result} (hreport : slot.phrase.build.reports = [report])
    (h : Race.Reaches slot.phrase (.start calls cached workshop.built) race) :
    (race.log.map fun entry => (slot.journal, entry.2)) =
      List.replicate race.builds.length (slot.journal, report) := by
  rw [h.log_eq_map hreport, List.map_map]
  simp only [Function.comp_def, List.map_const']

lemma results_eq_of_filled {result : Result} (hvalid : workshop.Valid)
    (hslot : workshop.slots[number]? = some slot) (hcached : slot.cached = some result)
    (h : Race.Reaches slot.phrase (.start calls (some result) workshop.built) race)
    (hended : ∀ call, (race.stages call).HasEnded) :
    workshop.results number calls =
        (List.replicate calls (.ok result), race.workshop workshop number slot) ∧
      ∀ call, (race.stages call).outcome? = some (.ok result) := by
  have hkept : workshop.kept? number = some result := kept?_eq_some_iff.mpr ⟨slot, hslot, hcached⟩
  have hformat := (hvalid slot (List.mem_of_getElem? hslot)).cached result hcached
  obtain ⟨hkept', hbuilds, hbuilt⟩ := h.of_filled
  refine ⟨?_, fun call => ?_⟩
  · have hlog : race.log = [] := by
      rw [h.log_eq, hbuilds, List.flatMap_nil]
    rw [results_of_kept? hkept]
    unfold Race.workshop
    rw [hkept', hbuilt, hlog, slots_set_eq hslot hcached, List.map_nil, List.append_nil]
  · obtain ⟨result', hstage, hresult⟩ | ⟨error, -, herror⟩ := h.ended (hended call)
    · rw [hkept'] at hresult
      rw [hstage, ← hresult]
      rfl
    · rw [hformat] at herror
      cases herror

/-- Calls of which one has built are as the first call that builds and the others that find its
result. -/
lemma results_eq_of_ok (hslot : workshop.slots[number]? = some slot) (hcached : slot.cached = none)
    (hbuild : slot.phrase.build = ⟨.ok styled, [report]⟩)
    (h : Race.Reaches slot.phrase (.start calls none workshop.built) race)
    (hended : ∀ call, (race.stages call).HasEnded) :
    workshop.results number calls =
        (List.replicate calls (.ok ⟨workshop.built, styled⟩),
          race.workshop workshop number slot) ∧
      ∀ call, (race.stages call).outcome? = some (.ok ⟨workshop.built, styled⟩) := by
  have hformat : slot.phrase.format = .ok styled := by rw [Phrase.format, hbuild]
  have hlog := map_log_eq (by rw [hbuild]) h
  have hreturned (call : Fin calls) : ∃ result, race.stages call = .returned (some result) ∧
      race.cached = some result := by
    refine (h.ended (hended call)).resolve_right ?_
    rintro ⟨error, -, herror⟩
    rw [hformat] at herror
    cases herror
  unfold Race.workshop
  rw [hlog]
  cases h.single hformat with
  | empty hkept hbuilds hbuilt =>
    -- a call that has ended would have handed out what is not kept
    have hnone (call : Fin calls) : False := by
      obtain ⟨result, -, hresult⟩ := hreturned call
      rw [hkept] at hresult
      cases hresult
    obtain rfl : calls = 0 := by
      cases calls with
      | zero => rfl
      | succ count => exact (hnone 0).elim
    refine ⟨?_, fun call => (hnone call).elim⟩
    rw [hkept, hbuilds, hbuilt, slots_set_eq hslot hcached]
    simp [results]
  | @pending builder _ _ _ hstage =>
    obtain ⟨result, hstage', -⟩ := hreturned builder
    rw [hstage] at hstage'
    cases hstage'
  | @kept builder hkept hbuilds hbuilt =>
    refine ⟨?_, fun call => ?_⟩
    · cases calls with
      | zero => exact builder.elim0
      | succ count =>
        rw [results_of_ok hslot hcached hbuild, hkept, hbuilds, hbuilt]
        rfl
    · obtain ⟨result, hstage, hresult⟩ := hreturned call
      rw [hkept] at hresult
      rw [hstage, ← hresult]
      rfl

/-- Calls that have all failed are as calls that are refused one after another. -/
lemma results_eq_of_error (hslot : workshop.slots[number]? = some slot)
    (hcached : slot.cached = none) (hbuild : slot.phrase.build = ⟨.error error, [report]⟩)
    (h : Race.Reaches slot.phrase (.start calls none workshop.built) race)
    (hended : ∀ call, (race.stages call).HasEnded) :
    workshop.results number calls =
        (List.replicate calls (.error (.format error)), race.workshop workshop number slot) ∧
      ∀ call, (race.stages call).outcome? = some (.error (.format error)) := by
  have hformat : slot.phrase.format = .error error := by rw [Phrase.format, hbuild]
  have hreport : slot.phrase.build.reports = [report] := by rw [hbuild]
  have hfruitless := h.fruitless hformat
  have hraised (call : Fin calls) : race.stages call = .raised error :=
    (h.of_format_error hformat hreport (hended call)).1
  have hlength := length_builds hfruitless fun call => by rw [hraised call]; rfl
  refine ⟨?_, fun call => by rw [hraised call]; rfl⟩
  unfold Race.workshop
  rw [results_of_error hslot hcached hbuild, map_log_eq hreport h, hlength, hfruitless.cached_eq,
    hfruitless.built_eq, slots_set_eq hslot hcached]

/-- Calls at the same time that have all ended have the same outcome, and together they have done
what as many calls do one after another. -/
theorem results_eq_of_ended (hvalid : workshop.Valid)
    (hslot : workshop.slots[number]? = some slot)
    (h : Race.Reaches slot.phrase (.start calls slot.cached workshop.built) race)
    (hended : ∀ call, (race.stages call).HasEnded) :
    ∃ outcome, workshop.results number calls =
        (List.replicate calls outcome, race.workshop workshop number slot) ∧
      ∀ call, (race.stages call).outcome? = some outcome := by
  obtain ⟨report, hbuild⟩ := slot.phrase.exists_report
  cases hcached : slot.cached with
  | some result =>
    rw [hcached] at h
    exact ⟨_, results_eq_of_filled hvalid hslot hcached h hended⟩
  | none =>
    rw [hcached] at h
    cases hformat : slot.phrase.format with
    | ok styled =>
      rw [hformat] at hbuild
      exact ⟨_, results_eq_of_ok hslot hcached hbuild h hended⟩
    | error error =>
      rw [hformat] at hbuild
      exact ⟨_, results_eq_of_error hslot hcached hbuild h hended⟩

/-- The step that stands for calls at the same time answers what all of these hand out, the same for
each of them, or fails with the error that all of them raise. -/
theorem formatTogether_of_ended {others : Nat} {race : Race (others + 1)} (hvalid : workshop.Valid)
    (hslot : workshop.slots[number]? = some slot)
    (h : Race.Reaches slot.phrase (.start (others + 1) slot.cached workshop.built) race)
    (hended : ∀ call, (race.stages call).HasEnded) :
    (∃ result, (∀ call, race.stages call = .returned (some result)) ∧
        workshop.perform (.formatTogether number others) =
          (.ok (.formattedTogether result true), race.workshop workshop number slot)) ∨
      ∃ error, (∀ call, race.stages call = .raised error) ∧
        workshop.perform (.formatTogether number others) =
          (.error (.format error), race.workshop workshop number slot) := by
  obtain ⟨outcome, hresults, hall⟩ := results_eq_of_ended hvalid hslot h hended
  rw [results_succ, List.replicate_succ, Prod.mk.injEq, List.cons.injEq] at hresults
  obtain ⟨⟨hfirst, hothers⟩, hlast⟩ := hresults
  rcases hresult : workshop.result number with ⟨first, next⟩
  rw [hresult] at hfirst hothers hlast
  subst hfirst
  obtain ⟨result, -, rfl⟩ | ⟨error, -, rfl⟩ := Stage.eq_of_outcome? (hall 0)
  · refine .inl ⟨result, fun call => ?_, ?_⟩
    · obtain ⟨result', hstage, hok⟩ | ⟨error, -, herror⟩ := Stage.eq_of_outcome? (hall call)
      · rw [hstage, Except.ok.inj hok]
      · cases herror
    · simp [perform, hresult, hothers, hlast, hasNumber]
  · refine .inr ⟨error, fun call => ?_, ?_⟩
    · obtain ⟨result, -, hok⟩ | ⟨error', hstage, herror⟩ := Stage.eq_of_outcome? (hall call)
      · cases hok
      · cases herror
        exact hstage
    · simp only [perform, hresult, hlast]

end Workshop

end TintedText
