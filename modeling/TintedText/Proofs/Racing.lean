import TintedText.Proofs.Outcome
import TintedText.Race

/-!
# Calls at the same time

A step moves one call only (`Step.stages_of_ne`), and what it does to the lock, to the kept result
and to the builds is told once (`Step.lock_cases`, `Step.cached_cases`, `Step.builds_cases`). From
these come the invariants: the lock is with the one call between taking it and giving it back
(`Locked`), and each call is at a stage that agrees with the kept result (`Stage.Agrees`). With them
there is at most one build when the pattern can be formatted (`Single`), and one for each call that
failed when it cannot (`Fruitless`).
-/
namespace TintedText

/-- What a stage says of the kept result, and of what formatting the phrase gives. -/
def Stage.Agrees (format : Except FormatError StyledText) (cached : Option Result) : Stage → Prop
  | called | waiting | entered => True
  | building => cached = none
  | built result => cached = none ∧ format = .ok result.styled
  | leaving none | reading => cached ≠ none
  | leaving (some error) | raised error => format = .error error
  | returned result => result = cached ∧ cached ≠ none

/-- A call without the lock that agrees with nothing being kept agrees with anything. -/
lemma Stage.Agrees.of_none {format : Except FormatError StyledText} {stage : Stage}
    (h : stage.Agrees format none) (hlock : ¬ stage.HasLock) (cached : Option Result) :
    stage.Agrees format cached := by
  cases stage with
  | called | waiting | raised => exact h
  | entered | building | built | leaving => exact absurd trivial hlock
  | reading => exact absurd rfl h
  | returned => exact absurd rfl h.2

def Stage.hasFailed : Stage → Bool
  | leaving (some _) | raised _ => true
  | _ => false

namespace Race

variable {calls : Nat} {phrase : Phrase} {call other : Fin calls} {race next : Race calls}
  {cached : Option Result} {number : Nat}
  {styled : StyledText} {error : FormatError}

@[simp] lemma stages_move_self (race : Race calls) (call : Fin calls) (stage : Stage) :
    (race.move call stage).stages call = stage :=
  Function.update_self ..

lemma stages_move_of_ne (h : other ≠ call) (race : Race calls) (stage : Stage) :
    (race.move call stage).stages other = race.stages other :=
  Function.update_of_ne h ..

@[simp] lemma cached_move (race : Race calls) (call : Fin calls) (stage : Stage) :
    (race.move call stage).cached = race.cached := rfl

@[simp] lemma built_move (race : Race calls) (call : Fin calls) (stage : Stage) :
    (race.move call stage).built = race.built := rfl

@[simp] lemma stages_note (race : Race calls) (call : Fin calls) (reports : List Log.Report) :
    (race.note call reports).stages = race.stages := rfl

@[simp] lemma cached_note (race : Race calls) (call : Fin calls) (reports : List Log.Report) :
    (race.note call reports).cached = race.cached := rfl

@[simp] lemma built_note (race : Race calls) (call : Fin calls) (reports : List Log.Report) :
    (race.note call reports).built = race.built := rfl

/-! ### What a step does -/

lemma Step.stages_of_ne (h : Step phrase call race next) (hne : other ≠ call) :
    next.stages other = race.stages other := by
  cases h <;> exact stages_move_of_ne hne ..

/-- The lock is taken when it is free, given back by the call that has it, or stays where it is. -/
lemma Step.lock_cases (h : Step phrase call race next) :
    (next.lock = race.lock ∧ ((next.stages call).HasLock ↔ (race.stages call).HasLock)) ∨
    (race.lock = none ∧ next.lock = some call ∧ (next.stages call).HasLock) ∨
    ((race.stages call).HasLock ∧ next.lock = none ∧ ¬ (next.stages call).HasLock) := by
  cases h with
  | took hstage hlock =>
    refine .inr (.inl ⟨hlock, rfl, ?_⟩)
    simp [Stage.HasLock]
  | left hstage | failed hstage =>
    refine .inr (.inr ⟨?_, rfl, ?_⟩) <;> simp [hstage, Stage.HasLock]
  | found hstage | missed hstage | foundAgain hstage | missedAgain hstage | built hstage
  | refused hstage | stored hstage | answered hstage =>
    refine .inl ⟨rfl, ?_⟩
    simp [hstage, Stage.HasLock]

/-- The kept result changes only when one is kept that was built. -/
lemma Step.cached_cases (h : Step phrase call race next) :
    next.cached = race.cached ∨
      ∃ result, race.stages call = .built result ∧ next.cached = some result := by
  cases h with
  | stored hstage => exact .inr ⟨_, hstage, rfl⟩
  | _ => exact .inl rfl

/-- A build is a result or a failure of the phrase; other steps build and report nothing. -/
lemma Step.builds_cases (h : Step phrase call race next) :
    (next.builds = race.builds ∧ next.log = race.log ∧ next.built = race.built ∧
      ((next.stages call).hasFailed = (race.stages call).hasFailed) ∧
      ∀ result, next.stages call ≠ .built result) ∨
    (race.stages call = .building ∧ next.builds = race.builds ++ [call] ∧
      next.log = race.log ++ phrase.build.reports.map (call, ·) ∧ next.cached = race.cached ∧
      ((∃ styled, phrase.format = .ok styled ∧ next.built = race.built + 1 ∧
          next.stages call = .built ⟨race.built, styled⟩) ∨
        ∃ error, phrase.format = .error error ∧ next.built = race.built ∧
          next.stages call = .leaving (some error))) := by
  cases h with
  | built hstage hbuild | refused hstage hbuild =>
    refine .inr ⟨hstage, rfl, by rw [hbuild]; rfl, rfl, ?_⟩
    simp [Phrase.format, hbuild]
  | found hstage | missed hstage | took hstage | foundAgain hstage | missedAgain hstage
  | stored hstage | left hstage | failed hstage | answered hstage =>
    refine .inl ⟨rfl, rfl, rfl, ?_, fun result => ?_⟩ <;> simp [hstage, Stage.hasFailed]

/-- What holds of the first race and is kept by every step holds of all races that are reached. -/
@[elab_as_elim]
theorem Reaches.invariant {first : Race calls} {motive : Race calls → Prop}
    (h : Reaches phrase first race) (hfirst : motive first)
    (hstep : ∀ {race next : Race calls} {call : Fin calls}, Reaches phrase first race →
      Step phrase call race next → motive race → motive next) : motive race := by
  induction h with
  | refl => exact hfirst
  | tail hreaches hlast ih =>
    obtain ⟨call, hlast⟩ := hlast
    exact hstep hreaches hlast ih

/-! ### The lock -/

/-- The lock is with the call that is between taking it and giving it back. -/
def Locked (race : Race calls) : Prop :=
  ∀ call, race.lock = some call ↔ (race.stages call).HasLock

lemma Locked.eq (h : race.Locked) (hcall : (race.stages call).HasLock)
    (hother : (race.stages other).HasLock) : call = other :=
  Option.some.inj (((h call).mpr hcall).symm.trans ((h other).mpr hother))

lemma locked_start : (start calls cached number).Locked := by
  intro call
  simp [start, Stage.HasLock]

lemma Step.locked (h : Step phrase call race next) (hlocked : race.Locked) : next.Locked := by
  intro other
  by_cases hne : other = call
  · subst hne
    obtain ⟨hlock, hiff⟩ | ⟨-, hlock, hhas⟩ | ⟨-, hlock, hnot⟩ := h.lock_cases
    · rw [hlock, hlocked, hiff]
    · simp [hlock, hhas]
    · simp [hlock, hnot]
  · rw [h.stages_of_ne hne, ← hlocked]
    obtain ⟨hlock, -⟩ | ⟨hfree, hlock, -⟩ | ⟨hhas, hlock, -⟩ := h.lock_cases
    · rw [hlock]
    · simp [hlock, hfree, Ne.symm hne]
    · simp [hlock, (hlocked call).mpr hhas, Ne.symm hne]

theorem Reaches.locked (h : Reaches phrase (start calls cached number) race) : race.Locked :=
  h.invariant locked_start fun _ hstep => hstep.locked

/-- As long as a call has not ended, some call can do a step: there is no deadlock. -/
theorem Locked.exists_step (h : race.Locked) (hcall : ¬ (race.stages call).HasEnded) :
    ∃ other next, Step phrase other race next := by
  have hinside {holder : Fin calls} (hholder : (race.stages holder).HasLock) :
      ∃ next, Step phrase holder race next := by
    cases hstage : race.stages holder with
    | entered =>
      by_cases hcached : race.cached = none
      · exact ⟨_, .missedAgain hstage hcached⟩
      · exact ⟨_, .foundAgain hstage hcached⟩
    | building =>
      rcases hbuild : phrase.build with ⟨error | styled, reports⟩
      · exact ⟨_, .refused hstage hbuild⟩
      · exact ⟨_, .built hstage hbuild⟩
    | built result => exact ⟨_, .stored hstage⟩
    | leaving failure =>
      cases failure with
      | none => exact ⟨_, .left hstage⟩
      | some error => exact ⟨_, .failed hstage⟩
    | _ => simp [hstage, Stage.HasLock] at hholder
  cases hstage : race.stages call with
  | called =>
    by_cases hcached : race.cached = none
    · exact ⟨call, _, .missed hstage hcached⟩
    · exact ⟨call, _, .found hstage hcached⟩
  | waiting =>
    -- it waits for a call that can go on
    cases hlock : race.lock with
    | none => exact ⟨call, _, .took hstage hlock⟩
    | some holder => exact ⟨holder, hinside ((h holder).mp hlock)⟩
  | reading => exact ⟨call, _, .answered hstage⟩
  | returned result | raised error => simp [hstage, Stage.HasEnded] at hcall
  | _ => exact ⟨call, hinside (by simp [hstage, Stage.HasLock])⟩

/-! ### Stages and the kept result -/

lemma Step.agrees (h : Step phrase call race next) (hlocked : race.Locked)
    (hagrees : ∀ other, (race.stages other).Agrees phrase.format race.cached) (other : Fin calls) :
    (next.stages other).Agrees phrase.format next.cached := by
  have hcall := hagrees call
  by_cases hne : other = call
  · subst hne
    cases h with
    | missed | took => simp [Stage.Agrees]
    | found hstage hcached | foundAgain hstage hcached | missedAgain hstage hcached =>
      simpa [Stage.Agrees] using hcached
    | built hstage hbuild =>
      rw [hstage] at hcall
      simpa [Stage.Agrees, Phrase.format, hbuild] using hcall
    | refused hstage hbuild => simp [Stage.Agrees, Phrase.format, hbuild]
    | stored => simp [Stage.Agrees]
    | left hstage | failed hstage | answered hstage =>
      rw [hstage] at hcall
      simpa [Stage.Agrees] using hcall
  · rw [h.stages_of_ne hne]
    obtain hcached | ⟨result, hstage, hcached⟩ := h.cached_cases
    · rw [hcached]
      exact hagrees other
    · -- the call that keeps its result has the lock, so that no other one is building
      have hother : ¬ (race.stages other).HasLock := fun hother =>
        hne (hlocked.eq hother (by simp [hstage, Stage.HasLock]))
      rw [hstage] at hcall
      exact (hcall.1 ▸ hagrees other).of_none hother _

theorem Reaches.agrees (h : Reaches phrase (start calls cached number) race) :
    ∀ call, (race.stages call).Agrees phrase.format race.cached :=
  h.invariant (fun _ => trivial) fun hreaches hstep => hstep.agrees hreaches.locked

/-! ### Builds -/

theorem Reaches.log_eq (h : Reaches phrase (start calls cached number) race) :
    race.log = race.builds.flatMap fun call => phrase.build.reports.map (call, ·) := by
  refine h.invariant rfl fun _ hstep hsame => ?_
  obtain ⟨hbuilds, hlog, -⟩ | ⟨-, hbuilds, hlog, -⟩ := hstep.builds_cases
  · rw [hbuilds, hlog, hsame]
  · rw [hbuilds, hlog, hsame, List.flatMap_append, List.flatMap_singleton]

/-- Nobody builds when there is a kept result, and it stays. -/
theorem Reaches.of_filled {result : Result}
    (h : Reaches phrase (start calls (some result) number) race) :
    race.cached = some result ∧ race.builds = [] ∧ race.built = number := by
  refine h.invariant ⟨rfl, rfl, rfl⟩ fun {race next call} hreaches hstep hkept => ?_
  obtain ⟨hcached, hbuilds, hbuilt⟩ := hkept
  have hagrees := hreaches.agrees call
  rw [hcached] at hagrees
  refine ⟨?_, ?_⟩
  · obtain hsame | ⟨result, hstage, -⟩ := hstep.cached_cases
    · rw [hsame, hcached]
    · rw [hstage] at hagrees
      cases hagrees.1
  · obtain ⟨hsame, -, hsame', -⟩ | ⟨hstage, -⟩ := hstep.builds_cases
    · rw [hsame, hsame']
      exact ⟨hbuilds, hbuilt⟩
    · rw [hstage] at hagrees
      cases hagrees

/-- How far calls have come together when nothing was kept and the pattern can be formatted: nothing
is built, a result is built and about to be kept, or it is kept. -/
inductive Single (number : Nat) (styled : StyledText) (race : Race calls) : Prop
  | empty (hcached : race.cached = none) (hbuilds : race.builds = []) (hbuilt : race.built = number)
      (hstages : ∀ call result, race.stages call ≠ .built result)
  | pending {call : Fin calls} (hcached : race.cached = none) (hbuilds : race.builds = [call])
      (hbuilt : race.built = number + 1) (hstage : race.stages call = .built ⟨number, styled⟩)
  | kept {call : Fin calls} (hcached : race.cached = some ⟨number, styled⟩)
      (hbuilds : race.builds = [call]) (hbuilt : race.built = number + 1)

lemma Step.of_built {result : Result} (h : Step phrase call race next)
    (hstage : race.stages call = .built result) :
    next = { race.move call (.leaving none) with cached := some result } := by
  cases h with
  | stored hstage' =>
    rw [hstage] at hstage'
    cases hstage'
    rfl
  | found hstage' | missed hstage' | took hstage' | foundAgain hstage' | missedAgain hstage'
  | built hstage' | refused hstage' | left hstage' | failed hstage' | answered hstage' =>
    rw [hstage] at hstage'
    cases hstage'

lemma Step.single (h : Step phrase call race next) (hformat : phrase.format = .ok styled)
    (hlocked : race.Locked)
    (hagrees : ∀ other, (race.stages other).Agrees phrase.format race.cached)
    (hsingle : Single number styled race) : Single number styled next := by
  have hcall := hagrees call
  cases hsingle with
  | empty hcached hbuilds hbuilt hstages =>
    obtain ⟨hbuilds', -, hbuilt', -, hnew⟩ | ⟨-, hbuilds', -, hcached', hend⟩ := h.builds_cases
    · obtain hcached' | ⟨result, hstage, -⟩ := h.cached_cases
      · refine .empty (hcached'.trans hcached) (hbuilds'.trans hbuilds) (hbuilt'.trans hbuilt) ?_
        intro other
        by_cases hne : other = call
        · rw [hne]
          exact hnew
        · rw [h.stages_of_ne hne]
          exact hstages other
      · exact absurd hstage (hstages call result)
    · obtain ⟨styled', hformat', hbuilt', hstage⟩ | ⟨error, hformat', -⟩ := hend
      · obtain rfl : styled = styled' := Except.ok.inj (hformat.symm.trans hformat')
        rw [hbuilt] at hbuilt' hstage
        exact .pending (hcached'.trans hcached) (by rw [hbuilds', hbuilds]; rfl) hbuilt' hstage
      · rw [hformat] at hformat'
        cases hformat'
  | @pending builder hcached hbuilds hbuilt hstage =>
    by_cases hne : builder = call
    · rw [hne] at hstage hbuilds
      rw [h.of_built hstage]
      exact .kept rfl hbuilds hbuilt
    · have houtside (hlock : (race.stages call).HasLock) : False :=
        hne (hlocked.eq (by simp [hstage, Stage.HasLock]) hlock)
      obtain ⟨hbuilds', -, hbuilt', -⟩ | ⟨hbuilding, -⟩ := h.builds_cases
      · obtain hcached' | ⟨result, hstored, -⟩ := h.cached_cases
        · exact .pending (hcached'.trans hcached) (hbuilds'.trans hbuilds) (hbuilt'.trans hbuilt)
            ((h.stages_of_ne hne).trans hstage)
        · exact (houtside (by simp [hstored, Stage.HasLock])).elim
      · exact (houtside (by simp [hbuilding, Stage.HasLock])).elim
  | kept hcached hbuilds hbuilt =>
    rw [hcached] at hcall
    obtain ⟨hbuilds', -, hbuilt', -⟩ | ⟨hbuilding, -⟩ := h.builds_cases
    · obtain hcached' | ⟨result, hstored, -⟩ := h.cached_cases
      · exact .kept (hcached'.trans hcached) (hbuilds'.trans hbuilds) (hbuilt'.trans hbuilt)
      · rw [hstored] at hcall
        cases hcall.1
    · rw [hbuilding] at hcall
      cases hcall

theorem Reaches.single (h : Reaches phrase (start calls none number) race)
    (hformat : phrase.format = .ok styled) : Single number styled race :=
  h.invariant (.empty rfl rfl rfl (by simp [start])) fun hreaches hstep =>
    hstep.single hformat hreaches.locked hreaches.agrees

/-- Nothing is kept, and the calls that have built are those that have failed, each once. -/
structure Fruitless (number : Nat) (race : Race calls) : Prop where
  cached_eq : race.cached = none
  built_eq : race.built = number
  count_eq : ∀ call, race.builds.count call = if (race.stages call).hasFailed then 1 else 0

lemma Step.fruitless (h : Step phrase call race next) (hformat : phrase.format = .error error)
    (hagrees : ∀ other, (race.stages other).Agrees phrase.format race.cached)
    (hfruitless : Fruitless number race) : Fruitless number next := by
  obtain ⟨hcached, hbuilt, hcount⟩ := hfruitless
  have hcall := hagrees call
  rw [hformat] at hcall
  obtain ⟨hbuilds', -, hbuilt', hfailed, -⟩ | ⟨hstage, hbuilds', -, hcached', hend⟩ :=
    h.builds_cases
  · obtain hcached' | ⟨result, hstage, -⟩ := h.cached_cases
    · refine ⟨hcached'.trans hcached, hbuilt'.trans hbuilt, fun other => ?_⟩
      rw [hbuilds', hcount]
      by_cases hne : other = call
      · rw [hne, hfailed]
      · rw [h.stages_of_ne hne]
    · rw [hstage] at hcall
      cases hcall.2
  · obtain ⟨styled, hformat', -⟩ | ⟨error', -, hbuilt', hstage'⟩ := hend
    · rw [hformat] at hformat'
      cases hformat'
    · refine ⟨hcached'.trans hcached, hbuilt'.trans hbuilt, fun other => ?_⟩
      rw [hbuilds', List.count_append, hcount]
      by_cases hne : other = call
      · simp [hne, hstage, hstage', Stage.hasFailed]
      · rw [h.stages_of_ne hne, List.count_singleton, beq_eq_false_iff_ne.mpr (Ne.symm hne)]
        rfl

theorem Reaches.fruitless (h : Reaches phrase (start calls none number) race)
    (hformat : phrase.format = .error error) : Fruitless number race :=
  h.invariant ⟨rfl, rfl, fun _ => rfl⟩ fun hreaches hstep =>
    hstep.fruitless hformat hreaches.agrees

/-! ### Calls that have ended -/

lemma Reaches.ended (h : Reaches phrase (start calls cached number) race)
    (hended : (race.stages call).HasEnded) :
    (∃ result, race.stages call = .returned (some result) ∧ race.cached = some result) ∨
      ∃ error, race.stages call = .raised error ∧ phrase.format = .error error := by
  have hagrees := h.agrees call
  cases hstage : race.stages call with
  | returned outcome =>
    rw [hstage] at hagrees
    obtain ⟨rfl, hsome⟩ := hagrees
    obtain ⟨result, hresult⟩ := Option.ne_none_iff_exists'.mp hsome
    exact .inl ⟨result, by rw [hresult], hresult⟩
  | raised error =>
    rw [hstage] at hagrees
    exact .inr ⟨error, rfl, hagrees⟩
  | _ => simp [hstage, Stage.HasEnded] at hended

lemma Reaches.log_eq_map {report : Log.Report} (h : Reaches phrase (start calls cached number) race)
    (hreport : phrase.build.reports = [report]) : race.log = race.builds.map (·, report) := by
  rw [h.log_eq, hreport, List.map_eq_flatMap]
  rfl

/-- When the pattern can be formatted, there is at most one build, none if a result was kept at
first, and what is kept is this result or the one that was built. -/
lemma Reaches.of_format_ok (h : Reaches phrase (start calls cached number) race)
    (hformat : phrase.format = .ok styled) :
    race.builds.length ≤ 1 ∧ (cached ≠ none → race.builds = []) ∧
      (race.cached = none ∨ race.cached = some (cached.getD ⟨number, styled⟩)) := by
  cases cached with
  | some result =>
    obtain ⟨hkept, hbuilds, -⟩ := h.of_filled
    exact ⟨by simp [hbuilds], fun _ => hbuilds, .inr hkept⟩
  | none =>
    cases h.single hformat with
    | empty hkept hbuilds => exact ⟨by simp [hbuilds], by simp, .inl hkept⟩
    | pending hkept hbuilds => exact ⟨by simp [hbuilds], by simp, .inl hkept⟩
    | kept hkept hbuilds => exact ⟨by simp [hbuilds], by simp, .inr hkept⟩

/-- When the pattern cannot be formatted, a call that has ended has raised its error after one
report. -/
lemma Reaches.of_format_error {report : Log.Report}
    (h : Reaches phrase (start calls none number) race) (hformat : phrase.format = .error error)
    (hreport : phrase.build.reports = [report]) (hended : (race.stages call).HasEnded) :
    race.stages call = .raised error ∧ race.log.filter (·.1 == call) = [(call, report)] := by
  have hfruitless := h.fruitless hformat
  obtain ⟨result, -, hkept⟩ | ⟨error', hstage, hformat'⟩ := h.ended hended
  · rw [hfruitless.cached_eq] at hkept
    cases hkept
  · obtain rfl : error = error' := Except.error.inj (hformat.symm.trans hformat')
    have hcount : race.builds.count call = 1 := by
      rw [hfruitless.count_eq, hstage]
      rfl
    refine ⟨hstage, ?_⟩
    rw [h.log_eq_map hreport, List.filter_map]
    change (race.builds.filter (· == call)).map _ = _
    rw [List.filter_beq, hcount]
    rfl

/-- Any number of calls to format one phrase at the same time, in every order of their steps,
whether or not a result was kept at first.
* The lock is with the one call that is between taking it and giving it back.
* When the pattern can be formatted, at most one result is built and reported, none if one was kept
  at first; no call fails, and all that have returned handed out the same result.
* When it cannot, so that nothing was kept at first, nothing is kept later either, and each call
  that has ended raised the same error, after one report of its own and without the lock. -/
theorem calls_compute_once {phrase : Phrase} {calls : Nat} {cached : Option Result} {number : Nat}
    {race : Race calls}
    (h : Reaches phrase (start calls cached number) race) :
    (∀ call, race.lock = some call ↔ (race.stages call).HasLock) ∧
    (∀ call other, (race.stages call).HasLock → (race.stages other).HasLock → call = other) ∧
    (∀ styled, phrase.format = .ok styled →
      race.builds.length ≤ 1 ∧ (cached ≠ none → race.builds = []) ∧
      race.log.length = race.builds.length ∧
      ∀ call, (race.stages call).HasEnded →
        race.stages call = .returned (some (cached.getD ⟨number, styled⟩))) ∧
    ∀ error, phrase.format = .error error → cached = none →
      race.cached = none ∧
      ∀ call, (race.stages call).HasEnded →
        race.stages call = .raised error ∧ race.lock ≠ some call ∧
        ∃ report, race.log.filter (·.1 == call) = [(call, report)] := by
  obtain ⟨report, hbuild⟩ := phrase.exists_report
  have hreport : phrase.build.reports = [report] := by rw [hbuild]
  have hlocked := h.locked
  refine ⟨hlocked, fun call other => hlocked.eq, fun styled hformat => ?_,
    fun error hformat hnone => ?_⟩
  · obtain ⟨hone, hfilled, hkept⟩ := h.of_format_ok hformat
    refine ⟨hone, hfilled, by rw [h.log_eq_map hreport, List.length_map],
      fun call hended => ?_⟩
    obtain ⟨result, hstage, hcached⟩ | ⟨error, -, herror⟩ := h.ended hended
    · rw [hstage, ← hcached]
      rw [hcached] at hkept
      rw [hcached, hkept.resolve_left (by simp)]
    · rw [hformat] at herror
      cases herror
  · subst hnone
    refine ⟨(h.fruitless hformat).cached_eq, fun call hended => ?_⟩
    obtain ⟨hstage, hlog⟩ := h.of_format_error hformat hreport hended
    refine ⟨hstage, fun hlock => ?_, report, hlog⟩
    have hlock := (hlocked call).mp hlock
    rw [hstage] at hlock
    exact hlock

/-- Two calls that both find nothing kept; the second one gets the lock first. -/
theorem calls_compute_once_both_missed :
    let phrase : Phrase := ⟨.ofText ['a'], {}⟩
    let result : Result := ⟨7, ⟨['a'], [⟨0, 1, 0xFF666666⟩], []⟩⟩
    ∃ race : Race 2, Reaches phrase (start 2 none 7) race ∧ race.builds.length ≤ 1 ∧
      race.stages 0 = .returned (some result) ∧ race.stages 1 = .returned (some result) := by
  intro phrase result
  have hformat : phrase.format = .ok result.styled := by cbv
  obtain ⟨report, hbuild⟩ := phrase.exists_report
  rw [hformat] at hbuild
  have hreaches : ∃ race : Race 2, Reaches phrase (start 2 none 7) race ∧
      (race.stages 0).HasEnded ∧ (race.stages 1).HasEnded := by
    have hmissed := (Relation.ReflTransGen.refl.tail ⟨0, .missed rfl rfl⟩ :
      Reaches phrase (start 2 none 7) _).tail ⟨1, .missed rfl rfl⟩
    have hbuilt := ((hmissed.tail ⟨1, .took rfl rfl⟩).tail ⟨1, .missedAgain rfl rfl⟩).tail
      ⟨1, .built rfl hbuild⟩
    have hleft := (hbuilt.tail ⟨1, .stored rfl⟩).tail ⟨1, .left rfl⟩
    have hleft' := ((hleft.tail ⟨0, .took rfl rfl⟩).tail ⟨0, .foundAgain rfl (by simp)⟩).tail
      ⟨0, .left rfl⟩
    exact ⟨_, (hleft'.tail ⟨1, .answered rfl⟩).tail ⟨0, .answered rfl⟩, trivial, trivial⟩
  obtain ⟨race, hrace, hfirst, hsecond⟩ := hreaches
  obtain ⟨-, -, hok, -⟩ := calls_compute_once hrace
  obtain ⟨hone, -, -, hended⟩ := hok result.styled hformat
  exact ⟨race, hrace, hone, hended 0 hfirst, hended 1 hsecond⟩

end Race

end TintedText
