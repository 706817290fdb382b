import TintedText.Proofs.Stepping

/-!
# The calls of a run

The history of a run lists its calls to format with their outcomes. It accounts for what the
workshop keeps and for its log (`Recorded`): a result is kept exactly for the phrases that were
formatted with success, namely the one that every such call got, and the log has the reports of the
calls, the success of a phrase but once. All that is said of a whole run is read off there
(`calls_keep_results`).
-/
namespace TintedText.Workshop

/-- A call to format: the number of the phrase, the phrase with its journal, and the outcome. -/
structure Call where
  number : Nat
  phrase : Phrase
  journal : Nat
  outcome : Except WorkshopError Result

namespace Call

def succeeded (call : Call) : Bool :=
  match call.outcome with
  | .ok _ => true
  | .error _ => false

/-- What a call reports when others came before it: nothing when it succeeds and is not the first
call for its phrase to do so. -/
def reports (earlier : List Call) (call : Call) : List (Nat × Log.Report) :=
  if call.succeeded &&
      earlier.any (fun other => other.number == call.number && other.succeeded) then []
  else call.phrase.build.reports.map (call.journal, ·)

/-- What calls report one after the other. -/
def reportsOf (earlier : List Call) : List Call → List (Nat × Log.Report)
  | [] => []
  | call :: calls => call.reports earlier ++ reportsOf (earlier ++ [call]) calls

variable {call : Call} {result : Result} {earlier calls : List Call}

lemma succeeded_of_ok (h : call.outcome = .ok result) : call.succeeded = true := by
  simp only [succeeded, h]

lemma exists_ok (h : call.succeeded = true) : ∃ result, call.outcome = .ok result := by
  cases houtcome : call.outcome with
  | ok result => exact ⟨result, rfl⟩
  | error error => simp [succeeded, houtcome] at h

lemma reportsOf_concat (call : Call) (earlier calls : List Call) :
    reportsOf earlier (calls ++ [call]) =
      reportsOf earlier calls ++ call.reports (earlier ++ calls) := by
  induction calls generalizing earlier with
  | nil => simp [reportsOf]
  | cons first calls ih =>
    rw [List.cons_append, reportsOf, reportsOf, ih, List.append_assoc, List.append_assoc]
    rfl

end Call

variable {workshop next : Workshop} {history : List Call} {number : Nat}

def call (workshop : Workshop) (number : Nat) : List Call :=
  match workshop.made? number with
  | none => []
  | some (phrase, journal) => [⟨number, phrase, journal, (workshop.result number).1⟩]

/-- The calls when phrases are formatted one after the other. -/
def callAll (workshop : Workshop) : List Nat → List Call
  | [] => []
  | number :: numbers => workshop.call number ++ (workshop.result number).2.callAll numbers

/-- The calls of a run of steps. -/
def calls (workshop : Workshop) : List Step → List Call
  | [] => []
  | step :: steps =>
    workshop.callAll (workshop.numbers step) ++ (workshop.perform step).2.calls steps

/-- A workshop is what the calls so far have made of it. -/
structure Recorded (history : List Call) (workshop : Workshop) : Prop where
  made : ∀ call ∈ history, workshop.made? call.number = some (call.phrase, call.journal)
  answered : ∀ call ∈ history,
    call.outcome.map (·.styled) = call.phrase.format.mapError .format
  kept : ∀ number result, workshop.kept? number = some result ↔
    ∃ call ∈ history, call.number = number ∧ call.outcome = .ok result
  log : workshop.log = Call.reportsOf [] history
  built : ∀ call ∈ history, ∀ result, call.outcome = .ok result → result.number < workshop.built
  distinct : ∀ call ∈ history, ∀ other ∈ history, ∀ result result',
    call.outcome = .ok result → other.outcome = .ok result' → result.number = result'.number →
      call.number = other.number

namespace Recorded

lemma empty : Recorded [] {} where
  made := by simp
  answered := by simp
  kept := by simp [kept?]
  log := rfl
  built := by simp
  distinct := by simp

lemma mono (h : Recorded history workshop)
    (hmade : ∀ number made, workshop.made? number = some made → next.made? number = some made)
    (hkept : ∀ number, next.kept? number = workshop.kept? number)
    (hlog : next.log = workshop.log) (hbuilt : next.built = workshop.built) :
    Recorded history next where
  made call hcall := hmade _ _ (h.made call hcall)
  answered := h.answered
  kept number result := by rw [hkept, h.kept]
  log := hlog.trans h.log
  built := by
    rw [hbuilt]
    exact h.built
  distinct := h.distinct

variable {phrase : Phrase} {journal : Nat} {outcome : Except WorkshopError Result}

lemma not_succeeded (h : Recorded history workshop) (hkept : workshop.kept? number = none) :
    ∀ call ∈ history, call.number = number → call.succeeded = false := by
  intro call hcall hnumber
  by_contra hsucceeded
  obtain ⟨result, hresult⟩ := Call.exists_ok (Bool.not_eq_false _ ▸ hsucceeded)
  rw [(h.kept number result).mpr ⟨call, hcall, hnumber, hresult⟩] at hkept
  cases hkept

lemma log_formats (h : Recorded history workshop)
    (hmade : workshop.made? number = some (phrase, journal))
    (hformats : Formats workshop number outcome next) :
    next.log = workshop.log ++ Call.reports history ⟨number, phrase, journal, outcome⟩ := by
  cases hkept : workshop.kept? number with
  | some result =>
    obtain ⟨rfl, rfl⟩ := hformats.eq_of_kept? hkept
    obtain ⟨call, hcall, hnumber, hresult⟩ := (h.kept number result).mp hkept
    have hany : history.any (fun other => other.number == number && other.succeeded) = true :=
      List.any_eq_true.mpr ⟨call, hcall, by simp [hnumber, Call.succeeded_of_ok hresult]⟩
    have hsucceeded : (Call.mk number phrase journal (.ok result)).succeeded = true :=
      Call.succeeded_of_ok rfl
    rw [Call.reports, if_pos (by rw [hsucceeded, hany, Bool.and_self]), List.append_nil]
  | none =>
    have hany : history.any (fun other => other.number == number && other.succeeded) = false := by
      simpa using h.not_succeeded hkept
    rw [hformats.log_of_not_kept? hmade hkept, Call.reports, if_neg (by simp [hany])]

lemma number_lt {result : Result} (h : Recorded history workshop)
    (hformats : Formats workshop number (.ok result) next) : result.number < next.built := by
  obtain ⟨hkept, hbuilt⟩ | ⟨hnew, hbuilt⟩ := hformats.kept?_or_built
  · obtain ⟨call, hcall, -, hresult⟩ := (h.kept number result).mp hkept
    rw [hbuilt]
    exact h.built call hcall result hresult
  · omega

/-- A result has the number of an earlier one only if it was got for the same phrase. -/
lemma number_eq {result result' : Result} {call : Call} (h : Recorded history workshop)
    (hformats : Formats workshop number (.ok result) next) (hcall : call ∈ history)
    (hresult' : call.outcome = .ok result') (heq : result'.number = result.number) :
    call.number = number := by
  obtain ⟨hkept, -⟩ | ⟨hnew, -⟩ := hformats.kept?_or_built
  · obtain ⟨first, hfirst, rfl, hresult⟩ := (h.kept number result).mp hkept
    exact h.distinct call hcall first hfirst result' result hresult' hresult heq
  · have hlt := h.built call hcall result' hresult'
    omega

theorem formats (h : Recorded history workshop) (hvalid : workshop.Valid)
    (hmade : workshop.made? number = some (phrase, journal))
    (hformats : Formats workshop number outcome next) :
    Recorded (history ++ [⟨number, phrase, journal, outcome⟩]) next where
  made := by
    rw [List.forall_mem_append, List.forall_mem_singleton]
    refine ⟨fun call hcall => ?_, ?_⟩
    · rw [hformats.made?_eq]
      exact h.made call hcall
    · rw [hformats.made?_eq]
      exact hmade
  answered := by
    rw [List.forall_mem_append, List.forall_mem_singleton]
    refine ⟨h.answered, ?_⟩
    rw [hformats.outcome_eq hvalid]
    simp only [outcomeOf, hmade]
  kept := by
    intro other result
    rw [hformats.kept?_iff, h.kept]
    simp only [List.mem_append, List.mem_singleton, or_and_right, exists_or, exists_eq_left]
  log := by
    rw [h.log_formats hmade hformats, h.log, Call.reportsOf_concat, List.nil_append]
  built := by
    rw [List.forall_mem_append, List.forall_mem_singleton]
    refine ⟨fun call hcall result hresult => ?_, ?_⟩
    · exact (h.built call hcall result hresult).trans_le hformats.built_le
    · rintro result rfl
      exact h.number_lt hformats
  distinct := by
    intro call hcall other hother result result' hresult hresult' hnumber
    obtain hold | hnew := List.mem_append.mp hcall
    · obtain hold' | hnew' := List.mem_append.mp hother
      · exact h.distinct call hold other hold' result result' hresult hresult' hnumber
      · rw [List.mem_singleton.mp hnew'] at hresult' ⊢
        subst hresult'
        exact h.number_eq hformats hold hresult hnumber
    · obtain hold' | hnew' := List.mem_append.mp hother
      · rw [List.mem_singleton.mp hnew] at hresult ⊢
        subst hresult
        exact (h.number_eq hformats hold' hresult' hnumber.symm).symm
      · rw [List.mem_singleton.mp hnew, List.mem_singleton.mp hnew']

theorem result (h : Recorded history workshop) (hvalid : workshop.Valid) (number : Nat) :
    Recorded (history ++ workshop.call number) (workshop.result number).2 := by
  have hformats := formats_result workshop number
  unfold call
  cases hmade : workshop.made? number with
  | none =>
    rw [hformats.eq_of_not_made? hmade, List.append_nil]
    exact h
  | some made => exact h.formats hvalid hmade hformats

theorem formatAll (h : Recorded history workshop) (hvalid : workshop.Valid) (numbers : List Nat) :
    Recorded (history ++ workshop.callAll numbers) (workshop.formatAll numbers) := by
  induction numbers generalizing history workshop with
  | nil =>
    rw [callAll, List.append_nil]
    exact h
  | cons number numbers ih =>
    rw [callAll, ← List.append_assoc, formatAll_cons]
    exact ih (h.result hvalid number) ((formats_result workshop number).valid hvalid)

theorem perform (h : Recorded history workshop) (hvalid : workshop.Valid) (step : Step) :
    Recorded (history ++ workshop.callAll (workshop.numbers step)) (workshop.perform step).2 := by
  have hcalls := h.formatAll hvalid (workshop.numbers step)
  obtain ⟨phrase, journal, hnumbers, hperform⟩ | ⟨number, result, rfl, -, hperform⟩ | hperform :=
    perform_cases workshop step
  · rw [hnumbers] at hcalls ⊢
    rw [hperform]
    exact hcalls.mono (fun number made => made?_add_of_some)
      (fun number => kept?_add phrase journal) rfl rfl
  · rw [hperform]
    exact hcalls.mono (fun other made hmade => (made?_noteShown number other).trans hmade)
      (kept?_noteShown number) log_noteShown built_noteShown
  · rw [hperform]
    exact hcalls

theorem afterAll (h : Recorded history workshop) (hvalid : workshop.Valid) (steps : List Step) :
    Recorded (history ++ workshop.calls steps) (workshop.afterAll steps) := by
  induction steps generalizing history workshop with
  | nil =>
    rw [calls, List.append_nil]
    exact h
  | cons step steps ih =>
    rw [calls, ← List.append_assoc]
    exact ih (h.perform hvalid step) (valid_perform hvalid step)

/-- Two calls for one phrase get the same result when both succeed, and calls for different phrases
get results with different numbers. -/
theorem same_iff (h : Recorded history workshop) {call other : Call} {result result' : Result}
    (hcall : call ∈ history) (hother : other ∈ history) (hresult : call.outcome = .ok result)
    (hresult' : other.outcome = .ok result') :
    (call.number = other.number → result = result') ∧
      (call.number ≠ other.number → result.number ≠ result'.number) := by
  constructor
  · intro hnumber
    have hkept := (h.kept call.number result).mpr ⟨call, hcall, rfl, hresult⟩
    have hkept' := (h.kept call.number result').mpr ⟨other, hother, hnumber.symm, hresult'⟩
    exact Option.some.inj (hkept.symm.trans hkept')
  · exact mt (h.distinct call hcall other hother result result' hresult hresult')

end Recorded

/-- A format step answers with the outcome of its call, which is the result that was handed out
first. -/
lemma perform_format (hvalid : workshop.Valid) (number : Nat) :
    (workshop.perform (.format number)).1 =
      (workshop.result number).1.map (.formatted · true) := by
  have hformats := formats_result workshop number
  rcases hresult : workshop.result number with ⟨error | result, next⟩
  · simp only [perform, hresult]
    rfl
  · rw [hresult] at hformats
    simp only [perform, hresult, noteShown_same (hformats.valid hvalid) hformats.kept?_of_ok]
    rfl

/-- After any run of steps:
* a phrase that was made stays what it is;
* a step that fails makes no phrase and changes none, and nothing new is kept but the result of the
  left side of an equality whose right side is refused;
* each call had the outcome of the first call on a fresh phrase;
* the calls that succeed got one and the same result for one phrase, and other results for others;
* a format step hands out the result of its call, which is the one that was handed out first;
* a step keeps no result for a phrase that it does not format;
* the log has one report of each call that fails, one of the first success of each phrase, and no
  other. -/
theorem calls_keep_results (steps : List Step) :
    let workshop := Workshop.afterAll {} steps
    let history := Workshop.calls {} steps
    (∀ more number made, workshop.made? number = some made →
      (workshop.afterAll more).made? number = some made) ∧
    (∀ step error, (workshop.perform step).1 = .error error →
      (∀ number, (workshop.perform step).2.made? number = workshop.made? number) ∧
      ((workshop.perform step).2.slots = workshop.slots ∨
        ∃ left right result, step = .equal left right ∧ (workshop.result left).1 = .ok result ∧
          (workshop.perform step).2.slots = (workshop.result left).2.slots)) ∧
    (∀ call ∈ history, workshop.made? call.number = some (call.phrase, call.journal) ∧
      ∀ journal, call.outcome.map (·.styled) =
        ((Workshop.add {} call.phrase journal).2.result 0).1.map (·.styled)) ∧
    (∀ call ∈ history, ∀ other ∈ history, ∀ result result',
      call.outcome = .ok result → other.outcome = .ok result' →
        (call.number = other.number → result = result') ∧
        (call.number ≠ other.number → result.number ≠ result'.number)) ∧
    (∀ number, (workshop.perform (.format number)).1 =
      (workshop.result number).1.map (.formatted · true)) ∧
    (∀ step number, number ∉ workshop.numbers step →
      (workshop.perform step).2.kept? number = workshop.kept? number) ∧
    workshop.log = Call.reportsOf [] history ∧
    ∀ phrase : Phrase, phrase.build.reports.length = 1 := by
  intro workshop history
  have hempty : Workshop.Valid {} := by
    intro slot hslot
    cases hslot
  have hvalid : workshop.Valid := valid_afterAll hempty steps
  have hrecorded : Recorded history workshop := Recorded.empty.afterAll hempty steps
  refine ⟨fun more number made => made?_afterAll more, fun step error h => ⟨made?_of_error h,
    slots_of_error hvalid h⟩, fun call hcall => ⟨hrecorded.made call hcall, fun journal => ?_⟩,
    fun call hcall other hother result result' => hrecorded.same_iff hcall hother,
    perform_format hvalid, fun step number => kept?_perform, hrecorded.log, fun phrase => ?_⟩
  · have hfresh := formats_result (Workshop.add {} call.phrase journal).2 0
    rw [hrecorded.answered call hcall, hfresh.outcome_eq (valid_add hempty call.phrase journal)]
    rfl
  · obtain ⟨report, hbuild⟩ := phrase.exists_report
    rw [hbuild]
    rfl

/-- A phrase is formatted twice; one that is made in between is refused. -/
theorem calls_keep_results_twice :
    let run : List Step := [.fromPattern (.pattern (.ofText ['a', '\x7b', 'b', '\x7d'])) 3,
      .format 0, .fromPattern (.pattern (.ofText ['\x7b'])) 4, .format 0]
    ∃ first second result error,
      calls {} run = [first, second] ∧
      first.outcome = .ok result ∧ second.outcome = .ok result ∧
      (afterAll {} run).log.length = 1 ∧
      ((afterAll {} run).perform (.format 1)).1 = .error error ∧
      ((afterAll {} run).perform (.format 1)).2.made? 1 = (afterAll {} run).made? 1 := by
  have hformat : Phrase.format ⟨.ofText ['a', '\x7b', 'b', '\x7d'], {}⟩ =
      .ok ⟨['a', 'b'], [⟨0, 1, 0xFF666666⟩, ⟨1, 2, 0xFFE6454A⟩], []⟩ := by
    cbv
  have hrefused : Phrase.format ⟨.ofText ['\x7b'], {}⟩ = .error (.pattern (.unbalanced ['\x7b'])) :=
    Phrase.format_unbalanced (by decide)
  obtain ⟨report, hbuild⟩ := Phrase.exists_report ⟨.ofText ['a', '\x7b', 'b', '\x7d'], {}⟩
  obtain ⟨report', hbuild'⟩ := Phrase.exists_report ⟨.ofText ['\x7b'], {}⟩
  rw [hformat] at hbuild
  rw [hrefused] at hbuild'
  generalize Pattern.ofText ['a', '\x7b', 'b', '\x7d'] = pattern at *
  generalize Pattern.ofText ['\x7b'] = refused at *
  intro run
  obtain ⟨-, hfails, -, hsame, -, -, hlog, hone⟩ := calls_keep_results run
  have hcalls : ∃ first second result result', calls {} run = [first, second] ∧
      first.outcome = .ok result ∧ second.outcome = .ok result' ∧ first.number = second.number := by
    simp [run, calls, callAll, call, numbers, perform, add, result, slot, noteShown, made?,
      Phrase.ofSource, hbuild]
  have herror : ((afterAll {} run).perform (.format 1)).1 =
      .error (.format (.pattern (.unbalanced ['\x7b']))) := by
    simp [run, afterAll, perform, add, result, slot, noteShown, Phrase.ofSource, hbuild, hbuild']
  obtain ⟨first, second, result, result', hcalls, hfirst, hsecond, hnumber⟩ := hcalls
  rw [hcalls] at hsame hlog
  obtain rfl := (hsame first (by simp) second (by simp) result result' hfirst hsecond).1 hnumber
  refine ⟨first, second, result, _, hcalls, hfirst, hsecond, ?_, herror, (hfails _ _ herror).1 1⟩
  rw [hlog]
  simp [Call.reportsOf, Call.reports, Call.succeeded_of_ok hfirst, Call.succeeded_of_ok hsecond,
    hnumber, hone]

end TintedText.Workshop
