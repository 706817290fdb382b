import TintedText.Proofs.Calling

/-!
# A step of the workshop

A step adds a phrase, or makes the calls of `numbers` one after the other and at most notes what was
handed out (`perform_cases`). So a phrase stays the one it was made as (`made?_perform`), only the
phrases that a step formats have their results touched (`kept?_perform`), and a step that fails
leaves all phrases alone, with the one exception of an equality (`slots_of_error`).
-/
namespace TintedText.Workshop

variable {workshop next : Workshop} {number other : Nat}

def afterAll (workshop : Workshop) (steps : List Step) : Workshop :=
  steps.foldl (fun workshop step => (workshop.perform step).2) workshop

/-- The workshop after phrases have been formatted one after the other. -/
def formatAll (workshop : Workshop) (numbers : List Nat) : Workshop :=
  numbers.foldl (fun workshop number => (workshop.result number).2) workshop

/-- The phrases that a step formats, in order; an equality whose left side is refused does not look
at the right one. -/
def numbers (workshop : Workshop) : Step → List Nat
  | .format number => [number]
  | .formatTogether number others => List.replicate (others + 1) number
  | .equal left right =>
    match (workshop.result left).1 with
    | .ok _ => [left, right]
    | .error _ => [left]
  | .fromPattern .. | .fromResource .. | .change .. | .text _ | .display _ | .config _ => []

lemma results_eq (workshop : Workshop) (number count : Nat) :
    (workshop.results number count).2 = workshop.formatAll (List.replicate count number) := by
  induction count generalizing workshop with
  | zero => rfl
  | succ count ih =>
    rw [List.replicate_succ]
    exact ih _

/-- A step adds a phrase, notes the result of a single call, or does nothing beyond its calls. -/
theorem perform_cases (workshop : Workshop) (step : Step) :
    (∃ phrase journal, workshop.numbers step = [] ∧
      workshop.perform step =
        (.ok (.made workshop.slots.length), (workshop.add phrase journal).2)) ∨
    (∃ number result, step = .format number ∧ (workshop.result number).1 = .ok result ∧
      (workshop.perform step).2 = ((workshop.result number).2.noteShown number result).2) ∨
    (workshop.perform step).2 = workshop.formatAll (workshop.numbers step) := by
  cases step with
  | fromPattern source journal =>
    cases hsource : Phrase.ofSource source with
    | error error =>
      simp only [perform, hsource]
      exact .inr (.inr rfl)
    | ok phrase =>
      simp only [perform, hsource]
      exact .inl ⟨phrase, journal, rfl, rfl⟩
  | fromResource table key journal =>
    cases hlookup : lookup table key with
    | error error =>
      simp only [perform, hlookup]
      exact .inr (.inr rfl)
    | ok source =>
      cases hsource : Phrase.ofSource source with
      | error error =>
        simp only [perform, hlookup, hsource]
        exact .inr (.inr rfl)
      | ok phrase =>
        simp only [perform, hlookup, hsource]
        exact .inl ⟨phrase, journal, rfl, rfl⟩
  | change number field value =>
    cases hslot : workshop.slot number with
    | error error =>
      simp only [perform, hslot]
      exact .inr (.inr rfl)
    | ok slot =>
      cases hevolve : slot.phrase.evolve [(field.name, value)] with
      | error error =>
        simp only [perform, hslot, hevolve]
        exact .inr (.inr rfl)
      | ok phrase =>
        simp only [perform, hslot, hevolve]
        exact .inl ⟨phrase, slot.journal, rfl, rfl⟩
  | format number =>
    rcases hresult : workshop.result number with ⟨error | result, next⟩
    · simp only [perform, hresult, formatAll, numbers, List.foldl_cons, List.foldl_nil]
      exact .inr (.inr trivial)
    · refine .inr (.inl ⟨number, result, rfl, ?_⟩)
      simp only [perform, hresult, and_self]
  | formatTogether number others =>
    refine .inr (.inr ?_)
    -- the first call and the others are `others + 1` calls
    have hcalls : (workshop.perform (.formatTogether number others)).2 =
        ((workshop.result number).2.results number others).2 := by
      rcases hresult : workshop.result number with ⟨error | result, next⟩ <;>
        simp only [perform, hresult]
    rw [hcalls, results_eq, numbers, List.replicate_succ]
    rfl
  | equal left right =>
    refine .inr (.inr ?_)
    rcases hleft : workshop.result left with ⟨error | first, next⟩
    · simp only [perform, numbers, formatAll, hleft, List.foldl_cons, List.foldl_nil]
    · rcases hright : next.result right with ⟨error | second, last⟩ <;>
        simp only [perform, numbers, formatAll, hleft, hright, List.foldl_cons, List.foldl_nil]
  | text number | display number | config number => exact .inr (.inr rfl)

@[simp] lemma formatAll_nil : workshop.formatAll [] = workshop := rfl

@[simp] lemma formatAll_cons (number : Nat) (numbers : List Nat) :
    workshop.formatAll (number :: numbers) = (workshop.result number).2.formatAll numbers := rfl

lemma made?_formatAll (numbers : List Nat) (other : Nat) :
    (workshop.formatAll numbers).made? other = workshop.made? other := by
  induction numbers generalizing workshop with
  | nil => rw [formatAll_nil]
  | cons number numbers ih => rw [formatAll_cons, ih, (formats_result workshop number).made?_eq]

lemma kept?_formatAll {numbers : List Nat} (h : other ∉ numbers) :
    (workshop.formatAll numbers).kept? other = workshop.kept? other := by
  induction numbers generalizing workshop with
  | nil => rw [formatAll_nil]
  | cons number numbers ih =>
    rw [List.mem_cons, not_or] at h
    rw [formatAll_cons, ih h.2, (formats_result workshop number).kept?_of_ne h.1]

lemma slots_formatAll {numbers : List Nat} (hvalid : workshop.Valid)
    (h : ∀ number ∈ numbers, ∃ error, workshop.outcomeOf number = .error error) :
    (workshop.formatAll numbers).slots = workshop.slots := by
  induction numbers generalizing workshop with
  | nil => rw [formatAll_nil]
  | cons number numbers ih =>
    have hformats := formats_result workshop number
    have hslots : (workshop.result number).2.slots = workshop.slots := by
      obtain ⟨error, herror⟩ := h number (by simp)
      rw [← hformats.outcome_eq hvalid] at herror
      cases hresult : (workshop.result number).1 with
      | ok result =>
        rw [hresult] at herror
        cases herror
      | error error =>
        rw [hresult] at hformats
        exact hformats.slots_of_error
    rw [formatAll_cons, ih (hformats.valid hvalid), hslots]
    intro other hother
    obtain ⟨error, herror⟩ := h other (by simp [hother])
    refine ⟨error, ?_⟩
    unfold outcomeOf
    rw [hformats.made?_eq]
    exact herror

theorem made?_perform {made : Phrase × Nat} (step : Step) (h : workshop.made? number = some made) :
    (workshop.perform step).2.made? number = some made := by
  obtain ⟨phrase, journal, -, hperform⟩ | ⟨number', result, -, -, hperform⟩ | hperform :=
    perform_cases workshop step
  · rw [hperform]
    exact made?_add_of_some h
  · rw [hperform, made?_noteShown, (formats_result workshop number').made?_eq, h]
  · rw [hperform, made?_formatAll, h]

theorem made?_afterAll {made : Phrase × Nat} (steps : List Step)
    (h : workshop.made? number = some made) :
    (workshop.afterAll steps).made? number = some made := by
  induction steps generalizing workshop with
  | nil => exact h
  | cons step steps ih => exact ih (made?_perform step h)

/-- A step keeps no result for a phrase that it does not format, a new one among them. -/
theorem kept?_perform {step : Step} (h : number ∉ workshop.numbers step) :
    (workshop.perform step).2.kept? number = workshop.kept? number := by
  obtain ⟨phrase, journal, -, hperform⟩ | ⟨other, result, rfl, -, hperform⟩ | hperform :=
    perform_cases workshop step
  · rw [hperform, kept?_add]
  · have hne : number ≠ other := fun heq => h (by simp [numbers, heq])
    rw [hperform, kept?_noteShown, (formats_result workshop other).kept?_of_ne hne]
  · rw [hperform, kept?_formatAll h]

lemma valid_formatAll (hvalid : workshop.Valid) (numbers : List Nat) :
    (workshop.formatAll numbers).Valid := by
  induction numbers generalizing workshop with
  | nil => exact hvalid
  | cons number numbers ih =>
    rw [formatAll_cons]
    exact ih ((formats_result workshop number).valid hvalid)

theorem valid_perform (hvalid : workshop.Valid) (step : Step) :
    (workshop.perform step).2.Valid := by
  obtain ⟨phrase, journal, -, hperform⟩ | ⟨number, result, -, hresult, hperform⟩ | hperform :=
    perform_cases workshop step
  · rw [hperform]
    exact valid_add hvalid phrase journal
  · have hformats := formats_result workshop number
    rw [hperform]
    apply valid_noteShown (hformats.valid hvalid)
    rw [hresult] at hformats
    exact hformats.kept?_of_ok
  · rw [hperform]
    exact valid_formatAll hvalid _

theorem valid_afterAll (hvalid : workshop.Valid) (steps : List Step) :
    (workshop.afterAll steps).Valid := by
  induction steps generalizing workshop with
  | nil => exact hvalid
  | cons step steps ih => exact ih (valid_perform hvalid step)

/-- A step that fails makes no phrase and changes none. -/
theorem made?_of_error {step : Step} {error : WorkshopError}
    (h : (workshop.perform step).1 = .error error) (number : Nat) :
    (workshop.perform step).2.made? number = workshop.made? number := by
  obtain ⟨phrase, journal, -, hperform⟩ | ⟨other, result, rfl, hresult, hperform⟩ | hperform :=
    perform_cases workshop step
  · rw [hperform] at h
    cases h
  · rw [hperform, made?_noteShown, (formats_result workshop other).made?_eq]
  · rw [hperform, made?_formatAll]

lemma exists_error {step : Step} {error : WorkshopError}
    (h : (workshop.perform step).1 = .error error) :
    (∀ number ∈ workshop.numbers step, ∃ error, (workshop.result number).1 = .error error) ∨
      ∃ left right result, step = .equal left right ∧ (workshop.result left).1 = .ok result ∧
        ((workshop.result left).2.result right).1 = .error error := by
  cases step with
  | format number | formatTogether number others =>
    refine .inl fun other hother => ?_
    obtain rfl : other = number := by simpa [numbers] using hother
    rcases hresult : workshop.result other with ⟨error | result, next⟩
    · exact ⟨error, rfl⟩
    · simp only [perform, hresult] at h
      cases h
  | equal left right =>
    rcases hleft : workshop.result left with ⟨error | first, next⟩
    · refine .inl fun other hother => ⟨error, ?_⟩
      simp only [numbers, hleft, List.mem_singleton] at hother
      rw [hother, hleft]
    · refine .inr ⟨left, right, first, rfl, by rw [hleft], ?_⟩
      rcases hright : next.result right with ⟨error | second, last⟩
      · simp only [perform, hleft, hright] at h
        cases h
        simp only [hleft, hright]
      · simp only [perform, hleft, hright] at h
        cases h
  | _ => exact .inl fun other hother => by simp [numbers] at hother

/-- The phrases keep what they have kept when a step fails; only an equality may have formatted its
left side before the right one is refused. -/
theorem slots_of_error (hvalid : workshop.Valid) {step : Step} {error : WorkshopError}
    (h : (workshop.perform step).1 = .error error) :
    (workshop.perform step).2.slots = workshop.slots ∨
      ∃ left right result, step = .equal left right ∧ (workshop.result left).1 = .ok result ∧
        (workshop.perform step).2.slots = (workshop.result left).2.slots := by
  obtain ⟨phrase, journal, -, hperform⟩ | ⟨other, result, rfl, hresult, -⟩ | hperform :=
    perform_cases workshop step
  · rw [hperform] at h
    cases h
  · obtain hall | ⟨left, right, first, hstep, -⟩ := exists_error h
    · obtain ⟨error, herror⟩ := hall other (by simp [numbers])
      rw [hresult] at herror
      cases herror
    · cases hstep
  · rw [hperform]
    obtain hall | ⟨left, right, first, rfl, hleft, hright⟩ := exists_error h
    · refine .inl (slots_formatAll hvalid fun number hnumber => ?_)
      obtain ⟨error, herror⟩ := hall number hnumber
      refine ⟨error, ?_⟩
      rw [← (formats_result workshop number).outcome_eq hvalid, herror]
      rfl
    · refine .inr ⟨left, right, first, rfl, hleft, ?_⟩
      have hformats := formats_result (workshop.result left).2 right
      rw [hright] at hformats
      simp only [numbers, hleft, formatAll_cons, formatAll_nil]
      exact hformats.slots_of_error

end TintedText.Workshop
