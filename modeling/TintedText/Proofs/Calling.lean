import TintedText.Proofs.Outcome
import TintedText.Workshop

/-!
# A call to format

A call has four endings (`Formats`): there is no such phrase; the kept result is handed out again; a
result is built, reported and kept; the pattern is refused, which is reported. The phrases stay what
they are, no other phrase is touched, and as long as the kept results are valid the outcome is what
formatting gives when nothing is kept (`Formats.outcome_eq`).
-/
namespace TintedText.Workshop

variable {workshop next : Workshop} {number other : Nat} {outcome : Except WorkshopError Result}

/-- The phrase of a number, and its journal. -/
def made? (workshop : Workshop) (number : Nat) : Option (Phrase × Nat) :=
  workshop.slots[number]?.map fun slot => (slot.phrase, slot.journal)

/-- The result that is kept for a phrase. -/
def kept? (workshop : Workshop) (number : Nat) : Option Result :=
  workshop.slots[number]?.bind (·.cached)

lemma made?_eq_some_iff {made : Phrase × Nat} : workshop.made? number = some made ↔
    ∃ slot, workshop.slots[number]? = some slot ∧ (slot.phrase, slot.journal) = made :=
  Option.map_eq_some_iff

lemma kept?_eq_some_iff {result : Result} : workshop.kept? number = some result ↔
    ∃ slot, workshop.slots[number]? = some slot ∧ slot.cached = some result :=
  Option.bind_eq_some_iff

/-- What is read of all phrases is the same when it is the same of the one that is replaced. -/
lemma bind_set {α : Type} {read : Slot → Option α} {slots : List Slot} {old new : Slot}
    (hold : slots[number]? = some old) (hread : read new = read old) (other : Nat) :
    (slots.set number new)[other]?.bind read = slots[other]?.bind read := by
  by_cases h : other = number
  · subst h
    rw [List.getElem?_set_self (List.getElem?_eq_some_iff.mp hold).1, hold]
    exact hread
  · rw [List.getElem?_set_ne (Ne.symm h)]

/-! ### Endings -/

/-- How a call to format ends, and the workshop that it leaves. -/
inductive Formats (workshop : Workshop) (number : Nat) :
    Except WorkshopError Result → Workshop → Prop
  | missing (hslot : workshop.slots[number]? = none) :
      Formats workshop number (.error (.noPhrase number)) workshop
  | kept {slot : Slot} {result : Result} (hslot : workshop.slots[number]? = some slot)
      (hcached : slot.cached = some result) : Formats workshop number (.ok result) workshop
  | built {slot : Slot} {styled : StyledText} {report : Log.Report}
      (hslot : workshop.slots[number]? = some slot) (hcached : slot.cached = none)
      (hbuild : slot.phrase.build = ⟨.ok styled, [report]⟩) :
      Formats workshop number (.ok ⟨workshop.built, styled⟩)
        { slots := workshop.slots.set number { slot with cached := some ⟨workshop.built, styled⟩ }
          built := workshop.built + 1
          log := workshop.log ++ [(slot.journal, report)] }
  | refused {slot : Slot} {error : FormatError} {report : Log.Report}
      (hslot : workshop.slots[number]? = some slot) (hcached : slot.cached = none)
      (hbuild : slot.phrase.build = ⟨.error error, [report]⟩) :
      Formats workshop number (.error (.format error))
        { workshop with log := workshop.log ++ [(slot.journal, report)] }

theorem formats_result (workshop : Workshop) (number : Nat) :
    Formats workshop number (workshop.result number).1 (workshop.result number).2 := by
  cases hslot : workshop.slots[number]? with
  | none =>
    simp only [result, slot, hslot]
    exact .missing hslot
  | some slot =>
    cases hcached : slot.cached with
    | some kept =>
      simp only [result, Workshop.slot, hslot, hcached]
      exact .kept hslot hcached
    | none =>
      obtain ⟨report, hbuild⟩ := slot.phrase.exists_report
      cases hformat : slot.phrase.format with
      | error error =>
        rw [hformat] at hbuild
        simp only [result, Workshop.slot, hslot, hcached, hbuild]
        exact .refused hslot hcached hbuild
      | ok styled =>
        rw [hformat] at hbuild
        simp only [result, Workshop.slot, hslot, hcached, hbuild]
        exact .built hslot hcached hbuild

namespace Formats

lemma getElem?_of_ne (h : Formats workshop number outcome next) (hne : other ≠ number) :
    next.slots[other]? = workshop.slots[other]? := by
  cases h with
  | missing | kept | refused => rfl
  | built => exact List.getElem?_set_ne hne.symm

lemma kept?_of_ne (h : Formats workshop number outcome next) (hne : other ≠ number) :
    next.kept? other = workshop.kept? other := by
  unfold kept?
  rw [h.getElem?_of_ne hne]

lemma made?_eq (h : Formats workshop number outcome next) (other : Nat) :
    next.made? other = workshop.made? other := by
  simp only [made?, Option.map_eq_bind]
  cases h with
  | missing | kept | refused => rfl
  | built hslot => exact bind_set hslot (by rfl) other

lemma kept?_of_ok {result : Result} (h : Formats workshop number (.ok result) next) :
    next.kept? number = some result := by
  rw [kept?_eq_some_iff]
  cases h with
  | kept hslot hcached => exact ⟨_, hslot, hcached⟩
  | built hslot => exact ⟨_, List.getElem?_set_self (List.getElem?_eq_some_iff.mp hslot).1, rfl⟩

lemma eq_of_kept? {result : Result} (h : Formats workshop number outcome next)
    (hkept : workshop.kept? number = some result) : outcome = .ok result ∧ next = workshop := by
  obtain ⟨slot, hslot, hcached⟩ := kept?_eq_some_iff.mp hkept
  cases h with
  | missing hmissing =>
    rw [hslot] at hmissing
    cases hmissing
  | kept hslot' hcached' =>
    obtain rfl := Option.some.inj (hslot.symm.trans hslot')
    obtain rfl := Option.some.inj (hcached.symm.trans hcached')
    exact ⟨rfl, rfl⟩
  | built hslot' hcached' | refused hslot' hcached' =>
    obtain rfl := Option.some.inj (hslot.symm.trans hslot')
    rw [hcached] at hcached'
    cases hcached'

/-- A result that is handed out has been kept, or is new and has a new number. -/
lemma kept?_or_built {result : Result} (h : Formats workshop number (.ok result) next) :
    workshop.kept? number = some result ∧ next.built = workshop.built ∨
      result.number = workshop.built ∧ next.built = workshop.built + 1 := by
  cases h with
  | kept hslot hcached => exact .inl ⟨kept?_eq_some_iff.mpr ⟨_, hslot, hcached⟩, rfl⟩
  | built => exact .inr ⟨rfl, rfl⟩

lemma built_le (h : Formats workshop number outcome next) : workshop.built ≤ next.built := by
  cases h with
  | missing | kept | refused => exact le_rfl
  | built => exact Nat.le_succ _

lemma eq_of_not_made? (h : Formats workshop number outcome next)
    (hmade : workshop.made? number = none) : next = workshop := by
  rw [made?, Option.map_eq_none_iff] at hmade
  cases h with
  | missing | kept => rfl
  | built hslot | refused hslot =>
    rw [hmade] at hslot
    cases hslot

lemma log_of_not_kept? {phrase : Phrase} {journal : Nat} (h : Formats workshop number outcome next)
    (hmade : workshop.made? number = some (phrase, journal))
    (hkept : workshop.kept? number = none) :
    next.log = workshop.log ++ phrase.build.reports.map (journal, ·) := by
  obtain ⟨slot, hslot, ⟨⟩⟩ := made?_eq_some_iff.mp hmade
  cases h with
  | missing hmissing =>
    rw [hslot] at hmissing
    cases hmissing
  | kept hslot' hcached =>
    rw [kept?_eq_some_iff.mpr ⟨_, hslot', hcached⟩] at hkept
    cases hkept
  | built hslot' hcached hbuild | refused hslot' hcached hbuild =>
    obtain rfl := Option.some.inj (hslot.symm.trans hslot')
    simp only [hbuild, List.map_cons, List.map_nil]

lemma slots_of_error {error : WorkshopError} (h : Formats workshop number (.error error) next) :
    next.slots = workshop.slots := by
  cases h with
  | missing | refused => rfl

/-- A phrase keeps a result after a call when it did before or the call has got it. -/
lemma kept?_iff {result : Result} (h : Formats workshop number outcome next) :
    next.kept? other = some result ↔
      workshop.kept? other = some result ∨ number = other ∧ outcome = .ok result := by
  by_cases hne : other = number
  · subst hne
    cases outcome with
    | ok got =>
      rw [h.kept?_of_ok]
      constructor
      · intro heq
        exact .inr ⟨rfl, congrArg _ (Option.some.inj heq)⟩
      · rintro (hkept | ⟨-, heq⟩)
        · exact congrArg _ (Except.ok.inj (h.eq_of_kept? hkept).1)
        · exact congrArg _ (Except.ok.inj heq)
    | error error =>
      unfold kept?
      rw [h.slots_of_error]
      simp
  · rw [h.kept?_of_ne hne]
    simp [Ne.symm hne]

end Formats

/-! ### Valid results -/

/-- The kept result is what formatting gives, and it is the one that was handed out first. -/
structure Slot.Valid (slot : Slot) : Prop where
  cached : ∀ result, slot.cached = some result → slot.phrase.format = .ok result.styled
  shown : ∀ number, slot.firstShown = some number →
    ∃ result, slot.cached = some result ∧ result.number = number

/-- All phrases keep valid results. -/
def Valid (workshop : Workshop) : Prop :=
  ∀ slot ∈ workshop.slots, Slot.Valid slot

/-- What formatting a phrase gives, whatever is kept. -/
def outcomeOf (workshop : Workshop) (number : Nat) : Except WorkshopError StyledText :=
  match workshop.made? number with
  | none => .error (.noPhrase number)
  | some (phrase, _) => phrase.format.mapError .format

/-- Results may be handed out again, errors are made anew; both are what formatting gives. -/
theorem Formats.outcome_eq (h : Formats workshop number outcome next) (hvalid : workshop.Valid) :
    outcome.map (·.styled) = workshop.outcomeOf number := by
  unfold outcomeOf made?
  cases h with
  | missing hslot =>
    rw [hslot]
    rfl
  | kept hslot hcached =>
    rw [hslot]
    have hformat := (hvalid _ (List.mem_of_getElem? hslot)).cached _ hcached
    simp only [Option.map_some, hformat]
    rfl
  | built hslot hcached hbuild | refused hslot hcached hbuild =>
    rw [hslot]
    simp only [Option.map_some, Phrase.format, hbuild]
    rfl

theorem Formats.valid (h : Formats workshop number outcome next) (hvalid : workshop.Valid) :
    next.Valid := by
  cases h with
  | missing | kept | refused => exact hvalid
  | built hslot hcached hbuild =>
    intro slot hmem
    obtain hmem | rfl := List.mem_or_eq_of_mem_set hmem
    · exact hvalid slot hmem
    · refine ⟨?_, ?_⟩
      · rintro result ⟨⟩
        rw [Phrase.format, hbuild]
      · intro number hshown
        obtain ⟨result, hresult, -⟩ := (hvalid _ (List.mem_of_getElem? hslot)).shown number hshown
        rw [hcached] at hresult
        cases hresult

/-! ### New phrases and notes -/

lemma valid_add (hvalid : workshop.Valid) (phrase : Phrase) (journal : Nat) :
    (workshop.add phrase journal).2.Valid := by
  intro slot hmem
  obtain hmem | hmem := List.mem_append.mp hmem
  · exact hvalid slot hmem
  · obtain rfl := List.mem_singleton.mp hmem
    constructor
    · intro result h
      cases h
    · intro number h
      cases h

lemma made?_add_of_some {phrase : Phrase} {journal : Nat} {made : Phrase × Nat}
    (h : workshop.made? number = some made) :
    (workshop.add phrase journal).2.made? number = some made := by
  obtain ⟨slot, hslot, rfl⟩ := made?_eq_some_iff.mp h
  refine made?_eq_some_iff.mpr ⟨slot, ?_, rfl⟩
  exact (List.getElem?_append_left (List.getElem?_eq_some_iff.mp hslot).1).trans hslot

lemma kept?_add (phrase : Phrase) (journal : Nat) :
    (workshop.add phrase journal).2.kept? number = workshop.kept? number := by
  unfold kept? add
  by_cases h : number < workshop.slots.length
  · rw [List.getElem?_append_left h]
  · rw [List.getElem?_append_right (by omega), List.getElem?_eq_none (by omega : _ ≤ number)]
    cases hnew : [({ phrase, journal } : Slot)][number - workshop.slots.length]? with
    | none => rfl
    | some slot =>
      obtain rfl := List.mem_singleton.mp (List.mem_of_getElem? hnew)
      rfl

/-- Noting what was handed out first changes nothing else. -/
lemma noteShown_eq (workshop : Workshop) (number : Nat) (result : Result) :
    (workshop.noteShown number result).2 = workshop ∨
      ∃ slot, workshop.slots[number]? = some slot ∧
        (workshop.noteShown number result).2 = { workshop with
          slots := workshop.slots.set number { slot with firstShown := some result.number } } := by
  unfold noteShown
  split
  · exact .inl rfl
  · rename_i slot hslot
    split
    · exact .inl rfl
    · exact .inr ⟨slot, hslot, rfl⟩

section noteShown

variable {result : Result}

lemma made?_noteShown (number other : Nat) :
    (workshop.noteShown number result).2.made? other = workshop.made? other := by
  obtain h | ⟨slot, hslot, h⟩ := noteShown_eq workshop number result
  · rw [h]
  · simp only [made?, h, Option.map_eq_bind]
    exact bind_set hslot (by rfl) other

lemma kept?_noteShown (number other : Nat) :
    (workshop.noteShown number result).2.kept? other = workshop.kept? other := by
  obtain h | ⟨slot, hslot, h⟩ := noteShown_eq workshop number result
  · rw [h]
  · simp only [kept?, h]
    exact bind_set hslot (by rfl) other

lemma log_noteShown : (workshop.noteShown number result).2.log = workshop.log := by
  obtain h | ⟨slot, -, h⟩ := noteShown_eq workshop number result
  · rw [h]
  · rw [h]

lemma built_noteShown : (workshop.noteShown number result).2.built = workshop.built := by
  obtain h | ⟨slot, -, h⟩ := noteShown_eq workshop number result
  · rw [h]
  · rw [h]

lemma valid_noteShown (hvalid : workshop.Valid) (hkept : workshop.kept? number = some result) :
    (workshop.noteShown number result).2.Valid := by
  obtain h | ⟨slot, hslot, h⟩ := noteShown_eq workshop number result
  · rwa [h]
  · rw [h]
    intro next hmem
    obtain hmem | rfl := List.mem_or_eq_of_mem_set hmem
    · exact hvalid next hmem
    · obtain ⟨slot', hslot', hcached⟩ := kept?_eq_some_iff.mp hkept
      obtain rfl : slot = slot' := Option.some.inj (hslot.symm.trans hslot')
      refine ⟨(hvalid slot (List.mem_of_getElem? hslot)).cached, ?_⟩
      rintro first ⟨⟩
      exact ⟨result, hcached, rfl⟩

/-- The result that a phrase keeps is the one that was handed out first. -/
lemma noteShown_same (hvalid : workshop.Valid) (hkept : workshop.kept? number = some result) :
    (workshop.noteShown number result).1 = true := by
  obtain ⟨slot, hslot, hcached⟩ := kept?_eq_some_iff.mp hkept
  cases hshown : slot.firstShown with
  | none => simp only [noteShown, hslot, hshown]
  | some first =>
    obtain ⟨shown, hsame, rfl⟩ := (hvalid slot (List.mem_of_getElem? hslot)).shown first hshown
    obtain rfl : result = shown := Option.some.inj (hcached.symm.trans hsame)
    simp only [noteShown, hslot, hshown, beq_self_eq_true]

end noteShown

end TintedText.Workshop
