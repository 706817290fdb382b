import TintedText.Proofs.Changing

/-!
# Runs of changes

Over a run of changes each field has a history of its own: it holds what the last change that was
made and names it gave it (`value_afterAll`). The order of changes matters only where they name the
same field (`evolve_comm`, `evolve_keeps_last`).
-/
namespace TintedText

namespace Config

variable {config next : Config} {changes : List (String × Value)}

def afterAll (config : Config) (calls : List (List (String × Value))) : Config :=
  calls.foldl after config

/-- The changes of a run that are made. -/
def accepted (config : Config) : List (List (String × Value)) → List (List (String × Value))
  | [] => []
  | changes :: calls =>
    match config.evolve changes with
    | .ok next => changes :: next.accepted calls
    | .error _ => config.accepted calls

/-- The value that the last change that names a field gives it. -/
def lastGiven (field : Field) : List (List (String × Value)) → Option Value
  | [] => none
  | changes :: calls => (lastGiven field calls).or (changes.lookup field.name)

/-- A field holds what the last change that was made and names it gave it. -/
theorem value_afterAll (config : Config) (calls : List (List (String × Value))) (field : Field) :
    (config.afterAll calls).value field =
      (lastGiven field (config.accepted calls)).getD (config.value field) := by
  induction calls generalizing config with
  | nil => rfl
  | cons changes calls ih =>
    change ((config.after changes).afterAll calls).value field = _
    rw [ih]
    cases h : config.evolve changes with
    | error error => simp only [after, accepted, h]
    | ok next =>
      simp only [after, accepted, h, lastGiven, Option.getD_or, (evolve_eq_ok_iff.mp h).2]

/-! ### Changes of different fields -/

section Apart

variable {changes' : List (String × Value)}

/-- No field is named by both changes. -/
def Apart (changes changes' : List (String × Value)) : Prop :=
  ∀ field : Field, changes.lookup field.name = none ∨ changes'.lookup field.name = none

lemma acceptable_append (hapart : Apart changes changes') :
    Acceptable (changes ++ changes') ↔ Acceptable changes ∧ Acceptable changes' := by
  have hfits (field : Field) : (∀ value, (changes ++ changes').lookup field.name = some value →
      field.Fits value) ↔ (∀ value, changes.lookup field.name = some value → field.Fits value) ∧
        ∀ value, changes'.lookup field.name = some value → field.Fits value := by
    rw [List.lookup_append]
    obtain hnone | hnone := hapart field <;> simp [hnone]
  simp only [Acceptable, Known, List.forall_mem_append, hfits, forall_and]
  tauto

lemma evolve_append (hapart : Apart changes changes') :
    config.evolve (changes ++ changes') = .ok next ↔
      ∃ middle, config.evolve changes = .ok middle ∧ middle.evolve changes' = .ok next := by
  have hvalue (middle : Config) (hmiddle : config.evolve changes = .ok middle) (field : Field) :
      ((changes ++ changes').lookup field.name).getD (config.value field) =
        (changes'.lookup field.name).getD (middle.value field) := by
    rw [(evolve_eq_ok_iff.mp hmiddle).2, List.lookup_append]
    obtain hnone | hnone := hapart field <;> simp [hnone]
  constructor
  · intro h
    obtain ⟨haccepted, hnext⟩ := evolve_eq_ok_iff.mp h
    obtain ⟨hfirst, hsecond⟩ := (acceptable_append hapart).mp haccepted
    obtain ⟨middle, hmiddle⟩ := exists_evolve config hfirst
    refine ⟨middle, hmiddle, evolve_eq_ok_iff.mpr ⟨hsecond, fun field => ?_⟩⟩
    rw [hnext, hvalue middle hmiddle]
  · rintro ⟨middle, hmiddle, h⟩
    obtain ⟨hsecond, hnext⟩ := evolve_eq_ok_iff.mp h
    have hfirst := (evolve_eq_ok_iff.mp hmiddle).1
    refine evolve_eq_ok_iff.mpr ⟨(acceptable_append hapart).mpr ⟨hfirst, hsecond⟩, fun field => ?_⟩
    rw [hnext, hvalue middle hmiddle]

lemma evolve_comm {next' : Config} (hapart : Apart changes changes')
    (h : config.evolve changes = .ok next) (h' : config.evolve changes' = .ok next') :
    ∃ last, next.evolve changes' = .ok last ∧ next'.evolve changes = .ok last := by
  have hfirst := (evolve_eq_ok_iff.mp h).1
  have hsecond := (evolve_eq_ok_iff.mp h').1
  obtain ⟨last, hlast⟩ := exists_evolve next hsecond
  obtain ⟨last', hlast'⟩ := exists_evolve next' hfirst
  refine ⟨last, hlast, hlast'.trans (congrArg _ (eq_of_value_eq fun field => ?_))⟩
  rw [(evolve_eq_ok_iff.mp hlast).2, (evolve_eq_ok_iff.mp hlast').2, (evolve_eq_ok_iff.mp h).2,
    (evolve_eq_ok_iff.mp h').2]
  obtain hnone | hnone := hapart field <;> simp only [hnone, Option.getD_none]

end Apart

/-! ### One field after the other -/

/-- Fields with their values as one change. -/
def changeOf (settings : List (Field × Value)) : List (String × Value) :=
  settings.map fun setting => (setting.1.name, setting.2)

variable {settings : List (Field × Value)}

lemma lookup_changeOf (settings : List (Field × Value)) (field : Field) :
    (changeOf settings).lookup field.name = settings.lookup field := by
  induction settings with
  | nil => rfl
  | cons setting settings ih =>
    obtain ⟨other, value⟩ := setting
    rw [List.lookup_cons, ← ih, ← Field.name_beq_name]
    exact List.lookup_cons

lemma known_changeOf (settings : List (Field × Value)) : Known (changeOf settings) := by
  intro change hchange
  obtain ⟨⟨field, value⟩, -, rfl⟩ := List.mem_map.mp hchange
  have hfield : field ∈ [Field.separator, .inner, .outer] := by cases field <;> decide
  exact List.mem_map_of_mem hfield

lemma nodup_changeOf (hnodup : (settings.map (·.1)).Nodup) :
    ((changeOf settings).map (·.1)).Nodup := by
  have hnames : (changeOf settings).map (·.1) = (settings.map (·.1)).map Field.name := by
    simp [changeOf]
  rw [hnames]
  exact hnodup.map fun field other hname => beq_iff_eq.mp (Field.name_beq_name field other ▸
    beq_iff_eq.mpr hname)

/-- A field that is not set again is named once. -/
lemma apart_changeOf {field : Field} {value : Value} (hfield : field ∉ settings.map (·.1)) :
    Apart [(field.name, value)] (changeOf settings) := by
  intro other
  rw [lookup_changeOf, List.lookup_cons, Field.name_beq_name]
  by_cases hother : other = field
  · subst hother
    refine .inr (List.lookup_eq_none_iff.mpr fun setting hsetting => ?_)
    have hne : other ≠ setting.1 := by
      rintro rfl
      exact hfield (List.mem_map.mpr ⟨setting, hsetting, rfl⟩)
    simpa using hne
  · rw [beq_false_of_ne hother]
    exact .inl rfl

end Config

namespace Phrase

/-- The phrase that comes of setting fields one after the other. -/
def setAll (phrase : Phrase) (settings : List (Config.Field × Value)) :
    Except ConfigError Phrase :=
  settings.foldlM (fun phrase setting => phrase.evolve [(setting.1.name, setting.2)]) phrase

variable {phrase next : Phrase} {settings : List (Config.Field × Value)}

lemma evolve_eq_ok_iff {changes : List (String × Value)} : phrase.evolve changes = .ok next ↔
    next.pattern = phrase.pattern ∧ phrase.config.evolve changes = .ok next.config := by
  obtain ⟨pattern, config⟩ := phrase
  obtain ⟨pattern', config'⟩ := next
  unfold evolve
  cases config.evolve changes with
  | error error => simp [bind, Except.bind]
  | ok changed =>
    simp only [bind, Except.bind, pure, Except.pure, Except.ok.injEq, mk.injEq]
    exact and_congr_left' eq_comm

lemma setAll_cons {field : Config.Field} {value : Value} :
    phrase.setAll ((field, value) :: settings) = .ok next ↔
      ∃ middle, phrase.evolve [(field.name, value)] = .ok middle ∧
        middle.setAll settings = .ok next := by
  rw [setAll, List.foldlM_cons]
  cases phrase.evolve [(field.name, value)] with
  | error error => simp [bind, Except.bind]
  | ok middle => simp [bind, Except.bind, setAll]

/-- Fields that differ may be set by one change. -/
lemma setAll_eq_ok_iff (hnodup : (settings.map (·.1)).Nodup) : phrase.setAll settings = .ok next ↔
    next.pattern = phrase.pattern ∧
      phrase.config.evolve (Config.changeOf settings) = .ok next.config := by
  induction settings generalizing phrase with
  | nil =>
    obtain ⟨pattern, config⟩ := phrase
    obtain ⟨pattern', config'⟩ := next
    have hnone : config.evolve (Config.changeOf []) = .ok config := rfl
    simp only [setAll, List.foldlM_nil, pure, Except.pure, hnone, Except.ok.injEq, mk.injEq]
    exact and_congr_left' eq_comm
  | cons setting settings ih =>
    obtain ⟨field, value⟩ := setting
    rw [List.map_cons, List.nodup_cons] at hnodup
    have hjoined : phrase.config.evolve (Config.changeOf ((field, value) :: settings)) =
        .ok next.config ↔ ∃ middle, phrase.config.evolve [(field.name, value)] = .ok middle ∧
          middle.evolve (Config.changeOf settings) = .ok next.config :=
      Config.evolve_append (Config.apart_changeOf hnodup.1)
    rw [setAll_cons, hjoined]
    simp only [evolve_eq_ok_iff, ih hnodup.2]
    constructor
    · rintro ⟨middle, ⟨hpattern, hfirst⟩, hpattern', hrest⟩
      exact ⟨hpattern'.trans hpattern, middle.config, hfirst, hrest⟩
    · rintro ⟨hpattern, middle, hfirst, hrest⟩
      exact ⟨⟨phrase.pattern, middle⟩, ⟨rfl, hfirst⟩, hpattern, hrest⟩

/-- All fields may be set in any order, which is as good as giving their values to a new
configuration. -/
lemma setAll_of_perm {separator inner outer : Value}
    (hperm : settings.Perm [(.separator, separator), (.inner, inner), (.outer, outer)]) :
    phrase.setAll settings = .ok next ↔ next.pattern = phrase.pattern ∧
      Config.ofFields (Config.changeOf
        [(.separator, separator), (.inner, inner), (.outer, outer)]) = .ok next.config := by
  have hnodup : (settings.map (·.1)).Nodup := by
    rw [(hperm.map _).nodup_iff]
    simp
  have hchange : (Config.changeOf settings).Perm
      (Config.changeOf [(.separator, separator), (.inner, inner), (.outer, outer)]) := hperm.map _
  have hnamed (field : Config.Field) : ∃ value, (Config.changeOf
      [(.separator, separator), (.inner, inner), (.outer, outer)]).lookup field.name =
        some value := by
    rw [Config.lookup_changeOf]
    cases field <;> exact ⟨_, rfl⟩
  rw [setAll_eq_ok_iff hnodup, Config.ofFields,
    ← Config.evolve_of_all_named phrase.config {} hnamed,
    ← Config.evolve_of_perm hchange (Config.nodup_changeOf hnodup) (Config.known_changeOf settings)]

end Phrase

namespace Config

/-- Whatever changes are made to a configuration, and whichever of them are refused:
* the value of every field fits, and the marks are the characters of the separator;
* a field holds what the last change that was made and names it gave it, else its first value;
* a change has one of three endings, and one that is refused leaves the configuration as it was;
* changes that name different fields may be made in either order, and the order of the names in a
  change does not matter;
* all fields may be set one by one in any order, which gives the configuration with their values. -/
theorem evolve_keeps_last (config : Config) (calls : List (List (String × Value))) :
    let reached := config.afterAll calls
    let left := reached.separator.left
    let right := reached.separator.right
    (∀ field : Field, field.Fits (reached.value field)) ∧
    (reached.value .separator = .text [left] ∧ left = right ∨
      reached.value .separator = .text [left, right]) ∧
    (∀ field, reached.value field =
      (lastGiven field (config.accepted calls)).getD (config.value field)) ∧
    (∀ changes outcome, reached.evolve changes = outcome ↔ Evolves reached changes outcome) ∧
    (∀ changes error, reached.evolve changes = .error error → reached.after changes = reached) ∧
    (∀ changes changes' next next', Apart changes changes' → reached.evolve changes = .ok next →
      reached.evolve changes' = .ok next' →
        ∃ last, next.evolve changes' = .ok last ∧ next'.evolve changes = .ok last) ∧
    (∀ changes changes', changes.Perm changes' → (changes.map (·.1)).Nodup → Known changes →
      reached.evolve changes' = reached.evolve changes) ∧
    ∀ pattern settings separator inner outer next,
      settings.Perm [(.separator, separator), (.inner, inner), (.outer, outer)] →
        (Phrase.setAll ⟨pattern, reached⟩ settings = .ok next ↔ next.pattern = pattern ∧
          ofFields (changeOf [(.separator, separator), (.inner, inner), (.outer, outer)]) =
            .ok next.config) := by
  intro reached left right
  refine ⟨fits_value reached, ?_, value_afterAll config calls, fun changes outcome => evolve_eq_iff,
    fun changes error h => by rw [after, h], fun changes changes' next next' => evolve_comm,
    fun changes changes' => evolve_of_perm, fun pattern settings separator inner outer next =>
      Phrase.setAll_of_perm⟩
  cases h : reached.separator with
  | single mark => exact .inl (by simp [left, right, value, h, Separator.toChars, Separator.left,
      Separator.right])
  | pair first second => exact .inr (by simp [left, right, value, h, Separator.toChars,
      Separator.left, Separator.right])

/-- A colour is set, a longer separator and a truth value for a colour are refused, and so is a
field that there is not. -/
theorem evolve_keeps_last_refused :
    let calls : List (List (String × Value)) := [[("outer_color", .int 7)],
      [("outer_color", .int 8), ("separator", .text ['a', 'b', 'c'])],
      [("inner_color", .bool true)], [("separator", .text ['|'])]]
    let reached := Config.afterAll {} calls
    reached.value .outer = .int 7 ∧ reached.value .separator = .text ['|'] ∧
      reached.evolve [("outer_color", .int (-1)), ("inner_color", .bool true)] =
        .error (.invalid (.badColor (.bool true))) ∧
      reached.after [("outer_color", .int (-1)), ("inner_color", .bool true)] = reached := by
  intro calls reached
  obtain ⟨-, -, hvalue, -, hrefused, -⟩ := evolve_keeps_last {} calls
  have hmisfit : reached.evolve [("outer_color", .int (-1)), ("inner_color", .bool true)] =
      .error (.invalid (.badColor (.bool true))) := rfl
  exact ⟨hvalue .outer, hvalue .separator, hmisfit, hrefused _ _ hmisfit⟩

end Config

end TintedText
