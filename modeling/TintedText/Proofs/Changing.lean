import Mathlib.Data.List.Nodup
import TintedText.Phrase

/-!
# Changes of a configuration

A change names fields and gives each a value. It has three endings (`Evolves`): a name is no
field's; a value does not fit its field, the first such field being blamed; or every field holds the
value that it was given, else the one it held. Since a configuration is known by the values of its
fields, these endings say all there is to say of a change (`evolve_eq_iff`), and a change is known
by what it gives each field (`evolve_of_perm`).
-/
namespace TintedText

/-- Entries whose keys differ may stand in any order. -/
lemma lookup_of_perm {α β : Type} [BEq α] [LawfulBEq α] {entries entries' : List (α × β)}
    (h : entries.Perm entries') (hnodup : (entries.map (·.1)).Nodup) (key : α) :
    entries'.lookup key = entries.lookup key := by
  induction h with
  | nil => rfl
  | cons entry _ ih =>
    obtain ⟨name, value⟩ := entry
    rw [List.lookup_cons, List.lookup_cons, ih hnodup.of_cons]
  | swap first second rest =>
    obtain ⟨name, value⟩ := first
    obtain ⟨name', value'⟩ := second
    have hne : name' ≠ name := by
      simp only [List.map_cons, List.nodup_cons, List.mem_cons, not_or] at hnodup
      exact hnodup.1.1
    simp only [List.lookup_cons]
    by_cases hkey : key = name
    · simp only [hkey, beq_self_eq_true, beq_false_of_ne hne.symm]
    · simp only [beq_false_of_ne hkey]
  | trans hleft _ ihleft ihright =>
    rw [ihright ((hleft.map _).nodup_iff.mp hnodup), ihleft hnodup]

namespace Config

variable {config next : Config} {changes : List (String × Value)}

def value (config : Config) : Field → Value
  | .separator => .text config.separator.toChars
  | .inner => .int config.inner.toInt
  | .outer => .int config.outer.toInt

namespace Field

/-- A separator is a text of one or two characters, a colour an integer of 32 bits. -/
def Fits : Field → Value → Prop
  | separator, .text chars => chars.length = 1 ∨ chars.length = 2
  | inner, .int value | outer, .int value => 0 ≤ value ∧ value ≤ 0xFFFFFFFF
  | _, _ => False

def fault : Field → Value → ArgumentError
  | separator, .text (c :: rest) => .longSeparator (c :: rest)
  | separator, _ => .emptySeparator
  | inner, value | outer, value => .badColor value

/-- The fields that are checked before. -/
def before : Field → List Field
  | separator => []
  | inner => [separator]
  | outer => [separator, inner]

lemma name_beq_name (field other : Field) : (field.name == other.name) = (field == other) := by
  cases field <;> cases other <;> decide

lemma before_or_eq (field other : Field) :
    field ∈ other.before ∨ field = other ∨ other ∈ field.before := by
  cases field <;> cases other <;> decide

end Field

/-! ### One change -/

/-- All names are names of fields. -/
def Known (changes : List (String × Value)) : Prop :=
  ∀ change ∈ changes, change.1 ∈ fieldNames

/-- All names are names of fields, and the values fit these. -/
def Acceptable (changes : List (String × Value)) : Prop :=
  Known changes ∧
    ∀ (field : Field) value, changes.lookup field.name = some value → field.Fits value

/-- How a change ends. -/
inductive Evolves (config : Config) (changes : List (String × Value)) :
    Except ConfigError Config → Prop
  | unknown {change : String × Value} (hfirst : changes.find? (·.1 ∉ fieldNames) = some change) :
      Evolves config changes (.error (.unknownField change.1))
  | misfit {field : Field} {value : Value} (hknown : Known changes)
      (hgiven : changes.lookup field.name = some value) (hmisfit : ¬ field.Fits value)
      (hbefore : ∀ other ∈ field.before, ∀ value, changes.lookup other.name = some value →
        other.Fits value) : Evolves config changes (.error (.invalid (field.fault value)))
  | changed {next : Config} (haccepted : Acceptable changes)
      (hnext : ∀ field, next.value field =
        (changes.lookup field.name).getD (config.value field)) : Evolves config changes (.ok next)

lemma eq_of_value_eq (h : ∀ field, next.value field = config.value field) : next = config := by
  obtain ⟨separator, inner, outer⟩ := config
  obtain ⟨separator', inner', outer'⟩ := next
  have hseparator : separator'.toChars = separator.toChars := Value.text.inj (h .separator)
  have hinner : inner'.toInt = inner.toInt := Value.int.inj (h .inner)
  have houter : outer'.toInt = outer.toInt := Value.int.inj (h .outer)
  obtain rfl : separator' = separator := by
    have hok := Separator.ofChars_toChars separator'
    rw [hseparator, Separator.ofChars_toChars] at hok
    exact (Except.ok.inj hok).symm
  obtain rfl : inner' = inner := by
    cases inner
    cases inner'
    simpa using hinner
  obtain rfl : outer' = outer := by
    cases outer
    cases outer'
    simpa using houter
  rfl

/-- The check of separators accepts the values that fit, and keeps them as they are. -/
lemma ofValue_separator (value : Value) :
    ¬ Field.separator.Fits value ∧
        Separator.ofValue value = .error (Field.separator.fault value) ∨
      Field.separator.Fits value ∧
        ∃ separator, Separator.ofValue value = .ok separator ∧ .text separator.toChars = value := by
  cases value with
  | text chars =>
    match chars with
    | [] => exact .inl ⟨by simp [Field.Fits], rfl⟩
    | [mark] => exact .inr ⟨.inl rfl, _, rfl, rfl⟩
    | [left, right] => exact .inr ⟨.inr rfl, _, rfl, rfl⟩
    | _ :: _ :: _ :: _ => exact .inl ⟨by simp [Field.Fits], rfl⟩
  | _ => exact .inl ⟨id, rfl⟩

lemma ofValue_color {field : Field} (hfield : field = .inner ∨ field = .outer) (value : Value) :
    ¬ field.Fits value ∧ Argb.ofValue value = .error (field.fault value) ∨
      field.Fits value ∧ ∃ color, Argb.ofValue value = .ok color ∧ .int color.toInt = value := by
  obtain rfl | rfl := hfield <;> cases value with
  | int n =>
    by_cases h : 0 ≤ n ∧ n ≤ 0xFFFFFFFF
    · exact .inr ⟨h, _, dif_pos h, rfl⟩
    · exact .inl ⟨h, dif_neg h⟩
  | _ => exact .inl ⟨id, rfl⟩

lemma changed_cases {α : Type} {check : Value → Except ArgumentError α} {toValue : α → Value}
    {field : Field} (old : α) (changes : List (String × Value))
    (hcheck : ∀ value, ¬ field.Fits value ∧ check value = .error (field.fault value) ∨
      field.Fits value ∧ ∃ new, check value = .ok new ∧ toValue new = value) :
    (∃ value, changes.lookup field.name = some value ∧ ¬ field.Fits value ∧
        changed check old field changes = .error (.invalid (field.fault value))) ∨
      (∀ value, changes.lookup field.name = some value → field.Fits value) ∧
        ∃ new, changed check old field changes = .ok new ∧
          toValue new = (changes.lookup field.name).getD (toValue old) := by
  unfold changed
  cases hgiven : changes.lookup field.name with
  | none => exact .inr ⟨by simp, old, rfl, rfl⟩
  | some value =>
    obtain ⟨hmisfit, herror⟩ | ⟨hfits, new, hok, hvalue⟩ := hcheck value
    · exact .inl ⟨value, rfl, hmisfit, by simp only [herror]; rfl⟩
    · refine .inr ⟨?_, new, by simp only [hok]; rfl, hvalue⟩
      rintro _ ⟨⟩
      exact hfits

theorem evolves_evolve (config : Config) (changes : List (String × Value)) :
    Evolves config changes (config.evolve changes) := by
  unfold evolve
  cases hfind : changes.find? fun change => !fieldNames.contains change.1 with
  | some change => exact .unknown (by simpa using hfind)
  | none =>
    have hknown : Known changes := by simpa [Known] using hfind
    obtain ⟨value, hgiven, hmisfit, herror⟩ | ⟨hseparator, separator, hok, hvalue⟩ :=
      changed_cases config.separator changes ofValue_separator
    · simp only [herror]
      exact .misfit hknown hgiven hmisfit (by simp [Field.before])
    obtain ⟨value, hgiven, hmisfit, herror⟩ | ⟨hinner, inner, hok', hvalue'⟩ :=
      changed_cases config.inner changes (ofValue_color (.inl rfl))
    · simp only [hok, herror]
      exact .misfit hknown hgiven hmisfit (by simpa [Field.before] using hseparator)
    obtain ⟨value, hgiven, hmisfit, herror⟩ | ⟨houter, outer, hok'', hvalue''⟩ :=
      changed_cases config.outer changes (ofValue_color (.inr rfl))
    · simp only [hok, hok', herror]
      exact .misfit hknown hgiven hmisfit (by simpa [Field.before] using ⟨hseparator, hinner⟩)
    · simp only [hok, hok', hok'']
      refine .changed ⟨hknown, fun field => ?_⟩ (fun field => ?_)
      · cases field with
        | separator => exact hseparator
        | inner => exact hinner
        | outer => exact houter
      · cases field with
        | separator => exact hvalue
        | inner => exact hvalue'
        | outer => exact hvalue''

lemma not_known {change : String × Value}
    (hfirst : changes.find? (·.1 ∉ fieldNames) = some change) : ¬ Known changes := by
  have hname := List.find?_some hfirst
  exact fun hknown => of_decide_eq_true hname (hknown change (List.mem_of_find?_eq_some hfirst))

lemma Evolves.unique {outcome outcome' : Except ConfigError Config}
    (h : Evolves config changes outcome) (h' : Evolves config changes outcome') :
    outcome = outcome' := by
  cases h with
  | unknown hfirst =>
    cases h' with
    | unknown hfirst' => rw [Option.some.inj (hfirst.symm.trans hfirst')]
    | misfit hknown => exact absurd hknown (not_known hfirst)
    | changed haccepted => exact absurd haccepted.1 (not_known hfirst)
  | @misfit field value hknown hgiven hmisfit hbefore =>
    cases h' with
    | unknown hfirst => exact absurd hknown (not_known hfirst)
    | @misfit other value' _ hgiven' hmisfit' hbefore' =>
      obtain hlater | rfl | hearlier := field.before_or_eq other
      · exact absurd (hbefore' field hlater value hgiven) hmisfit
      · rw [Option.some.inj (hgiven.symm.trans hgiven')]
      · exact absurd (hbefore other hearlier value' hgiven') hmisfit'
    | changed haccepted => exact absurd (haccepted.2 _ _ hgiven) hmisfit
  | changed haccepted hnext =>
    cases h' with
    | unknown hfirst => exact absurd haccepted.1 (not_known hfirst)
    | misfit _ hgiven hmisfit => exact absurd (haccepted.2 _ _ hgiven) hmisfit
    | changed _ hnext' =>
      exact congrArg _ (eq_of_value_eq fun field => (hnext field).trans (hnext' field).symm)

theorem evolve_eq_iff {outcome : Except ConfigError Config} :
    config.evolve changes = outcome ↔ Evolves config changes outcome :=
  ⟨fun h => h ▸ evolves_evolve config changes, (evolves_evolve config changes).unique⟩

lemma evolve_eq_ok_iff : config.evolve changes = .ok next ↔
    Acceptable changes ∧
      ∀ field, next.value field = (changes.lookup field.name).getD (config.value field) := by
  rw [evolve_eq_iff]
  constructor
  · rintro (_ | _ | ⟨haccepted, hnext⟩)
    exact ⟨haccepted, hnext⟩
  · rintro ⟨haccepted, hnext⟩
    exact .changed haccepted hnext

/-- Whether a change is made does not depend on the configuration. -/
lemma exists_evolve (config : Config) (haccepted : Acceptable changes) :
    ∃ next, config.evolve changes = .ok next := by
  cases h : config.evolve changes with
  | ok next => exact ⟨next, rfl⟩
  | error error =>
    cases evolve_eq_iff.mp h with
    | unknown hfirst => exact absurd haccepted.1 (not_known hfirst)
    | misfit _ hgiven hmisfit => exact absurd (haccepted.2 _ _ hgiven) hmisfit

lemma fits_value (config : Config) (field : Field) : field.Fits (config.value field) := by
  cases field with
  | separator =>
    cases h : config.separator with
    | single mark => exact .inl (by simp [h, Separator.toChars])
    | pair left right => exact .inr (by simp [h, Separator.toChars])
  | inner => exact ⟨config.inner.nonneg, config.inner.le_max⟩
  | outer => exact ⟨config.outer.nonneg, config.outer.le_max⟩

/-! ### Names in any order -/

lemma evolve_of_perm {changes' : List (String × Value)} (hperm : changes.Perm changes')
    (hnodup : (changes.map (·.1)).Nodup) (hknown : Known changes) :
    config.evolve changes' = config.evolve changes := by
  have hlookup := lookup_of_perm hperm hnodup
  have hknown' : Known changes' := fun change hchange => hknown change (hperm.mem_iff.mpr hchange)
  rw [evolve_eq_iff]
  generalize houtcome : config.evolve changes = outcome
  cases evolve_eq_iff.mp houtcome with
  | unknown hfirst => exact absurd hknown (not_known hfirst)
  | @misfit field value _ hgiven hmisfit hbefore =>
    refine .misfit hknown' ((hlookup field.name).trans hgiven) hmisfit fun other hother => ?_
    rw [hlookup]
    exact hbefore other hother
  | changed haccepted hnext =>
    refine .changed ⟨hknown', fun field => ?_⟩ fun field => ?_
    · rw [hlookup]
      exact haccepted.2 field
    · rw [hlookup]
      exact hnext field

/-- A change that names all fields leaves nothing of the configuration. -/
lemma evolve_of_all_named (config config' : Config)
    (hall : ∀ field : Field, ∃ value, changes.lookup field.name = some value) :
    config.evolve changes = config'.evolve changes := by
  rw [evolve_eq_iff]
  generalize houtcome : config'.evolve changes = outcome
  cases evolve_eq_iff.mp houtcome with
  | unknown hfirst => exact .unknown hfirst
  | misfit hknown hgiven hmisfit hbefore => exact .misfit hknown hgiven hmisfit hbefore
  | changed haccepted hnext =>
    refine .changed haccepted fun field => ?_
    obtain ⟨value, hgiven⟩ := hall field
    rw [hnext, hgiven]
    rfl

end Config

end TintedText
