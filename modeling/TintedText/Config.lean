import TintedText.Balance
import TintedText.Color

/-!
# Configuration of a phrase

The separator and the two colours. A separator is one character, used on both sides, or two, the
opening and the closing one. Fields are changed by name with values of any kind, all checked before
anything changes: an unknown name first, then separator, inner colour and outer colour in turn.
-/
namespace TintedText

/-- One character for both sides, or one for each. -/
inductive Separator where
  | single (mark : Char)
  | pair (left right : Char)
  deriving DecidableEq, Repr

namespace Separator

def toChars : Separator → List Char
  | single mark => [mark]
  | pair left right => [left, right]

def left : Separator → Char
  | single mark => mark
  | pair left _ => left

def right : Separator → Char
  | single mark => mark
  | pair _ right => right

def delimiters (separator : Separator) : Delimiters :=
  .ofChars separator.left separator.right

/-- The texts of one or two characters are the separators. -/
def ofChars : List Char → Except ArgumentError Separator
  | [] => .error .emptySeparator
  | [mark] => .ok (single mark)
  | [left, right] => .ok (pair left right)
  | chars => .error (.longSeparator chars)

/-- A value that is no text is refused as if it were empty. -/
def ofValue : Value → Except ArgumentError Separator
  | .text chars => ofChars chars
  | _ => .error .emptySeparator

@[simp] theorem ofChars_toChars (separator : Separator) :
    ofChars separator.toChars = .ok separator := by
  cases separator <;> rfl

theorem eq_toChars_of_ofChars {chars : List Char} {separator : Separator}
    (h : ofChars chars = .ok separator) : chars = separator.toChars := by
  unfold ofChars at h
  split at h <;> cases h <;> rfl

theorem ofValue_eq_ok_iff {value : Value} {separator : Separator} :
    ofValue value = .ok separator ↔ value = .text separator.toChars := by
  constructor
  · intro h
    unfold ofValue at h
    split at h
    · rw [eq_toChars_of_ofChars h]
    · cases h
  · rintro rfl
    exact ofChars_toChars separator

end Separator

/-- How a phrase is formatted. -/
structure Config where
  separator : Separator := .pair '\x7b' '\x7d'
  inner : Argb := .red
  outer : Argb := .gray
  deriving DecidableEq, Repr

inductive ConfigError where
  /-- There is no field of this name. -/
  | unknownField (name : String)
  /-- A value does not fit its field. -/
  | invalid (error : ArgumentError)

def ConfigError.message : ConfigError → String
  | unknownField name => "unexpected field " ++ Text.quoted name.toList
  | invalid error => error.message

def ConfigError.shown : ConfigError → Except Text.Unwritable String
  | unknownField name => .ok (unknownField name).message
  | invalid error => error.shown

namespace Config

def delimiters (config : Config) : Delimiters :=
  config.separator.delimiters

/-- The fields, in the order in which they are checked. -/
inductive Field where
  | separator
  | inner
  | outer
  deriving DecidableEq, Repr

def Field.name : Field → String
  | separator => "separator"
  | inner => "inner_color"
  | outer => "outer_color"

def fieldNames : List String :=
  [Field.separator, .inner, .outer].map Field.name

/-- The value that a change gives to a field, checked; the old one when the change is silent. -/
def changed {α : Type} (check : Value → Except ArgumentError α) (old : α)
    (field : Field) (changes : List (String × Value)) : Except ConfigError α :=
  match changes.lookup field.name with
  | none => .ok old
  | some value => (check value).mapError .invalid

/-- A copy with the named fields replaced. -/
def evolve (config : Config) (changes : List (String × Value)) : Except ConfigError Config :=
  match changes.find? fun change => !fieldNames.contains change.1 with
  | some unknown => .error (.unknownField unknown.1)
  | none => do
    let separator ← changed Separator.ofValue config.separator .separator changes
    let inner ← changed Argb.ofValue config.inner .inner changes
    let outer ← changed Argb.ofValue config.outer .outer changes
    return { separator, inner, outer }

/-- The configuration after a change; one that is refused leaves it as it was. -/
def after (config : Config) (changes : List (String × Value)) : Config :=
  match config.evolve changes with
  | .ok changed => changed
  | .error _ => config

/-- The configuration with the given fields, the others being the defaults. -/
def ofFields (fields : List (String × Value)) : Except ConfigError Config :=
  evolve {} fields

def display (config : Config) : String :=
  "PhraseConfig(separator=" ++ Text.quoted config.separator.toChars ++
    ", inner_color=" ++ toString config.inner.toInt ++
    ", outer_color=" ++ toString config.outer.toInt ++ ")"

end Config

end TintedText
