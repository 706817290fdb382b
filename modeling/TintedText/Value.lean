import TintedText.Text.Messages

/-!
# Values of any kind

What a caller may hand over where a text, a colour or a key is wanted: checking a value means
telling the few that fit from all others. `Value.display` writes a value the way messages show it,
and `Value.kind` names its kind. `ArgumentError` is why a value is refused when a phrase is built or
configured.
-/
namespace TintedText

/-- A value of any kind. A fractional number is kept as its shortest decimal text. -/
inductive Value where
  | null
  | bool (value : Bool)
  | int (value : Int)
  | float (numeral : String)
  | text (chars : List Char)
  | list (items : List Value)
  | dict (entries : List (List Char × Value))

namespace Value

def kind : Value → String
  | null => "NoneType"
  | bool _ => "bool"
  | int _ => "int"
  | float _ => "float"
  | text _ => "str"
  | list _ => "list"
  | dict _ => "dict"

mutual

def display : Value → String
  | null => "None"
  | bool true => "True"
  | bool false => "False"
  | int value => toString value
  | float numeral => numeral
  | text chars => Text.quoted chars
  | list items => "[" ++ ", ".intercalate (displayItems items) ++ "]"
  | dict entries => "\x7b" ++ ", ".intercalate (displayEntries entries) ++ "\x7d"

def displayItems : List Value → List String
  | [] => []
  | item :: rest => display item :: displayItems rest

/-- The entries of a dictionary, each with its key before a colon. -/
def displayEntries : List (List Char × Value) → List String
  | [] => []
  | (key, value) :: rest => (Text.quoted key ++ ": " ++ display value) :: displayEntries rest

end

mutual

/-- The integers that the display of a value shows. -/
def integers : Value → List Int
  | null | bool _ | float _ | text _ => []
  | int value => [value]
  | list items => itemIntegers items
  | dict entries => entryIntegers entries

def itemIntegers : List Value → List Int
  | [] => []
  | item :: rest => integers item ++ itemIntegers rest

/-- The integers in the values of a dictionary. -/
def entryIntegers : List (List Char × Value) → List Int
  | [] => []
  | (_, value) :: rest => integers value ++ entryIntegers rest

end

end Value

inductive ArgumentError where
  /-- The separator is the empty text, or no text at all. -/
  | emptySeparator
  /-- The separator has more than two characters. -/
  | longSeparator (separator : List Char)
  /-- The colour is not an integer of 32 bits. -/
  | badColor (value : Value)
  /-- There is no pattern. -/
  | missingPattern
  /-- The pattern is a value of another kind. -/
  | notPattern (value : Value)
  /-- The table of patterns has no such key. -/
  | unknownKey (key : Value)

namespace ArgumentError

def message : ArgumentError → String
  | emptySeparator => "separator must not be empty"
  | longSeparator separator =>
    "separator must be at most 2 characters, got " ++ Text.quoted separator
  | badColor value => "color must be a 32-bit ARGB integer, got " ++ value.display
  | missingPattern => "pattern must not be None"
  | notPattern value => "pattern must be a str or rich Text, got " ++ value.kind
  | unknownKey key => "No pattern named " ++ key.display ++ " in resources"

def integers : ArgumentError → List Int
  | badColor value => value.integers
  | unknownKey key => key.integers
  | emptySeparator | longSeparator _ | missingPattern | notPattern _ => []

def shown (error : ArgumentError) : Except Text.Unwritable String :=
  Text.shown error.integers error.message

end ArgumentError

end TintedText
