import TintedText.Balance
import TintedText.Log.Registry
import TintedText.Pattern
import TintedText.Rendering

/-!
# Phrases

A phrase is a pattern with the configuration it is formatted with. Formatting checks the balance of
the marks, cuts the pattern into segments and applies them; one report says how it went.
-/
namespace TintedText

inductive FormatError where
  | pattern (error : PatternError)
  | render (error : RenderError)
  deriving DecidableEq, Repr

def FormatError.message : FormatError → String
  | pattern error => error.message
  | render error => error.message

/-- A pattern and how it is formatted. -/
structure Phrase where
  pattern : Pattern
  config : Config := {}
  deriving DecidableEq, Repr

/-- The outcome of formatting and the reports made on the way. -/
structure Formatting where
  outcome : Except FormatError StyledText
  reports : List Log.Report

namespace Phrase

/-- A phrase with the default configuration; only a pattern can be one. -/
def ofSource : Source → Except ArgumentError Phrase
  | .pattern pattern => .ok { pattern }
  | .other .null => .error .missingPattern
  | .other value => .error (.notPattern value)

/-- A copy whose configuration has the named fields replaced. -/
def evolve (phrase : Phrase) (changes : List (String × Value)) : Except ConfigError Phrase :=
  return { phrase with config := ← phrase.config.evolve changes }

/-- The segments of a balanced pattern. -/
def segments (phrase : Phrase) : Except PatternError (List Segment) := do
  validate phrase.config.delimiters phrase.pattern.text
  tokenize phrase.config.delimiters phrase.pattern.text

/-- What is reported of a refused pattern. -/
def refusal (phrase : Phrase) (error : PatternError) : Log.Report :=
  ⟨.debug, "Rejected pattern " ++ Text.quoted phrase.pattern.text ++ ": " ++ error.message⟩

/-- What is reported of a formatted pattern. -/
def success (phrase : Phrase) (segments : List Segment) (styled : StyledText) : Log.Report :=
  ⟨.debug, "Formatted " ++ toString phrase.pattern.text.length ++ " chars into " ++
    toString segments.length ++ " segments, " ++ toString styled.ranges.length ++ " color ranges"⟩

def build (phrase : Phrase) : Formatting :=
  match phrase.segments with
  | .error error => ⟨.error (.pattern error), [phrase.refusal error]⟩
  | .ok segments =>
    match render phrase.config phrase.pattern.text segments phrase.pattern.spans with
    | .error error => ⟨.error (.render error), []⟩
    | .ok styled => ⟨.ok styled, [phrase.success segments styled]⟩

/-- The styled text of the phrase. -/
def format (phrase : Phrase) : Except FormatError StyledText :=
  phrase.build.outcome

def display (phrase : Phrase) : String :=
  "ColorPhrase(" ++ Text.quoted phrase.pattern.text ++ ", " ++ phrase.config.display ++ ")"

end Phrase

end TintedText
