import TintedText.Pattern
import TintedText.Text.Messages

/-!
# Styled text

The result of formatting: a text, the ranges of it that are drawn in a colour, and the spans that
came with the pattern. The ranges are in the order of the text, which `colorAt` relies on: it gives
up at the first range that starts behind the position.
-/
namespace TintedText

/-- A range of positions drawn in one colour; the colour is not checked here. -/
structure ColorRange where
  start : Int
  stop : Int
  color : Int
  deriving DecidableEq, Repr

/-- The bounds of a colour range are negative, equal or in the wrong order. -/
structure RangeError where
  start : Int
  stop : Int
  deriving DecidableEq, Repr

def RangeError.message (error : RangeError) : String :=
  "Invalid color range [" ++ toString error.start ++ ", " ++ toString error.stop ++ ")"

def RangeError.shown (error : RangeError) : Except Text.Unwritable String :=
  Text.shown [error.start, error.stop] error.message

namespace ColorRange

/-- The range, if its bounds are in order. -/
def ofBounds (start stop color : Int) : Except RangeError ColorRange :=
  if 0 ≤ start ∧ start < stop then .ok ⟨start, stop, color⟩ else .error ⟨start, stop⟩

def length (range : ColorRange) : Int :=
  range.stop - range.start

/-- The length of the range, if it fits into a signed machine word. -/
def wordLength? (range : ColorRange) : Option Int :=
  if range.length < 0x8000000000000000 then some range.length else none

/-- The range holds the position. -/
def contains (range : ColorRange) (position : Int) : Bool :=
  range.start ≤ position && position < range.stop

end ColorRange

/-- A text with colours and styles. -/
structure StyledText where
  text : List Char
  ranges : List ColorRange
  spans : List (Span String)
  deriving DecidableEq, Repr

namespace StyledText

def length (styled : StyledText) : Nat :=
  styled.text.length

/-- The colour at a position among ranges in the order of their starts. -/
def searchColor (position : Int) : List ColorRange → Option Int
  | [] => none
  | range :: rest =>
    if range.contains position then some range.color
    else if position < range.start then none
    else searchColor position rest

/-- The colour drawn at a position; the position is returned when the text has no such one. -/
def colorAt (styled : StyledText) (position : Int) : Except Int (Option Int) :=
  if 0 ≤ position ∧ position < styled.text.length then .ok (searchColor position styled.ranges)
  else .error position

def range? (styled : StyledText) (number : Int) : Option ColorRange :=
  let number := if number < 0 then number + styled.ranges.length else number
  if number < 0 then none else styled.ranges[number.toNat]?

def slice (styled : StyledText) (range : ColorRange) : List Char :=
  (styled.text.take range.stop.toNat).drop range.start.toNat

/-- The coloured parts of the text with their colours, in order. -/
def slices (styled : StyledText) : List (List Char × Int) :=
  styled.ranges.map fun range => (styled.slice range, range.color)

end StyledText

end TintedText
