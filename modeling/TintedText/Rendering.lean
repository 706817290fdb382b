import TintedText.Buffer
import TintedText.Config
import TintedText.Segment
import TintedText.StyledText

/-!
# Rendering segments on a text

Segments are applied to a copy of the text from left to right. What stands before the cursor is
finished output, so that positions of the output and of the buffer agree; a segment's output starts
where the outputs before it end. Plain runs and brackets give a colour range, a literal mark none.
-/
namespace TintedText

inductive RenderError where
  /-- The segments stand for another number of characters than the text has. -/
  | cover (covered : Int) (length : Nat)
  /-- A segment leaves nothing to colour. -/
  | range (error : RangeError)
  /-- A segment reaches outside the text. -/
  | edit (error : EditError)
  deriving DecidableEq, Repr

def RenderError.message : RenderError → String
  | cover covered length =>
    "Segments cover " ++ toString covered ++ " characters but the text has " ++ toString length
  | range error => error.message
  | edit error => error.message

def RenderError.shown : RenderError → Except Text.Unwritable String
  | cover covered length => Text.shown [covered] (cover covered length).message
  | range error => error.shown
  | edit error => error.shown

/-- Each segment with the start of its output, the first one's being at `cursor`. -/
def layoutFrom (cursor : Int) : List Segment → List (Int × Segment)
  | [] => []
  | segment :: rest => (cursor, segment) :: layoutFrom (cursor + segment.outputLength) rest

/-- Each segment with the start of its output. -/
def layout (segments : List Segment) : List (Int × Segment) :=
  layoutFrom 0 segments

/-- Apply one segment whose source starts at the cursor. The closing mark of a bracket goes first,
so that the opening one is still at the cursor. -/
def Segment.apply (config : Config) (cursor : Int) (buffer : Buffer) :
    Segment → Except RenderError (Option ColorRange × Buffer)
  | .plain length => do
    let range ← (ColorRange.ofBounds cursor (cursor + length) config.outer.toInt).mapError .range
    return (some range, buffer)
  | .literal mark => do
    let buffer ← (buffer.replace cursor (cursor + 2) mark).mapError .edit
    return (none, buffer)
  | .bracketed content => do
    let stop := cursor + content.length
    let buffer ← (buffer.delete (stop + 1) 1).mapError .edit
    let buffer ← (buffer.delete cursor 1).mapError .edit
    let range ← (ColorRange.ofBounds cursor stop config.inner.toInt).mapError .range
    return (some range, buffer)

def applyAll (config : Config) (buffer : Buffer) :
    List (Int × Segment) → Except RenderError (List ColorRange × Buffer)
  | [] => .ok ([], buffer)
  | (cursor, segment) :: rest => do
    let (range, buffer) ← segment.apply config cursor buffer
    let (ranges, buffer) ← applyAll config buffer rest
    return (range.toList ++ ranges, buffer)

/-- Apply segments to a text with spans; together they must stand for exactly the text. -/
def render (config : Config) (text : List Char) (segments : List Segment)
    (spans : List (Span String)) : Except RenderError StyledText :=
  if covered segments ≠ text.length then .error (.cover (covered segments) text.length)
  else do
    let (ranges, buffer) ← applyAll config ⟨text, spans⟩ (layout segments)
    return ⟨buffer.text, ranges, buffer.visibleSpans⟩

end TintedText
