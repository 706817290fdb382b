import TintedText.Color
import TintedText.StyledText
import TintedText.Text.Characters

/-!
# Overlays

A text on which paints are laid one over the other: the named styles that came with a pattern first,
the colours of the ranges on top. The text is kept without control codes, while the paints go where
the styled text has them. What a style's name means is the console's affair: it gives a name a look,
which is what characters are drawn with. A look switches attributes on or off and has an ink for the
characters and one for the ground behind them; of looks laid over each other the topmost one that
says something of an attribute or an ink decides it.
-/
namespace TintedText

/-- A way of drawing characters that can be switched on and off. -/
inductive Attribute where
  | bold
  | dim
  | italic
  | underline
  | blink
  | rapidBlink
  | reverse
  | conceal
  | strike
  | doubleUnderline
  | frame
  | encircle
  | overline
  deriving DecidableEq, Repr

namespace Attribute

/-- All attributes, in the order in which their codes are written. -/
def all : List Attribute :=
  [bold, dim, italic, underline, blink, rapidBlink, reverse, conceal, strike, doubleUnderline,
    frame, encircle, overline]

def code : Attribute → Nat
  | bold => 1
  | dim => 2
  | italic => 3
  | underline => 4
  | blink => 5
  | rapidBlink => 6
  | reverse => 7
  | conceal => 8
  | strike => 9
  | doubleUnderline => 21
  | frame => 51
  | encircle => 52
  | overline => 53

end Attribute

/-- A colour of a terminal: its own one, one of the sixteen standard ones, one of its palette, or
one made of channels. -/
inductive Ink where
  | own
  | standard (number : Fin 16)
  | palette (number : Fin 256)
  | rgb (channels : Rgb)
  deriving DecidableEq, Repr

namespace Ink

/-- The numbers that switch characters to the ink. -/
def codes : Ink → List Nat
  | own => [39]
  | standard number => [if number < 8 then 30 + number else 82 + number]
  | palette number => [38, 5, number]
  | rgb channels => [38, 2, channels.red.toNat, channels.green.toNat, channels.blue.toNat]

/-- The numbers that switch the ground behind characters to the ink. -/
def groundCodes (ink : Ink) : List Nat :=
  ink.codes.modifyHead (· + 10)

end Ink

/-- How characters are drawn. An attribute may be on or off, or be left as it is below. -/
structure Look where
  switch : Attribute → Option Bool := fun _ => none
  ink : Option Ink := none
  ground : Option Ink := none

namespace Look

/-- The look of characters when one look is laid over another. -/
def above (top bottom : Look) : Look where
  switch := fun a => (top.switch a).or (bottom.switch a)
  ink := top.ink.or bottom.ink
  ground := top.ground.or bottom.ground

/-- The numbers that switch a look on; none for the plain look. -/
def codes (look : Look) : List Nat :=
  (Attribute.all.filter (look.switch · == some true)).map Attribute.code ++
    look.ink.toList.flatMap Ink.codes ++ look.ground.toList.flatMap Ink.groundCodes

end Look

/-- What text is written to. Text is broken into rows line by line; a line that fits is a row of its
own, while of a wider one blanks may be lost where it is broken. -/
structure Console where
  /-- The look that a style's name stands for, when it stands for one. -/
  look? : String → Option Look
  look?_empty : look? "" = some {}
  width : Nat
  /-- How wide a text is written. -/
  columns : List Char → Nat
  /-- The rows of a line, each from one position up to another one. -/
  rows : List Char → List (Nat × Nat)
  rows_of_fits : ∀ line, line.length ≤ width → columns line ≤ width → rows line = [(0, line.length)]

/-- The line is neither longer nor wider than a row. -/
def Console.Fits (console : Console) (line : List Char) : Prop :=
  line.length ≤ console.width ∧ console.columns line ≤ console.width

/-- What is laid over a text: a named style, or an ink. -/
inductive Paint where
  | named (style : String)
  | ink (rgb : Rgb)
  deriving DecidableEq, Repr

namespace Paint

def name : Paint → String
  | named style => style
  | ink rgb => rgb.name

/-- The look of a paint; an unknown style has the plain look. -/
def look (console : Console) : Paint → Look
  | named style => (console.look? style).getD {}
  | ink rgb => { ink := some (.rgb rgb) }

end Paint

/-- A text and the paints on it, the topmost last. -/
structure Overlay where
  text : List Char
  spans : List (Span Paint)
  deriving DecidableEq, Repr

namespace Overlay

/-- A text without paints; control codes are dropped. -/
def ofText (text : List Char) : Overlay :=
  ⟨Text.dropControls text, []⟩

/-- Lay a paint over a region. Negative bounds count from the end of the text; a region that is
empty or begins behind the text is left alone, and one that reaches over the end is cut there. -/
def lay (overlay : Overlay) (paint : Paint) (start stop : Int) : Overlay :=
  let length : Int := overlay.text.length
  let start := if start < 0 then length + start else start
  let stop := if stop < 0 then length + stop else stop
  if start ≥ length ∨ stop ≤ start then overlay
  else { overlay with spans := overlay.spans ++ [⟨start, min length stop, paint⟩] }

/-- Lay a named style; the empty name is no style. -/
def laySpan (overlay : Overlay) (span : Span String) : Overlay :=
  if span.style.isEmpty then overlay else overlay.lay (.named span.style) span.start span.stop

def layRange (overlay : Overlay) (range : ColorRange) : Overlay :=
  match Color.ink? range.color with
  | none => overlay
  | some rgb => overlay.lay (.ink rgb) range.start range.stop

/-- The styles of a styled text, and its colours on top. -/
def ofStyled (styled : StyledText) : Overlay :=
  styled.ranges.foldl layRange (styled.spans.foldl laySpan (ofText styled.text))

/-- The look at a position: the paints there, one over the other. -/
def lookAt (overlay : Overlay) (console : Console) (position : Int) : Look :=
  (overlay.spans.filter (·.covers position)).foldl
    (fun look span => (span.style.look console).above look) {}

/-- A paint starts or ends at the position. -/
def isSeam (overlay : Overlay) (position : Int) : Bool :=
  overlay.spans.any fun span => span.start == position || span.stop == position

end Overlay

end TintedText
