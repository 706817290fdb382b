import TintedText.Text.Characters
import TintedText.Value

/-!
# Spans and patterns

A span is a style laid over the characters from `start` up to, and not including, `stop`. The bounds
may lie anywhere, before the text, behind it or in the wrong order; only a span with `start < stop`
is seen. What a phrase formats is a pattern, a text with spans on it or a plain one. A styled text
first loses its control codes; its own style, when it has one, is a span over all of it, in front of
the spans it carries.
-/
namespace TintedText

/-- A style on a half-open range of positions. -/
structure Span (Style : Type) where
  start : Int
  stop : Int
  style : Style
  deriving DecidableEq, Repr

namespace Span

variable {Style : Type}

def isVisible (span : Span Style) : Bool :=
  span.start < span.stop

/-- The span holds the position. -/
def covers (span : Span Style) (position : Int) : Bool :=
  span.start ≤ position && position < span.stop

def move (f : Int → Int) (span : Span Style) : Span Style :=
  { span with start := f span.start, stop := f span.stop }

@[simp] theorem style_move (f : Int → Int) (span : Span Style) :
    (span.move f).style = span.style := rfl

theorem isVisible_of_covers {span : Span Style} {position : Int}
    (h : span.covers position = true) : span.isVisible = true := by
  simp only [covers, isVisible, Bool.and_eq_true, decide_eq_true_eq] at *
  omega

end Span

/-- A text and the styles on it. -/
structure Pattern where
  text : List Char
  spans : List (Span String)
  deriving DecidableEq, Repr

namespace Pattern

def ofText (text : List Char) : Pattern :=
  ⟨text, []⟩

/-- A text with a style of its own, which may be the empty one, and spans. -/
def ofStyled (text : List Char) (base : String) (spans : List (Span String)) : Pattern :=
  let kept := Text.dropControls text
  ⟨kept, (if base.isEmpty then [] else [⟨0, kept.length, base⟩]) ++ spans⟩

end Pattern

/-- What a caller offers as a pattern: a pattern, or a value of another kind. -/
inductive Source where
  | pattern (pattern : Pattern)
  | other (value : Value)

end TintedText
