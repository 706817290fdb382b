import TintedText.Pattern
import TintedText.Text.Messages

/-!
# Text with spans under edits

A buffer is a text with spans on it. Replacing a region of the text moves the bounds of every span:
a bound up to the region's start stays, a bound from the region's end on moves with the text behind
it, and a bound inside keeps its distance to the start as far as the new text reaches. Spans that
are empty afterwards are dropped; spans that were empty to begin with are only not shown.
-/
namespace TintedText

structure Buffer where
  text : List Char
  spans : List (Span String)
  deriving DecidableEq, Repr

/-- The region `[start, stop)` does not lie in a text of the given length. -/
structure EditError where
  start : Int
  stop : Int
  length : Nat
  deriving DecidableEq, Repr

def EditError.message (error : EditError) : String :=
  "Cannot replace [" ++ toString error.start ++ ", " ++ toString error.stop ++
    ") in text of length " ++ toString error.length

def EditError.shown (error : EditError) : Except Text.Unwritable String :=
  Text.shown [error.start, error.stop] error.message

namespace Buffer

/-- The spans that hold at least one position. -/
def visibleSpans (buffer : Buffer) : List (Span String) :=
  buffer.spans.filter (·.isVisible)

/-- Where a bound goes when `[start, stop)` is replaced by a text of length `size`. -/
def movedBound (start stop size bound : Int) : Int :=
  if bound ≤ start then bound
  else if stop ≤ bound then bound + (size - (stop - start))
  else start + min (bound - start) size

/-- Replace the region `[start, stop)` by another text. -/
def replace (buffer : Buffer) (start stop : Int) (replacement : List Char) :
    Except EditError Buffer :=
  if 0 ≤ start ∧ start ≤ stop ∧ stop ≤ buffer.text.length then
    .ok {
      text := buffer.text.take start.toNat ++ replacement ++ buffer.text.drop stop.toNat
      spans := (buffer.spans.map (·.move (movedBound start stop replacement.length))).filter
        (·.isVisible) }
  else .error ⟨start, stop, buffer.text.length⟩

/-- Remove `count` characters from a position on. -/
def delete (buffer : Buffer) (index count : Int) : Except EditError Buffer :=
  buffer.replace index (index + count) []

/-- A change asked of a buffer. -/
inductive Edit where
  | replace (start stop : Int) (replacement : List Char)
  | delete (index count : Int)
  deriving DecidableEq, Repr

def perform (buffer : Buffer) : Edit → Except EditError Buffer
  | .replace start stop replacement => buffer.replace start stop replacement
  | .delete index count => buffer.delete index count

/-- The buffer after a change; one that cannot be made leaves it as it was. -/
def after (buffer : Buffer) (edit : Edit) : Buffer :=
  match buffer.perform edit with
  | .ok changed => changed
  | .error _ => buffer

theorem replace_eq_error_iff {buffer : Buffer} {start stop : Int} {replacement : List Char}
    {error : EditError} :
    buffer.replace start stop replacement = .error error ↔
      ¬ (0 ≤ start ∧ start ≤ stop ∧ stop ≤ buffer.text.length) ∧
        error = ⟨start, stop, buffer.text.length⟩ := by
  unfold replace
  split <;> simp_all [eq_comm]

end Buffer

end TintedText
