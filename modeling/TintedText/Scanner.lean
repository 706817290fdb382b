import TintedText.Segment

/-!
# Scanner

A cursor over a pattern that can be asked for the character at it, the one after it, the next
segment and all remaining ones, in any order. Asking for a segment moves the cursor over what was
read, also when the reading fails; `consume` moves it by one, past the end if need be.
-/
namespace TintedText

/-- A pattern, its marks, and the position of the next character to read. -/
structure Scanner where
  marks : Delimiters
  pattern : List Char
  index : Nat

namespace Scanner

def ofPattern (marks : Delimiters) (pattern : List Char) : Scanner :=
  ⟨marks, pattern, 0⟩

/-- The part of the pattern from the cursor on. -/
def remaining (scanner : Scanner) : List Char :=
  scanner.pattern.drop scanner.index

def current (scanner : Scanner) : Option Char :=
  scanner.pattern[scanner.index]?

/-- The character after the one at the cursor. -/
def lookahead (scanner : Scanner) : Option Char :=
  scanner.pattern[scanner.index + 1]?

def advance (scanner : Scanner) (count : Nat) : Scanner :=
  { scanner with index := scanner.index + count }

/-- Move the cursor over one character, whether there is one or not. -/
def consume (scanner : Scanner) : Scanner :=
  scanner.advance 1

/-- Read the next segment; there is none at the end of the pattern and behind it. -/
def next (scanner : Scanner) : Except PatternError (Option Segment) × Scanner :=
  match scanner.remaining with
  | [] => (.ok none, scanner)
  | c :: rest =>
    let reading := Segment.read scanner.marks scanner.index c rest
    (reading.outcome.map some, scanner.advance reading.consumed)

/-- A segment is read only by moving the cursor on inside the pattern. -/
theorem next_moves {scanner after : Scanner} {segment : Segment}
    (h : scanner.next = (.ok (some segment), after)) :
    scanner.index < after.index ∧ after.index ≤ scanner.pattern.length ∧
      after.pattern = scanner.pattern := by
  unfold next at h
  split at h
  · simp at h
  · rename_i c rest hrest
    have hpos := Segment.consumed_pos scanner.marks scanner.index c rest
    have hle := Segment.consumed_le scanner.marks scanner.index c rest
    have hlen := congrArg List.length hrest
    simp only [remaining, List.length_drop, List.length_cons] at hlen
    obtain ⟨-, rfl⟩ := Prod.mk.inj h
    refine ⟨?_, ?_, rfl⟩ <;> simp only [advance] <;> omega

/-- Read segments up to the end of the pattern or the first failure. -/
def drain (scanner : Scanner) : Except PatternError (List Segment) × Scanner :=
  match _read : scanner.next with
  | (.error error, after) => (.error error, after)
  | (.ok none, after) => (.ok [], after)
  | (.ok (some segment), after) =>
    let (segments, last) := after.drain
    (segments.map (segment :: ·), last)
termination_by scanner.pattern.length - scanner.index
decreasing_by
  obtain ⟨h₁, h₂, h₃⟩ := next_moves ‹_›
  rw [h₃]
  omega

inductive Step where
  | current
  | lookahead
  | consume
  | next
  | drain
  deriving DecidableEq, Repr

inductive Answer where
  | character (c : Option Char)
  | moved
  | segment (outcome : Except PatternError (Option Segment))
  | segments (outcome : Except PatternError (List Segment))

/-- Answer one question; the scanner is returned as it stands afterwards. -/
def perform (scanner : Scanner) : Step → Answer × Scanner
  | .current => (.character scanner.current, scanner)
  | .lookahead => (.character scanner.lookahead, scanner)
  | .consume => (.moved, scanner.consume)
  | .next => (.segment scanner.next.1, scanner.next.2)
  | .drain => (.segments scanner.drain.1, scanner.drain.2)

end Scanner

end TintedText
