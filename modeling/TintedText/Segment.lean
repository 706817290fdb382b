import TintedText.Balance

/-!
# Segments of a pattern

A pattern is cut into plain runs, doubled opening marks that stand for one, and brackets. `read`
takes one segment from the front; it always uses at least one character and never more than there
are (`consumed_pos`, `consumed_le`), so reading segment after segment ends. `tokenize` is the list
of all segments, or the first reason why there is none.
-/
namespace TintedText

/-- A part of a pattern. A segment given by hand may have any length and any text. -/
inductive Segment where
  /-- Ordinary text, kept as it is. -/
  | plain (length : Int)
  /-- A doubled opening mark, written once. -/
  | literal (mark : List Char)
  /-- Text between an opening and a closing mark. -/
  | bracketed (content : List Char)
  deriving DecidableEq, Repr

namespace Segment

/-- How many characters of the pattern the segment stands for. -/
def sourceLength : Segment → Int
  | plain length => length
  | literal _ => 2
  | bracketed content => content.length + 2

/-- How many characters the segment leaves in the output. -/
def outputLength : Segment → Int
  | plain length => length
  | literal _ => 1
  | bracketed content => content.length

/-- What came of reading one segment, and how many characters were used up in doing so. -/
structure Reading where
  outcome : Except PatternError Segment
  consumed : Nat

/-- Read a bracket, `rest` being what follows its opening mark at position `opened`. -/
def readBracket (marks : Delimiters) (opened : Nat) (rest : List Char) : Reading :=
  let content := rest.takeWhile (!marks.closes ·)
  if !rest.any marks.closes then ⟨.error (.unterminated marks.right opened), rest.length + 1⟩
  else if content.isEmpty then ⟨.error (.emptyBracket marks.left marks.right opened), 2⟩
  else ⟨.ok (.bracketed content), content.length + 2⟩

/-- Read the segment that starts with the character `c` at position `start`. -/
def read (marks : Delimiters) (start : Nat) (c : Char) (rest : List Char) : Reading :=
  if !marks.opens c then
    let length := (rest.takeWhile (!marks.opens ·)).length + 1
    ⟨.ok (.plain length), length⟩
  else if rest.head?.any marks.opens then ⟨.ok (.literal marks.left), 2⟩
  else readBracket marks start rest

theorem length_takeWhile_not_lt {p : Char → Bool} {text : List Char} (h : text.any p = true) :
    (text.takeWhile (!p ·)).length < text.length := by
  induction text with
  | nil => simp at h
  | cons c rest ih =>
    cases hc : p c with
    | true => simp [hc]
    | false =>
      have := ih (by simpa [hc] using h)
      simp [hc]
      omega

theorem consumed_pos (marks : Delimiters) (start : Nat) (c : Char) (rest : List Char) :
    0 < (read marks start c rest).consumed := by
  simp only [read, readBracket]
  repeat' split
  all_goals simp

theorem consumed_le (marks : Delimiters) (start : Nat) (c : Char) (rest : List Char) :
    (read marks start c rest).consumed ≤ rest.length + 1 := by
  simp only [read, readBracket]
  split
  · simpa using (List.takeWhile_sublist _).length_le
  split
  · cases rest <;> simp_all
  split
  · simp
  · rename_i hclose
    have := length_takeWhile_not_lt (by simpa using hclose : rest.any marks.closes = true)
    split <;> simp only <;> omega

end Segment

/-- How many characters segments stand for together. -/
def covered : List Segment → Int
  | [] => 0
  | segment :: rest => segment.sourceLength + covered rest

/-- The segments of a text that starts at position `start` of its pattern. -/
def tokenizeFrom (marks : Delimiters) (start : Nat) :
    List Char → Except PatternError (List Segment)
  | [] => .ok []
  | c :: rest =>
    let reading := Segment.read marks start c rest
    match reading.outcome with
    | .error error => .error error
    | .ok segment =>
      (tokenizeFrom marks (start + reading.consumed) ((c :: rest).drop reading.consumed)).map
        (segment :: ·)
termination_by text => text.length
decreasing_by
  have := Segment.consumed_pos marks start c rest
  simp only [List.length_drop, List.length_cons]
  omega

/-- All segments of a pattern, in the order they appear. -/
def tokenize (marks : Delimiters) (pattern : List Char) : Except PatternError (List Segment) :=
  tokenizeFrom marks 0 pattern

end TintedText
