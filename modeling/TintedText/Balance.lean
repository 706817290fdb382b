import TintedText.Text.Messages

/-!
# Delimiters and their balance

A mark is any text; since a pattern is read character by character, a mark that is not exactly one
character marks nothing. A pattern is checked before it is read. Different marks must nest: no
closing mark comes without an opening one before it, and none is left open. Equal marks must pair:
outside a bracket two in a row are an escape, a single one opens a bracket, and the next one closes
it.
-/
namespace TintedText

/-- The opening mark and the closing mark; they may be equal. -/
structure Delimiters where
  left : List Char
  right : List Char
  deriving DecidableEq, Repr

namespace Delimiters

def ofChars (left right : Char) : Delimiters :=
  ⟨[left], [right]⟩

def opens (marks : Delimiters) (c : Char) : Bool :=
  marks.left == [c]

def closes (marks : Delimiters) (c : Char) : Bool :=
  marks.right == [c]

@[simp] theorem opens_ofChars (left right c : Char) :
    (ofChars left right).opens c = (left == c) := by
  simp [opens, ofChars]

@[simp] theorem closes_ofChars (left right c : Char) :
    (ofChars left right).closes c = (right == c) := by
  simp [closes, ofChars]

end Delimiters

inductive PatternError where
  /-- The marks of the whole pattern do not balance. -/
  | unbalanced (pattern : List Char)
  /-- The bracket opened at a position is not closed before the end. -/
  | unterminated (right : List Char) (opened : Nat)
  /-- The bracket opened at a position is closed at once. -/
  | emptyBracket (left right : List Char) (opened : Nat)
  deriving DecidableEq, Repr

namespace PatternError

/-- The place the error points at, when it points at one. -/
def position : PatternError → Option Nat
  | unbalanced _ => none
  | unterminated _ opened => some opened
  | emptyBracket _ _ opened => some opened

def message : PatternError → String
  | unbalanced pattern =>
    "The separators don't match in the pattern: " ++ Text.quoted pattern
  | unterminated right opened =>
    "Missing closing separator " ++ Text.quoted right ++ " for the one at " ++ toString opened
  | emptyBracket left right opened =>
    "Empty content between separators at " ++ toString opened ++ ", e.g. " ++
      String.ofList left ++ String.ofList right

end PatternError

namespace Balance

/-- Different marks nest, `pending` of them being open already. -/
def nests (marks : Delimiters) : Nat → List Char → Bool
  | pending, [] => pending == 0
  | pending, c :: rest =>
    if marks.opens c then nests marks (pending + 1) rest
    else if marks.closes c then
      match pending with
      | 0 => false
      | outer + 1 => nests marks outer rest
    else nests marks pending rest

/-- Equal marks pair, the reading starting inside a bracket or outside of one. -/
def pairs (marks : Delimiters) (inside : Bool) : List Char → Bool
  | [] => !inside
  | c :: rest =>
    if !marks.opens c then pairs marks inside rest
    else if inside then pairs marks false rest
    else
      match rest with
      | [] => false
      | next :: rest' =>
        if marks.opens next then pairs marks false rest' else pairs marks true (next :: rest')

end Balance

/-- Every mark of the pattern has a partner. -/
def isBalanced (marks : Delimiters) (pattern : List Char) : Bool :=
  if marks.left = marks.right then Balance.pairs marks false pattern
  else Balance.nests marks 0 pattern

/-- Refuse a pattern whose marks do not balance. -/
def validate (marks : Delimiters) (pattern : List Char) : Except PatternError Unit :=
  if isBalanced marks pattern then .ok () else .error (.unbalanced pattern)

end TintedText
