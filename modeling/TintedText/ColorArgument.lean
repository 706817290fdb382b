import TintedText.Color
import TintedText.Text.Characters

/-!
# Colours as arguments

How a colour is written on a command line: as the name of a named colour in letters of either case,
or as an integer literal, which need not be a colour. A literal is an optional sign, then decimal
digits, or a prefix for base sixteen, eight or two and digits of that base. Digits may be of any
script, a single underscore may stand between two digits and after the prefix, and white space may
stand around the whole. A decimal literal that begins with zero is zero, and none has more digits
than a decimal number may have.
-/
namespace TintedText

namespace IntegerLiteral

/-- The white space around a literal; the separator codes are not among it. -/
def isSpace (c : Char) : Bool :=
  Text.isBlank c && !Text.isSeparatorCode c

/-- The value of a letter as a digit above nine. -/
def letterValue? (c : Char) : Option Nat :=
  if 'a' ≤ c ∧ c ≤ 'z' then some (c.toNat - 'a'.toNat + 10)
  else if 'A' ≤ c ∧ c ≤ 'Z' then some (c.toNat - 'A'.toNat + 10)
  else none

/-- The value of a digit of a base. -/
def digit? (base : Nat) (c : Char) : Option Nat :=
  ((Text.decimal? c).or (letterValue? c)).filter (· < base)

/-- The rest of a number whose digits so far have the value `value`. -/
def digitsAfter (base value : Nat) : List Char → Option Nat
  | [] => some value
  | [c] => (digit? base c).map (value * base + ·)
  | c :: next :: rest =>
    if c = '_' then
      match digit? base next with
      | some d => digitsAfter base (value * base + d) rest
      | none => none
    else
      match digit? base c with
      | some d => digitsAfter base (value * base + d) (next :: rest)
      | none => none

/-- A number in a base: digits, single underscores between them. -/
def digits (base : Nat) : List Char → Option Nat
  | [] => none
  | c :: rest =>
    match digit? base c with
    | some d => digitsAfter base d rest
    | none => none

/-- What follows a prefix: a number, possibly after an underscore. -/
def afterPrefix (base : Nat) : List Char → Option Nat
  | '_' :: rest => digits base rest
  | rest => digits base rest

/-- The decimal number has no more digits than it may have. -/
def isShort (text : List Char) : Bool :=
  text.countP (· != '_') ≤ Text.maxDigits

/-- A decimal number; one that begins with zero is zero. -/
def decimal (text : List Char) : Option Nat :=
  let starts := (text.head?.bind Text.decimal?) == some 0
  (digits 10 text).filter fun value => isShort text && (!starts || value == 0)

/-- The base that a letter after a zero stands for. -/
def baseOfLetter? (c : Char) : Option Nat :=
  if c = 'x' ∨ c = 'X' then some 16
  else if c = 'o' ∨ c = 'O' then some 8
  else if c = 'b' ∨ c = 'B' then some 2
  else none

/-- A literal without its sign. -/
def magnitude? : List Char → Option Nat
  | zero :: letter :: rest =>
    match (Text.decimal? zero).filter (· == 0), baseOfLetter? letter with
    | some _, some base => afterPrefix base rest
    | _, _ => decimal (zero :: letter :: rest)
  | text => decimal text

def read? (text : List Char) : Option Int :=
  match Text.trimOf isSpace text with
  | '-' :: rest => (magnitude? rest).map fun value => -(value : Int)
  | '+' :: rest => (magnitude? rest).map fun value => (value : Int)
  | rest => (magnitude? rest).map fun value => (value : Int)

end IntegerLiteral

/-- A text that is neither the name of a colour nor an integer literal. -/
structure NotAColor where
  text : List Char
  deriving DecidableEq, Repr

def NotAColor.message (error : NotAColor) : String :=
  "Not a color: " ++ String.ofList error.text

namespace ColorArgument

def named? (text : List Char) : Option Argb :=
  Argb.named.lookup (String.ofList (Text.capitals text))

/-- The integer that a text stands for. -/
def read (text : List Char) : Except NotAColor Int :=
  match named? text with
  | some color => .ok color.toInt
  | none =>
    match IntegerLiteral.read? text with
    | some value => .ok value
    | none => .error ⟨text⟩

end ColorArgument

end TintedText
