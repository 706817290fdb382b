import TintedText.Overlay

/-!
# Consoles

The names of styles as they are usually written, a console that knows them and breaks no line, and
the text that an overlay becomes on a console.
-/
namespace TintedText

/-! ### Names of styles

A name is a list of words: attributes, each of them possibly behind `not`, and colours, each of them
possibly behind `on`, which means the ground. Links, and names that a theme gives to whole styles,
are not among them.
-/

/-- The attribute that a word names, in full or by its letter. -/
def Attribute.ofWord? : String → Option Attribute
  | "bold" | "b" => some bold
  | "dim" | "d" => some dim
  | "italic" | "i" => some italic
  | "underline" | "u" => some underline
  | "blink" => some blink
  | "blink2" => some rapidBlink
  | "reverse" | "r" => some reverse
  | "conceal" | "c" => some conceal
  | "strike" | "s" => some strike
  | "underline2" | "uu" => some doubleUnderline
  | "frame" => some frame
  | "encircle" => some encircle
  | "overline" | "o" => some overline
  | _ => none

namespace Ink

/-- The names of the standard colours in the order of their numbers. -/
def standardNames : List String :=
  ["black", "red", "green", "yellow", "blue", "magenta", "cyan", "white", "bright_black",
   "bright_red", "bright_green", "bright_yellow", "bright_blue", "bright_magenta", "bright_cyan",
   "bright_white"]

def hexDigit? (c : Char) : Option Nat :=
  if '0' ≤ c ∧ c ≤ '9' then some (c.toNat - '0'.toNat)
  else if 'a' ≤ c ∧ c ≤ 'f' then some (c.toNat - 'a'.toNat + 10)
  else none

/-- The colour of a number sign and two hexadecimal digits for each channel. -/
def ofDigits? : List Char → Option Ink
  | ['#', r, r', g, g', b, b'] => do
    let channel (high low : Char) := return (16 * (← hexDigit? high) + (← hexDigit? low) : Int)
    return .rgb ⟨← channel r r', ← channel g g', ← channel b b'⟩
  | _ => none

def ofWord? (word : String) : Option Ink :=
  if word == "default" then some .own
  else ((standardNames.finIdxOf? word).map .standard).or (ofDigits? word.toList)

end Ink

namespace Look

def switched (look : Look) (a : Attribute) (on : Bool) : Look :=
  { look with switch := fun other => if other = a then some on else look.switch other }

/-- Add what the words of a style's name say to a look. -/
def readWords (look : Look) : List String → Option Look
  | [] => some look
  | "on" :: word :: rest => do
    let ink ← Ink.ofWord? word
    readWords { look with ground := some ink } rest
  | "not" :: word :: rest => do
    let a ← Attribute.ofWord? word
    readWords (look.switched a false) rest
  | word :: rest =>
    match Attribute.ofWord? word with
    | some a => readWords (look.switched a true) rest
    | none => do
      let ink ← Ink.ofWord? word
      readWords { look with ink := some ink } rest

/-- The words of a style's name, in small letters. -/
def words (name : String) : List String :=
  ((name.toList.splitOnP Text.isBlank).filter (!·.isEmpty)).map fun word =>
    String.ofList (word.map Char.toLower)

/-- The look that a style's name stands for, when all of its words are known. -/
def ofName? (name : String) : Option Look :=
  match words name with
  | ["none"] => some {}
  | words => readWords {} words

end Look

/-- A console with very long rows, which breaks no line. -/
def Console.wide : Console where
  look? := Look.ofName?
  look?_empty := rfl
  width := 100000
  columns := List.length
  rows line := [(0, line.length)]
  rows_of_fits _ _ _ := rfl

/-! ### Terminal text

An overlay is cut at line feeds, where the console breaks a line, and wherever a paint starts or
ends; each piece is written between the sequence that switches its look on and the one that resets
it, or bare when its look is plain. Line feeds are never written with a look.
-/

namespace Ansi

/-- A character of a text with its position. -/
abbrev Place := Char × Nat

def rows (console : Console) (text : List Char) : List (List Place) :=
  (text.zipIdx.splitOnP (·.1 == '\n')).flatMap fun line =>
    (console.rows (line.map (·.1))).map fun (start, stop) => (line.take stop).drop start

/-- Two neighbouring characters of a row belong to one piece. -/
def joined (overlay : Overlay) (_first second : Place) : Bool :=
  !overlay.isSeam second.2

/-- The sequence that switches a look on. -/
def opening (codes : List Nat) : List Char :=
  '\x1b' :: '[' :: (";".intercalate (codes.map toString)).toList ++ ['m']

def reset : List Char :=
  ['\x1b', '[', '0', 'm']

/-- A text under a look. -/
def written (look : Look) (text : List Char) : List Char :=
  if look.codes.isEmpty then text else opening look.codes ++ text ++ reset

/-- One piece, whose look is that of its first character. -/
def piece (console : Console) (overlay : Overlay) : List Place → List Char
  | [] => []
  | (c, position) :: rest =>
    written (overlay.lookAt console position) (c :: rest.map (·.1))

def row (console : Console) (overlay : Overlay) (places : List Place) : List Char :=
  (places.splitBy (joined overlay)).flatMap (piece console overlay)

def render (console : Console) (overlay : Overlay) : List Char :=
  ['\n'].intercalate ((rows console overlay.text).map (row console overlay))

def ofStyled (styled : StyledText) (console : Console := .wide) : List Char :=
  render console (Overlay.ofStyled styled)

/-- A styled text as a line of terminal text. -/
def printed (styled : StyledText) (console : Console := .wide) : List Char :=
  ofStyled styled console ++ ['\n']

end Ansi

end TintedText
