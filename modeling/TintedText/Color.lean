import TintedText.Value

/-!
# Colours

A colour is an integer of 32 bits, eight each for alpha, red, green and blue from the top down. The
channels are defined for every integer, a negative one having infinitely many ones above; `Argb` is
the type of the integers that are colours.
-/
namespace TintedText

namespace Color

/-- The eight bits of an integer from bit `shift` on. -/
def channel (color : Int) (shift : Nat) : Int :=
  (color >>> shift).fmod 256

/-- The opacity; a colour of alpha zero is not drawn. -/
def alpha (color : Int) : Int :=
  channel color 24

end Color

structure Rgb where
  red : Int
  green : Int
  blue : Int
  deriving DecidableEq, Repr

namespace Rgb

def ofColor (color : Int) : Rgb :=
  ⟨Color.channel color 16, Color.channel color 8, Color.channel color 0⟩

/-- The name of an ink: a number sign and two hexadecimal digits for each channel. -/
def name (rgb : Rgb) : String :=
  let digits (channel : Int) := Text.hexDigits 2 channel.toNat
  String.ofList ('#' :: digits rgb.red ++ digits rgb.green ++ digits rgb.blue)

end Rgb

namespace Color

/-- The ink a colour draws with: none when it is fully transparent. -/
def ink? (color : Int) : Option Rgb :=
  if alpha color = 0 then none else some (Rgb.ofColor color)

end Color

/-- An integer of 32 bits read as alpha, red, green and blue. -/
structure Argb where
  toInt : Int
  nonneg : 0 ≤ toInt
  le_max : toInt ≤ 0xFFFFFFFF
  deriving DecidableEq, Repr

namespace Argb

/-- The integers of 32 bits are the colours; a truth value is not an integer. -/
def ofValue : Value → Except ArgumentError Argb
  | .int value =>
    if h : 0 ≤ value ∧ value ≤ 0xFFFFFFFF then .ok ⟨value, h.1, h.2⟩
    else .error (.badColor (.int value))
  | value => .error (.badColor value)

theorem ofValue_eq_ok_iff {value : Value} {color : Argb} :
    ofValue value = .ok color ↔ value = .int color.toInt := by
  constructor
  · intro h
    unfold ofValue at h
    split at h
    · split at h
      · cases h; rfl
      · cases h
    · cases h
  · rintro rfl
    exact dif_pos ⟨color.nonneg, color.le_max⟩

def gray : Argb := ⟨0xFF666666, by decide, by decide⟩
def red : Argb := ⟨0xFFE6454A, by decide, by decide⟩
def green : Argb := ⟨0xFF00D75F, by decide, by decide⟩
def pink : Argb := ⟨0xFFFF87D7, by decide, by decide⟩
def blue : Argb := ⟨0xFF5FAFFF, by decide, by decide⟩
def yellow : Argb := ⟨0xFFFFFF5F, by decide, by decide⟩
def white : Argb := ⟨0xFFEEEEEE, by decide, by decide⟩

/-- The colours that have a name, in the order of their names. -/
def named : List (String × Argb) :=
  [("BLUE", blue), ("GRAY", gray), ("GREEN", green), ("PINK", pink), ("RED", red),
   ("WHITE", white), ("YELLOW", yellow)]

end Argb

end TintedText
