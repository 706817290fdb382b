import Mathlib.Tactic.NormNum
import TintedText.Color

/-!
# Channels of an integer

Every integer has an alpha, a red, a green and a blue channel of eight bits each, negative ones and
those of more than 32 bits included. The four stand side by side: put together again they are the
integer modulo `2 ^ 32` (`compose_channels`). So the colours are the integers that their channels
determine, and two colours draw alike when nothing but their alpha tells them apart
(`channels_color`).
-/
namespace TintedText

namespace Color

/-- A shift and a mask are a quotient and a remainder, for negative integers too. -/
lemma channel_eq (color : Int) (shift : Nat) : channel color shift = color / 2 ^ shift % 256 := by
  rw [channel, Int.shiftRight_eq_div_pow, Int.fmod_eq_emod_of_nonneg _ (by decide)]
  norm_num

lemma channel_bounds (color : Int) (shift : Nat) :
    0 ≤ channel color shift ∧ channel color shift ≤ 255 := by
  rw [channel_eq]
  omega

/-- The integer with the given channels. -/
def compose (alpha : Int) (rgb : Rgb) : Int :=
  alpha * 2 ^ 24 + rgb.red * 2 ^ 16 + rgb.green * 2 ^ 8 + rgb.blue

/-- The channels have no gaps between them and do not overlap. -/
theorem compose_channels (color : Int) :
    compose (alpha color) (.ofColor color) = color % 2 ^ 32 := by
  simp only [compose, alpha, Rgb.ofColor, channel_eq]
  omega

end Color

/-- The red, green and blue channels are the lower 24 bits. -/
lemma Rgb.ofColor_eq_iff {color other : Int} :
    Rgb.ofColor color = Rgb.ofColor other ↔ color % 2 ^ 24 = other % 2 ^ 24 := by
  simp only [Rgb.ofColor, Rgb.mk.injEq, Color.channel_eq]
  omega

lemma Argb.exists_ofValue_iff {color : Int} :
    (∃ checked, ofValue (.int color) = .ok checked) ↔ 0 ≤ color ∧ color < 2 ^ 32 := by
  simp only [ofValue_eq_ok_iff, Value.int.injEq]
  constructor
  · rintro ⟨checked, rfl⟩
    have := checked.nonneg
    have := checked.le_max
    omega
  · rintro ⟨hnonneg, hlt⟩
    exact ⟨⟨color, hnonneg, by omega⟩, rfl⟩

namespace Color

lemma ink?_of_ne {color : Int} (h : alpha color ≠ 0) : ink? color = some (.ofColor color) :=
  if_neg h

/-- The channels of an integer are bytes and make up the integer modulo `2 ^ 32`. It is accepted as
a colour exactly when they make up the integer itself, and two accepted colours that are drawn at
all draw with the same ink exactly when they are the same but for their alpha. -/
theorem channels_color (color : Int) :
    ((0 ≤ alpha color ∧ alpha color ≤ 255) ∧
      (0 ≤ (Rgb.ofColor color).red ∧ (Rgb.ofColor color).red ≤ 255) ∧
      (0 ≤ (Rgb.ofColor color).green ∧ (Rgb.ofColor color).green ≤ 255) ∧
      0 ≤ (Rgb.ofColor color).blue ∧ (Rgb.ofColor color).blue ≤ 255) ∧
    compose (alpha color) (.ofColor color) = color % 2 ^ 32 ∧
    ((∃ checked, Argb.ofValue (.int color) = .ok checked) ↔
      compose (alpha color) (.ofColor color) = color) ∧
    ∀ other checked checked', Argb.ofValue (.int color) = .ok checked →
      Argb.ofValue (.int other) = .ok checked' → alpha color ≠ 0 → alpha other ≠ 0 →
        (ink? color = ink? other ↔
          color - alpha color * 2 ^ 24 = other - alpha other * 2 ^ 24) := by
  refine ⟨⟨?_, ?_, ?_, ?_⟩, compose_channels color, ?_, ?_⟩
  · exact channel_bounds color 24
  · exact channel_bounds color 16
  · exact channel_bounds color 8
  · exact channel_bounds color 0
  · rw [Argb.exists_ofValue_iff, compose_channels]
    omega
  · intro other checked checked' haccepted haccepted' hcolor hother
    -- an accepted colour without its alpha is what its lower 24 bits are
    obtain ⟨hnonneg, hlt⟩ := Argb.exists_ofValue_iff.mp ⟨checked, haccepted⟩
    obtain ⟨hnonneg', hlt'⟩ := Argb.exists_ofValue_iff.mp ⟨checked', haccepted'⟩
    rw [ink?_of_ne hcolor, ink?_of_ne hother, Option.some.injEq, Rgb.ofColor_eq_iff,
      alpha, alpha, channel_eq, channel_eq]
    omega

/-- An opaque and a translucent colour draw alike, another blue channel does not; a negative integer
has the channels of a colour but is none. -/
theorem channels_color_translucent :
    (∃ solid translucent other,
      Argb.ofValue (.int 0xFF102030) = .ok solid ∧
      Argb.ofValue (.int 0x80102030) = .ok translucent ∧
      Argb.ofValue (.int 0x80102031) = .ok other ∧
      alpha 0xFF102030 = 255 ∧ alpha 0x80102030 = 128 ∧ alpha 0x80102031 = 128 ∧
      ink? 0xFF102030 = ink? 0x80102030 ∧ ink? 0xFF102030 ≠ ink? 0x80102031) ∧
    compose (alpha (-2)) (.ofColor (-2)) = 0xFFFFFFFE ∧
    ¬ ∃ checked, Argb.ofValue (.int (-2)) = .ok checked := by
  refine ⟨⟨⟨0xFF102030, by decide, by decide⟩, ⟨0x80102030, by decide, by decide⟩,
    ⟨0x80102031, by decide, by decide⟩, rfl, rfl, rfl, by decide, by decide, by decide, ?_, ?_⟩,
    ?_, ?_⟩
  · exact ((channels_color 0xFF102030).2.2.2 0x80102030 _ _ rfl rfl (by decide) (by decide)).mpr
      (by decide)
  · exact mt ((channels_color 0xFF102030).2.2.2 0x80102031 _ _ rfl rfl (by decide)
      (by decide)).mp (by decide)
  · exact (channels_color (-2)).2.1
  · exact mt (channels_color (-2)).2.2.1.mp (by decide)

end Color
end TintedText
