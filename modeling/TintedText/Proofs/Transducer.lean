import TintedText.Proofs.Coloring
import TintedText.Proofs.Outcome

/-!
# Formatting as one pass over the characters

`transduce` reads a pattern from left to right and writes every character that is kept, with its
colour, knowing only whether it stands outside or inside of a bracket. Formatting does the same by
way of segments, edits and colour ranges (`format_transduce`).
-/
namespace TintedText

/-- Where a reader of a pattern stands. -/
inductive Place where
  | outside
  | inside
  deriving DecidableEq, Repr

/-- A character of the output and the colour it is drawn in. -/
structure Glyph where
  character : Char
  color : Option Int
  deriving DecidableEq, Repr

/-- The characters of the pattern that are kept. Outside, a doubled opening mark is kept once and
without colour, and a single one is dropped and enters a bracket; inside, the first closing mark is
dropped and leaves it. All else is kept in the colour of the place. -/
def transduce (config : Config) : Place → List Char → List Glyph
  | _, [] => []
  | .inside, c :: rest =>
    if c = config.separator.right then transduce config .outside rest
    else ⟨c, some config.inner.toInt⟩ :: transduce config .inside rest
  | .outside, c :: rest =>
    if c ≠ config.separator.left then
      ⟨c, some config.outer.toInt⟩ :: transduce config .outside rest
    else
      match rest with
      | [] => []
      | next :: rest' =>
        if next = config.separator.left then ⟨c, none⟩ :: transduce config .outside rest'
        else transduce config .inside (next :: rest')

/-- Characters that are all drawn in one colour. -/
def paint (color : Option Int) (text : List Char) : List Glyph :=
  text.map fun c => ⟨c, color⟩

@[simp] lemma map_character_paint (color : Option Int) (text : List Char) :
    (paint color text).map Glyph.character = text := by
  simp [paint, Function.comp_def]

@[simp] lemma map_color_paint (color : Option Int) (text : List Char) :
    (paint color text).map Glyph.color = List.replicate text.length color := by
  simp [paint, Function.comp_def]

section transduce

variable {config : Config}

lemma opens_delimiters_iff {c : Char} :
    config.delimiters.opens c = true ↔ c = config.separator.left := by
  rw [Config.delimiters, Separator.delimiters, Delimiters.opens_ofChars, beq_iff_eq, eq_comm]

lemma closes_delimiters_iff {c : Char} :
    config.delimiters.closes c = true ↔ c = config.separator.right := by
  rw [Config.delimiters, Separator.delimiters, Delimiters.closes_ofChars, beq_iff_eq, eq_comm]

lemma opens_delimiters_eq_false_iff {c : Char} :
    config.delimiters.opens c = false ↔ c ≠ config.separator.left := by
  rw [← Bool.not_eq_true, opens_delimiters_iff]

lemma closes_delimiters_eq_false_iff {c : Char} :
    config.delimiters.closes c = false ↔ c ≠ config.separator.right := by
  rw [← Bool.not_eq_true, closes_delimiters_iff]

lemma transduce_plain {run tail : List Char}
    (clear : ∀ c ∈ run, config.delimiters.opens c = false) :
    transduce config .outside (run ++ tail) =
      paint (some config.outer.toInt) run ++ transduce config .outside tail := by
  induction run with
  | nil => rfl
  | cons c run ih =>
    have hc : c ≠ config.separator.left :=
      opens_delimiters_eq_false_iff.mp (clear c (by simp))
    have hrun := ih fun d hd => clear d (by simp [hd])
    rw [List.cons_append, transduce.eq_def]
    simp [hc, hrun, paint]

lemma transduce_literal {first second : Char} {tail : List Char}
    (opens : config.delimiters.opens first = true)
    (again : config.delimiters.opens second = true) :
    transduce config .outside (first :: second :: tail) =
      ⟨first, none⟩ :: transduce config .outside tail := by
  simp [transduce, opens_delimiters_iff.mp opens, opens_delimiters_iff.mp again]

lemma transduce_inside {content tail : List Char} {close : Char}
    (inside : ∀ c ∈ content, config.delimiters.closes c = false)
    (closes : config.delimiters.closes close = true) :
    transduce config .inside (content ++ close :: tail) =
      paint (some config.inner.toInt) content ++ transduce config .outside tail := by
  induction content with
  | nil => simp [transduce, closes_delimiters_iff.mp closes, paint]
  | cons c content ih =>
    have hc : c ≠ config.separator.right :=
      closes_delimiters_eq_false_iff.mp (inside c (by simp))
    have hcontent := ih fun d hd => inside d (by simp [hd])
    rw [List.cons_append, transduce.eq_def]
    simp [hc, hcontent, paint]

lemma transduce_bracketed {mark close : Char} {content tail : List Char}
    (opens : config.delimiters.opens mark = true) (ne : content ≠ [])
    (single : ∀ c ∈ content.head?, config.delimiters.opens c = false)
    (inside : ∀ c ∈ content, config.delimiters.closes c = false)
    (closes : config.delimiters.closes close = true) :
    transduce config .outside (mark :: (content ++ close :: tail)) =
      paint (some config.inner.toInt) content ++ transduce config .outside tail := by
  rw [← transduce_inside inside closes]
  obtain ⟨c, content, rfl⟩ := List.exists_cons_of_ne_nil ne
  have hc : c ≠ config.separator.left := opens_delimiters_eq_false_iff.mp (single c rfl)
  simp [transduce, opens_delimiters_iff.mp opens, hc]

/-- Over text that was cut into segments the pass writes what the segments leave. -/
theorem transduce_of_cuts {rest used : List Char} {segments : List Segment}
    (h : Cuts config.delimiters rest used segments) :
    (transduce config .outside (used ++ rest)).map Glyph.character =
      outputs used segments ++ (transduce config .outside rest).map Glyph.character ∧
    (transduce config .outside (used ++ rest)).map Glyph.color =
      colors config segments ++ (transduce config .outside rest).map Glyph.color := by
  induction h with
  | done => exact ⟨rfl, rfl⟩
  | @plain run used segments ne clear ends cuts ih =>
    rw [List.append_assoc, transduce_plain clear, outputs_plain, colors_cons]
    simp [ih, Segment.color?, Segment.outputLength]
  | literal opens again cuts ih =>
    rw [List.cons_append, List.cons_append, transduce_literal opens again, outputs_literal,
      Delimiters.opens_iff.mp opens, colors_cons]
    simp [ih, Segment.color?, Segment.outputLength]
  | bracketed opens ne single inside closes cuts ih =>
    rw [List.cons_append, List.append_assoc, List.cons_append,
      transduce_bracketed opens ne single inside closes, outputs_bracketed, colors_cons]
    simp [ih, Segment.color?, Segment.outputLength]

end transduce

/-- The text consists of these characters, and they are drawn in these colours. -/
structure StyledText.Shows (styled : StyledText) (glyphs : List Glyph) : Prop where
  text_eq : styled.text = glyphs.map Glyph.character
  colorAt_eq : ∀ (i : Nat) (glyph : Glyph), glyphs[i]? = some glyph →
    styled.colorAt i = .ok glyph.color

namespace Phrase

variable {phrase : Phrase} {styled : StyledText}

theorem rendered_shows {segments : List Segment}
    (h : Cuts phrase.config.delimiters [] phrase.pattern.text segments) :
    (phrase.rendered segments).Shows
      (transduce phrase.config .outside phrase.pattern.text) := by
  obtain ⟨htext, hcolors⟩ := transduce_of_cuts h
  simp only [List.append_nil, transduce, List.map_nil] at htext hcolors
  refine ⟨htext.symm, fun i glyph hglyph => ?_⟩
  have hlength := congrArg List.length htext
  obtain ⟨hi, -⟩ := List.getElem?_eq_some_iff.mp hglyph
  rw [List.length_map] at hlength
  rw [rendered, colorAt_rendered h.isDrawable _ (by omega), ← hcolors, List.getElem?_map, hglyph]
  rfl

theorem format_shows (h : phrase.format = .ok styled) :
    styled.Shows (transduce phrase.config .outside phrase.pattern.text) := by
  obtain ⟨-, segments, hread, rfl⟩ := format_eq_ok_iff.mp h
  exact rendered_shows (tokenizeFrom_eq_ok_iff.mp hread)

end Phrase

/-- What formatting gives is what the pass over the characters writes, whatever spans the pattern
carries. -/
theorem format_transduce {phrase : Phrase} {styled : StyledText} (h : phrase.format = .ok styled) :
    styled.text = (transduce phrase.config .outside phrase.pattern.text).map Glyph.character ∧
    (∀ (i : Nat) (glyph : Glyph),
      (transduce phrase.config .outside phrase.pattern.text)[i]? = some glyph →
        styled.colorAt i = .ok glyph.color) ∧
    (∀ spans, ∃ other,
      Phrase.format ⟨⟨phrase.pattern.text, spans⟩, phrase.config⟩ = .ok other ∧
        other.text = styled.text ∧
          ∀ position, other.colorAt position = styled.colorAt position) := by
  have hshows := Phrase.format_shows h
  refine ⟨hshows.text_eq, hshows.colorAt_eq, fun spans => ?_⟩
  obtain ⟨hbalance, segments, hread, rfl⟩ := Phrase.format_eq_ok_iff.mp h
  exact ⟨_, Phrase.format_eq_ok_iff.mpr ⟨hbalance, segments, hread, rfl⟩, rfl, fun _ => rfl⟩

/-- An escape, closing marks outside of brackets, and a bracket that holds an opening mark. -/
theorem format_transduce_escape :
    ∃ styled, Phrase.format ⟨⟨['x', '<', '<', 'y', '>', '>', 'z', '<', 'q', '>'], [⟨1, 3, "bold"⟩]⟩,
        { separator := .pair '<' '>' }⟩ = .ok styled ∧
      styled.text = ['x', '<', 'y', '>', '>', 'z', 'q'] ∧
      styled.colorAt 1 = .ok none ∧ styled.colorAt 6 = .ok (some 0xFFE6454A) := by
  have h : Phrase.format ⟨⟨['x', '<', '<', 'y', '>', '>', 'z', '<', 'q', '>'], [⟨1, 3, "bold"⟩]⟩,
      { separator := .pair '<' '>' }⟩ =
        .ok ⟨['x', '<', 'y', '>', '>', 'z', 'q'],
          [⟨0, 1, 0xFF666666⟩, ⟨2, 6, 0xFF666666⟩, ⟨6, 7, 0xFFE6454A⟩], [⟨1, 2, "bold"⟩]⟩ := by
    cbv
  obtain ⟨htext, hcolors, -⟩ := format_transduce h
  exact ⟨_, h, htext, hcolors 1 ⟨'<', none⟩ rfl, hcolors 6 ⟨'q', some 0xFFE6454A⟩ rfl⟩

end TintedText
