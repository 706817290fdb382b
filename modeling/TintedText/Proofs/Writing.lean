import TintedText.Proofs.Joining

/-!
# Writing a text as a pattern

A text that is given in pieces, some for outside and some for brackets, is written as a pattern by
doubling the opening marks of the former and putting the latter between marks. Reading the pattern
gives the text back in the colours of its pieces (`format_encode`). Each piece, and each character
of an outer one, is a pattern of its own that can be read to its end; since such patterns can stand
side by side, nothing has to be said about the seams.
-/
namespace TintedText

/-- A part of a text that is to be shown. -/
inductive Piece (separator : Separator) where
  /-- Any text, to stand outside of brackets. -/
  | outer (text : List Char)
  /-- A text to stand in a bracket, which it neither closes nor turns into an escape. -/
  | inner (text : List Char) (ne : text ≠ []) (inside : separator.right ∉ text)
      (single : text.head? ≠ some separator.left)

namespace Piece

variable {separator : Separator}

def text : Piece separator → List Char
  | outer text => text
  | inner text .. => text

/-- A character as it is written outside of brackets: the opening mark twice, all else once. -/
def encodeOuter (separator : Separator) (c : Char) : List Char :=
  if c = separator.left then [c, c] else [c]

/-- The pattern that shows the piece. -/
def encode : Piece separator → List Char
  | outer text => text.flatMap (encodeOuter separator)
  | inner text .. => separator.left :: (text ++ [separator.right])

def outerGlyph (config : Config) (c : Char) : Glyph :=
  ⟨c, if c = config.separator.left then none else some config.outer.toInt⟩

/-- The characters of the piece in the colours in which they are shown. -/
def glyphs (config : Config) : Piece config.separator → List Glyph
  | outer text => text.map (outerGlyph config)
  | inner text .. => paint (some config.inner.toInt) text

@[simp] lemma map_character_glyphs {config : Config} (piece : Piece config.separator) :
    (piece.glyphs config).map Glyph.character = piece.text := by
  cases piece with
  | outer text => simp [glyphs, Piece.text, outerGlyph, Function.comp_def]
  | inner text => simp [glyphs, Piece.text]

end Piece

/-- The pattern that shows pieces one after the other. -/
def encode {separator : Separator} (pieces : List (Piece separator)) : List Char :=
  pieces.flatMap Piece.encode

/-- The pattern is read to its end, and the pass over its characters writes the glyphs. -/
structure Yields (config : Config) (pattern : List Char) (glyphs : List Glyph) : Prop where
  readable : ∃ segments, Cuts config.delimiters [] pattern segments
  transduce_eq : transduce config .outside pattern = glyphs

namespace Yields

variable {config : Config}

lemma nil : Yields config [] [] :=
  ⟨⟨[], .done⟩, rfl⟩

lemma append {first second : List Char} {front back : List Glyph}
    (hfirst : Yields config first front) (hsecond : Yields config second back) :
    Yields config (first ++ second) (front ++ back) := by
  obtain ⟨segments₁, hcuts₁⟩ := hfirst.readable
  obtain ⟨segments₂, hcuts₂⟩ := hsecond.readable
  refine ⟨⟨joined segments₁ segments₂, hcuts₁.append hcuts₂ (by simp)⟩, ?_⟩
  rw [transduce_append hcuts₁, hfirst.transduce_eq, hsecond.transduce_eq]

lemma flatMap {α : Type} {write : α → List Char} {shown : α → List Glyph} {parts : List α}
    (h : ∀ part ∈ parts, Yields config (write part) (shown part)) :
    Yields config (parts.flatMap write) (parts.flatMap shown) := by
  induction parts with
  | nil => exact nil
  | cons part parts ih =>
    rw [List.flatMap_cons, List.flatMap_cons]
    have hpart := h part (by simp)
    have hparts := ih fun other hother => h other (by simp [hother])
    exact hpart.append hparts

lemma encodeOuter (c : Char) :
    Yields config (Piece.encodeOuter config.separator c) [Piece.outerGlyph config c] := by
  by_cases hc : c = config.separator.left
  · have opens : config.delimiters.opens c = true := opens_delimiters_iff.mpr hc
    rw [Piece.encodeOuter, if_pos hc, Piece.outerGlyph, if_pos hc]
    refine ⟨⟨_, .literal opens opens .done⟩, ?_⟩
    rw [transduce_literal opens opens, transduce]
  · have clear : ∀ d ∈ [c], config.delimiters.opens d = false := by
      simpa using opens_delimiters_eq_false_iff.mpr hc
    rw [Piece.encodeOuter, if_neg hc, Piece.outerGlyph, if_neg hc]
    refine ⟨⟨_, .plain (by simp) clear (by simp) .done⟩, ?_⟩
    rw [← List.append_nil [c], transduce_plain clear]
    rfl

lemma bracket {text : List Char} (ne : text ≠ []) (inside : config.separator.right ∉ text)
    (single : text.head? ≠ some config.separator.left) :
    Yields config (config.separator.left :: (text ++ [config.separator.right]))
      (paint (some config.inner.toInt) text) := by
  have opens : config.delimiters.opens config.separator.left = true :=
    opens_delimiters_iff.mpr rfl
  have closes : config.delimiters.closes config.separator.right = true :=
    closes_delimiters_iff.mpr rfl
  have inside' : ∀ c ∈ text, config.delimiters.closes c = false := by
    intro c hc
    apply closes_delimiters_eq_false_iff.mpr
    rintro rfl
    exact inside hc
  have single' : ∀ c ∈ text.head?, config.delimiters.opens c = false := by
    intro c hc
    apply opens_delimiters_eq_false_iff.mpr
    rintro rfl
    exact single hc
  refine ⟨⟨_, .bracketed opens ne single' inside' closes .done⟩, ?_⟩
  rw [transduce_bracketed opens ne single' inside' closes, transduce, List.append_nil]

lemma piece (part : Piece config.separator) :
    Yields config part.encode (part.glyphs config) := by
  cases part with
  | outer text =>
    rw [Piece.encode, Piece.glyphs, List.map_eq_flatMap]
    exact flatMap fun c _ => encodeOuter c
  | inner text ne inside single => exact bracket ne inside single

lemma encode (pieces : List (Piece config.separator)) :
    Yields config (TintedText.encode pieces) (pieces.flatMap (Piece.glyphs config)) :=
  flatMap fun part _ => piece part

end Yields

/-- The pattern that is written for some pieces is read and rendered as their text in their colours.
With equal marks it is always formatted so, with different ones unless it is not balanced. -/
theorem format_encode (config : Config) (pieces : List (Piece config.separator))
    (spans : List (Span String)) :
    ∃ segments styled,
      tokenize config.delimiters (encode pieces) = .ok segments ∧
      render config (encode pieces) segments spans = .ok styled ∧
      styled.text = pieces.flatMap Piece.text ∧
      (∀ (i : Nat) (glyph : Glyph), (pieces.flatMap (Piece.glyphs config))[i]? = some glyph →
        styled.text[i]? = some glyph.character ∧ styled.colorAt i = .ok glyph.color) ∧
      (config.separator.left = config.separator.right →
        Phrase.format ⟨⟨encode pieces, spans⟩, config⟩ = .ok styled) ∧
      (config.separator.left ≠ config.separator.right →
        (Phrase.format ⟨⟨encode pieces, spans⟩, config⟩ =
            .error (.pattern (.unbalanced (encode pieces))) ↔
          isBalanced config.delimiters (encode pieces) = false) ∧
        (isBalanced config.delimiters (encode pieces) = true →
          Phrase.format ⟨⟨encode pieces, spans⟩, config⟩ = .ok styled)) := by
  obtain ⟨⟨segments, hcuts⟩, hglyphs⟩ := Yields.encode pieces
  have hread : tokenize config.delimiters (encode pieces) = .ok segments :=
    tokenizeFrom_eq_ok_iff.mpr hcuts
  let phrase : Phrase := ⟨⟨encode pieces, spans⟩, config⟩
  have hshows : (phrase.rendered segments).Shows (pieces.flatMap (Piece.glyphs config)) := by
    rw [← hglyphs]
    exact Phrase.rendered_shows hcuts
  have hbalanced (h : isBalanced config.delimiters (encode pieces) = true) :
      phrase.format = .ok (phrase.rendered segments) := Phrase.format_accepted h hread
  refine ⟨segments, phrase.rendered segments, hread,
    render_eq_ok config hcuts.isDrawable hcuts.covered_eq spans, ?_, fun i glyph hget => ?_,
    fun hmarks => ?_, fun _ => ⟨?_, hbalanced⟩⟩
  · rw [hshows.text_eq, List.map_flatMap]
    simp only [Piece.map_character_glyphs]
  · refine ⟨?_, hshows.colorAt_eq i glyph hget⟩
    rw [hshows.text_eq, List.getElem?_map, hget]
    rfl
  · have hsame : config.delimiters.left = config.delimiters.right := congrArg ([·]) hmarks
    exact hbalanced (isBalanced_of_cuts hsame hcuts)
  · rw [Phrase.format_eq_unbalanced_iff]
    simp

/-- With different marks an escape opens twice and closes never: the pattern is read and rendered,
but it is not balanced, and so it is not formatted. -/
theorem format_encode_unbalanced :
    let config : Config := { separator := .pair '<' '>' }
    let pieces : List (Piece config.separator) :=
      [.outer ['a', '<'], .inner ['b'] (by decide) (by decide) (by decide)]
    encode pieces = ['a', '<', '<', '<', 'b', '>'] ∧
      (∃ segments styled, tokenize config.delimiters (encode pieces) = .ok segments ∧
        render config (encode pieces) segments [] = .ok styled ∧
        styled.text = ['a', '<', 'b'] ∧ styled.colorAt 0 = .ok (some 0xFF666666) ∧
        styled.colorAt 1 = .ok none ∧ styled.colorAt 2 = .ok (some 0xFFE6454A)) ∧
      Phrase.format ⟨⟨encode pieces, []⟩, config⟩ =
        .error (.pattern (.unbalanced (encode pieces))) := by
  intro config pieces
  obtain ⟨segments, styled, hread, hrender, htext, hshown, -, hformat⟩ :=
    format_encode config pieces []
  have hunbalanced : isBalanced config.delimiters (encode pieces) = false := by decide
  refine ⟨by decide, ⟨segments, styled, hread, hrender, htext, ?_, ?_, ?_⟩, ?_⟩
  · exact (hshown 0 ⟨'a', some 0xFF666666⟩ rfl).2
  · exact (hshown 1 ⟨'<', none⟩ rfl).2
  · exact (hshown 2 ⟨'b', some 0xFFE6454A⟩ rfl).2
  · exact (hformat (by decide)).1.mpr hunbalanced

/-- An escape, the marks of a bracket and another escape meet. -/
example : encode ([.outer ['a', '|'], .inner ['b'] (by decide) (by decide) (by decide),
    .outer ['|']] : List (Piece (.single '|'))) = ['a', '|', '|', '|', 'b', '|', '|', '|'] := by
  decide

end TintedText
