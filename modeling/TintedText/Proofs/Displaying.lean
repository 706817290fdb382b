import Mathlib.Data.List.SplitBy
import TintedText.Proofs.Layering
import TintedText.Proofs.Terminal

/-!
# What a terminal shows of a styled text

A styled text is written row by row, and a row in pieces. What is shown of a piece are its
characters under the codes of its look, and no piece leaves a code switched on (`run_piece`). All
characters of a piece have the look of the first one, so that each character of a row is shown under
the codes of its own look (`run_row`). When every line fits the console the rows are the lines, and
the whole text is shown (`run_render_of_fits`). A formatted pattern is shown with its text, its
styles and its colours (`run_ofStyled`).
-/
namespace TintedText

lemma Ink.exists_codes_eq_cons (ink : Ink) :
    ∃ first rest, ink.codes = (first + 1) :: rest ∧ ink.groundCodes = (first + 11) :: rest := by
  cases ink with
  | own => exact ⟨38, [], rfl, rfl⟩
  | palette number => exact ⟨37, [5, number], rfl, rfl⟩
  | rgb channels => exact ⟨37, _, rfl, rfl⟩
  | standard number =>
    simp only [groundCodes, codes]
    split_ifs
    · exact ⟨29 + number, [], by congr 1; omega, by simp; omega⟩
    · exact ⟨81 + number, [], by congr 1; omega, by simp; omega⟩

/-- The codes of a look do not look like a reset. -/
lemma Look.codes_ne_zero (look : Look) : look.codes ≠ [0] := by
  intro h
  obtain ⟨-, hground⟩ | ⟨hfront, -⟩ := List.append_eq_singleton_iff.mp h
  · cases hlook : look.ground with
    | none => simp [hlook] at hground
    | some ink =>
      obtain ⟨first, rest, -, hcodes⟩ := ink.exists_codes_eq_cons
      simp [hlook, hcodes] at hground
  obtain ⟨-, hink⟩ | ⟨hon, -⟩ := List.append_eq_singleton_iff.mp hfront
  · cases hlook : look.ink with
    | none => simp [hlook] at hink
    | some ink =>
      obtain ⟨first, rest, hcodes, -⟩ := ink.exists_codes_eq_cons
      simp [hlook, hcodes] at hink
  · have hmem := List.mem_singleton_self 0
    rw [← hon] at hmem
    obtain ⟨a, -, ha⟩ := List.mem_map.mp hmem
    cases a <;> cases ha

/-- Where no paint starts or ends the look goes on. -/
lemma Overlay.lookAt_succ {console : Console} {overlay : Overlay} {position : Int}
    (h : overlay.isSeam (position + 1) = false) :
    overlay.lookAt console (position + 1) = overlay.lookAt console position := by
  have hcovers : ∀ span ∈ overlay.spans, span.covers (position + 1) = span.covers position := by
    intro span hspan
    have hseam := List.any_eq_false.mp h span hspan
    simp only [Bool.or_eq_true, beq_iff_eq, not_or] at hseam
    rw [Bool.eq_iff_iff]
    simp only [Span.covers, Bool.and_eq_true, decide_eq_true_eq]
    omega
  unfold lookAt
  rw [List.filter_congr hcovers]

/-! ### Splitting a list -/

section Splitting

variable {α β : Type} {p : α → Bool}

/-- The parts of a list between the members that split it are parts of it without such ones. -/
lemma infix_of_mem_splitOnP {list part : List α} (h : part ∈ list.splitOnP p) :
    part <:+: list ∧ ∀ a ∈ part, p a = false := by
  -- the first part must be known to stand at the front, where a member may be added to it
  suffices hall : ∀ {first : List α} {rest : List (List α)}, list.splitOnP p = first :: rest →
      first <+: list ∧ ∀ part ∈ first :: rest, part <:+: list ∧ ∀ a ∈ part, p a = false by
    obtain ⟨first, rest, hsplit⟩ := List.exists_cons_of_ne_nil (List.splitOnP_ne_nil p list)
    exact (hall hsplit).2 part (hsplit ▸ h)
  clear h
  induction list with
  | nil =>
    intro first rest hsplit
    obtain ⟨rfl, rfl⟩ := List.cons.inj (List.splitOnP_nil.symm.trans hsplit)
    simp
  | cons a list ih =>
    intro first rest hsplit
    obtain ⟨next, others, hnext⟩ := List.exists_cons_of_ne_nil (List.splitOnP_ne_nil p list)
    obtain ⟨hfront, hparts⟩ := ih hnext
    have hslice : ∀ part ∈ next :: others, part <:+: a :: list ∧ ∀ b ∈ part, p b = false :=
      fun part hpart => ⟨(hparts part hpart).1.trans (List.suffix_cons a list).isInfix,
        (hparts part hpart).2⟩
    rw [List.splitOnP_cons_eq_if_modifyHead, hnext] at hsplit
    split_ifs at hsplit with ha
    · obtain ⟨rfl, rfl⟩ := List.cons.inj hsplit
      exact ⟨List.nil_prefix, List.forall_mem_cons.mpr ⟨by simp, hslice⟩⟩
    · obtain ⟨rfl, rfl⟩ := List.cons.inj hsplit
      have hfirst : a :: next <+: a :: list := List.cons_prefix_cons.mpr ⟨rfl, hfront⟩
      obtain ⟨⟨-, hnone⟩, hothers⟩ := List.forall_mem_cons.mp hslice
      refine ⟨hfirst, List.forall_mem_cons.mpr ⟨⟨hfirst.isInfix, ?_⟩, hothers⟩⟩
      exact List.forall_mem_cons.mpr ⟨Bool.not_eq_true _ ▸ ha, hnone⟩

lemma intercalate_splitOnP (list : List α) (f : α → β) (between : β) :
    [between].intercalate ((list.splitOnP p).map (·.map f)) =
      list.map fun a => if p a then between else f a := by
  induction list with
  | nil => rfl
  | cons a list ih =>
    obtain ⟨next, others, hnext⟩ := List.exists_cons_of_ne_nil (List.splitOnP_ne_nil p list)
    rw [hnext] at ih
    rw [List.splitOnP_cons_eq_if_modifyHead, hnext, List.map_cons, ← ih]
    split_ifs
    · rw [List.map_cons, List.map_cons, List.intercalate_cons_cons]
      rfl
    · cases others with
      | nil => simp
      | cons other others => simp [List.intercalate_cons_cons]

lemma map_splitOnP (list : List α) (f : α → β) (q : β → Bool) :
    (list.splitOnP fun a => q (f a)).map (·.map f) = (list.map f).splitOnP q := by
  induction list with
  | nil => rfl
  | cons a list ih =>
    rw [List.map_cons, List.splitOnP_cons_eq_if_modifyHead, List.splitOnP_cons_eq_if_modifyHead,
      ← ih]
    split_ifs
    · rfl
    · cases List.splitOnP (fun a => q (f a)) list <;> rfl

end Splitting

namespace Ansi

variable {console : Console} {overlay : Overlay} {look : Look} {places : List Place}
  {cells : List Cell}

/-- The cell in which the character of a place is shown. -/
def cell (console : Console) (overlay : Overlay) (place : Place) : Cell :=
  ⟨place.1, (overlay.lookAt console place.2).codes⟩

def lineFeed : Cell :=
  ⟨'\n', []⟩

lemma run_written {text : List Char} (htext : ∀ c ∈ text, c ≠ '\x1b') :
    Terminal.run ⟨.text, [], cells⟩ (written look text) =
      ⟨.text, [], cells ++ text.map (⟨·, look.codes⟩)⟩ := by
  unfold written
  split_ifs with hempty
  · rw [Terminal.run_text htext, List.isEmpty_iff.mp hempty]
  · have hne : look.codes ≠ [] := fun h => hempty (List.isEmpty_iff.mpr h)
    rw [Terminal.run_append, Terminal.run_append, Terminal.run_opening hne look.codes_ne_zero,
      Terminal.run_text htext, Terminal.run_reset]

/-! ### Rows -/

/-- The second place is the next one of the text. -/
def Follows (first second : Place) : Prop :=
  second.2 = first.2 + 1

/-- It belongs to the piece of the first one, too. -/
def Continues (overlay : Overlay) (first second : Place) : Prop :=
  overlay.isSeam second.2 = false ∧ Follows first second

/-- All characters of a piece have the look of the first one. -/
lemma lookAt_of_isChain {first : Place} (h : (first :: places).IsChain (Continues overlay)) :
    ∀ place ∈ places, overlay.lookAt console place.2 = overlay.lookAt console first.2 := by
  induction places generalizing first with
  | nil => simp
  | cons next places ih =>
    obtain ⟨⟨hseam, hnext⟩, hplaces⟩ := List.isChain_cons_cons.mp h
    have hlook : overlay.lookAt console next.2 = overlay.lookAt console first.2 := by
      rw [hnext, Nat.cast_succ] at hseam ⊢
      exact Overlay.lookAt_succ hseam
    exact List.forall_mem_cons.mpr
      ⟨hlook, fun place hplace => (ih hplaces place hplace).trans hlook⟩

lemma run_piece (hchain : places.IsChain (Continues overlay))
    (hescape : ∀ place ∈ places, place.1 ≠ '\x1b') :
    Terminal.run ⟨.text, [], cells⟩ (piece console overlay places) =
      ⟨.text, [], cells ++ places.map (cell console overlay)⟩ := by
  cases places with
  | nil => simp [piece, Terminal.run]
  | cons first places =>
    obtain ⟨c, position⟩ := first
    have hcells : ((c, position) :: places).map (cell console overlay) =
        (c :: places.map (·.1)).map (⟨·, (overlay.lookAt console position).codes⟩) := by
      rw [List.map_cons, List.map_cons, List.map_map]
      refine congrArg _ (List.map_congr_left fun place hplace => ?_)
      rw [cell, lookAt_of_isChain hchain place hplace]
      rfl
    have htext : ∀ d ∈ c :: places.map (·.1), d ≠ '\x1b' := by
      intro d hd
      obtain ⟨place, hplace, rfl⟩ := List.mem_map.mp
        (by simpa using hd : d ∈ ((c, position) :: places).map (·.1))
      exact hescape place hplace
    rw [hcells, piece, run_written htext]

lemma run_flatMap {α : Type} {parts : List α} {write : α → List Char} {shown : α → List Cell}
    (h : ∀ part ∈ parts, ∀ cells, Terminal.run ⟨.text, [], cells⟩ (write part) =
      ⟨.text, [], cells ++ shown part⟩) :
    Terminal.run ⟨.text, [], cells⟩ (parts.flatMap write) =
      ⟨.text, [], cells ++ parts.flatMap shown⟩ := by
  induction parts generalizing cells with
  | nil => simp [Terminal.run]
  | cons part parts ih =>
    obtain ⟨hpart, hparts⟩ := List.forall_mem_cons.mp h
    rw [List.flatMap_cons, Terminal.run_append, hpart, ih hparts, List.flatMap_cons,
      List.append_assoc]

lemma run_row (hrow : places.IsChain Follows) (hescape : ∀ place ∈ places, place.1 ≠ '\x1b') :
    Terminal.run ⟨.text, [], cells⟩ (row console overlay places) =
      ⟨.text, [], cells ++ places.map (cell console overlay)⟩ := by
  have hflat : (places.splitBy (joined overlay)).flatten = places := List.flatten_splitBy ..
  have hshown : (places.splitBy (joined overlay)).flatMap (·.map (cell console overlay)) =
      places.map (cell console overlay) := by
    rw [← List.map_flatMap, List.flatMap_id', hflat]
  rw [← hshown]
  refine run_flatMap fun part hpart cells => ?_
  have hslice : part <:+: places := hflat ▸ List.infix_of_mem_flatten hpart
  refine run_piece ?_ fun place hplace => hescape place (hslice.subset hplace)
  have hjoined := List.isChain_iff_getElem.mp (List.isChain_of_mem_splitBy hpart)
  have hnext := List.isChain_iff_getElem.mp <| List.IsChain.infix hrow hslice
  exact List.isChain_iff_getElem.mpr fun i hi =>
    ⟨Bool.not_eq_true' _ ▸ hjoined i hi, hnext i hi⟩

lemma run_intercalate {rows : List (List Place)}
    (h : ∀ places ∈ rows, ∀ cells, Terminal.run ⟨.text, [], cells⟩ (row console overlay places) =
      ⟨.text, [], cells ++ places.map (cell console overlay)⟩) :
    Terminal.run ⟨.text, [], cells⟩ (['\n'].intercalate (rows.map (row console overlay))) =
      ⟨.text, [], cells ++ [lineFeed].intercalate (rows.map (·.map (cell console overlay)))⟩ := by
  induction rows generalizing cells with
  | nil => simp [Terminal.run]
  | cons places rows ih =>
    obtain ⟨hplaces, hrows⟩ := List.forall_mem_cons.mp h
    cases rows with
    | nil => simpa using hplaces cells
    | cons next rows =>
      have hfeed : ∀ cells, Terminal.run ⟨.text, [], cells⟩ ['\n'] =
          ⟨.text, [], cells ++ [lineFeed]⟩ := fun _ => rfl
      rw [List.map_cons, List.map_cons, List.intercalate_cons_cons, Terminal.run_append,
        Terminal.run_append, hplaces, hfeed, ← List.map_cons, ih hrows]
      simp [List.intercalate_cons_cons]

lemma infix_of_mem_rows {text : List Char} (h : places ∈ rows console text) :
    places <:+: text.zipIdx ∧ ∀ place ∈ places, place.1 ≠ '\n' := by
  obtain ⟨line, hline, hplaces⟩ := List.mem_flatMap.mp h
  obtain ⟨⟨start, stop⟩, -, rfl⟩ := List.mem_map.mp hplaces
  obtain ⟨hslice, hfeed⟩ := infix_of_mem_splitOnP hline
  have hregion : (line.take stop).drop start <:+: line :=
    (List.drop_suffix start _).isInfix.trans (List.take_prefix stop line).isInfix
  refine ⟨hregion.trans hslice, fun place hplace => ?_⟩
  simpa using hfeed place (hregion.subset hplace)

/-- What is shown row by row are line feeds and the characters of the text at their positions. -/
lemma mem_cells_cases {shown : Cell}
    (h : shown ∈ [lineFeed].intercalate
      ((rows console overlay.text).map (·.map (cell console overlay)))) :
    shown = lineFeed ∨ ∃ place ∈ overlay.text.zipIdx,
      place.1 ≠ '\n' ∧ shown = cell console overlay place := by
  obtain rfl | ⟨part, hpart, hshown⟩ := Terminal.mem_intercalate h
  · exact .inl rfl
  · obtain ⟨places, hplaces, rfl⟩ := List.mem_map.mp hpart
    obtain ⟨place, hplace, rfl⟩ := List.mem_map.mp hshown
    obtain ⟨hslice, hfeed⟩ := infix_of_mem_rows hplaces
    exact .inr ⟨place, hslice.subset hplace, hfeed place hplace, rfl⟩

lemma map_character_cells (console : Console) (overlay : Overlay) (text : List Char) :
    (text.zipIdx.map fun place =>
      if place.1 == '\n' then lineFeed else cell console overlay place).map (·.character) =
        text := by
  have hcharacter : ∀ place : Place, (if place.1 == '\n' then lineFeed
      else cell console overlay place).character = place.1 := by
    intro place
    split_ifs with hfeed
    · exact (beq_iff_eq.mp hfeed).symm
    · rfl
  rw [List.map_map]
  exact (List.map_congr_left fun place _ => hcharacter place).trans (List.zipIdx_map_fst 0 text)

/-- What is shown of an overlay are the characters of its rows, under the codes of their looks. -/
theorem run_render (console : Console) (hescape : ∀ c ∈ overlay.text, c ≠ '\x1b') :
    Terminal.run {} (render console overlay) =
      { cells := [lineFeed].intercalate
          ((rows console overlay.text).map (·.map (cell console overlay))) } := by
  have hall : overlay.text.zipIdx.IsChain Follows := by
    refine List.isChain_iff_getElem.mpr fun i hi => ?_
    simp only [Follows, List.getElem_zipIdx]
    omega
  refine run_intercalate fun places hplaces cells => ?_
  obtain ⟨hslice, -⟩ := infix_of_mem_rows hplaces
  have hrow : places.IsChain Follows := List.IsChain.infix hall hslice
  refine run_row hrow fun place hplace => ?_
  exact hescape _ (List.fst_mem_of_mem_zipIdx (hslice.subset hplace))

/-- A text whose lines fit is broken at its line feeds only. -/
lemma rows_of_fits {text : List Char} (h : ∀ line ∈ text.splitOn '\n', console.Fits line) :
    rows console text = text.zipIdx.splitOnP (·.1 == '\n') := by
  have hrow : ∀ line ∈ text.zipIdx.splitOnP (·.1 == '\n'),
      ((console.rows (line.map (·.1))).map fun region =>
        (line.take region.2).drop region.1) = [line] := by
    intro line hline
    have hmem : line.map (·.1) ∈ text.splitOn '\n' := by
      have hmap := map_splitOnP text.zipIdx (·.1) (· == '\n')
      rw [List.zipIdx_map_fst] at hmap
      rw [List.splitOn_eq_splitOnP, ← hmap]
      exact List.mem_map_of_mem hline
    obtain ⟨hlength, hcolumns⟩ := h _ hmem
    rw [console.rows_of_fits _ hlength hcolumns]
    simp
  exact (List.flatMap_congr hrow).trans (List.flatMap_singleton' _)

/-- Such a text is shown character by character. -/
theorem run_render_of_fits (hescape : ∀ c ∈ overlay.text, c ≠ '\x1b')
    (h : ∀ line ∈ overlay.text.splitOn '\n', console.Fits line) :
    Terminal.run {} (render console overlay) =
      { cells := overlay.text.zipIdx.map fun place =>
          if place.1 == '\n' then lineFeed else cell console overlay place } := by
  rw [run_render console hescape, rows_of_fits h, intercalate_splitOnP]

/-- What a terminal shows of a formatted pattern without control codes but line feeds, whatever the
console takes the styles for and wherever it breaks lines. Nothing is left switched on, and every
cell is a line feed without codes or a character of the text under the codes of its own position:
those of the styles over it and of its own colour, or of the topmost style with an ink when that
colour is not drawn. When every line fits, the cells are those of the text, one by one. An attribute
that no style over a position switches off is on there if any of them switches it on. -/
theorem run_ofStyled (console : Console) {phrase : Phrase} {styled : StyledText}
    (h : phrase.format = .ok styled)
    (htext : ∀ c ∈ styled.text, Text.isControl c = true → c = '\n')
    (hspans : ∀ span ∈ styled.spans, 0 ≤ span.start ∧ span.start < span.stop) :
    ∃ cells : List Cell, Terminal.run {} (ofStyled styled console) = { cells } ∧
      (∀ cell ∈ cells, cell = ⟨'\n', []⟩ ∨ cell.character ≠ '\n' ∧
        ∃ (i : Nat) (color : Option Int), styled.text[i]? = some cell.character ∧
          styled.colorAt i = .ok color ∧
          cell.codes = (Look.tinted color (styled.looksAt console i)).codes) ∧
      ((∀ line ∈ styled.text.splitOn '\n', console.Fits line) →
        cells.map (·.character) = styled.text ∧
        ∀ (i : Nat) c, styled.text[i]? = some c → ∃ codes, cells[i]? = some ⟨c, codes⟩ ∧
          (c = '\n' → codes = []) ∧
          (c ≠ '\n' → ∃ color, styled.colorAt i = .ok color ∧
            codes = (Look.tinted color (styled.looksAt console i)).codes)) ∧
      ∀ (i : Nat) a color, (∀ look ∈ styled.looksAt console i, look.switch a ≠ some false) →
        ((Look.tinted color (styled.looksAt console i)).switch a = some true ↔
          ∃ look ∈ styled.looksAt console i, look.switch a = some true) := by
  have horder := Phrase.format_inOrder h
  have hkept := Text.dropControls_eq_self htext
  have hoverlay : (Overlay.ofStyled styled).text = styled.text := by
    rw [Overlay.ofStyled_eq horder, hkept]
  have hescape : ∀ c ∈ (Overlay.ofStyled styled).text, c ≠ '\x1b' := by
    rw [hoverlay]
    rintro c hc rfl
    exact absurd (htext _ hc (by decide)) (by decide)
  have hlook : ∀ i < styled.text.length, (Overlay.ofStyled styled).lookAt console i =
      .tinted (StyledText.searchColor i styled.ranges) (styled.looksAt console i) := fun i hi =>
    Overlay.lookAt_ofStyled_tinted console horder hspans (by rw [hkept]; exact Int.ofNat_lt.mpr hi)
  refine ⟨_, run_render console hescape, fun shown hshown => ?_, fun hfits => ?_,
    fun i a color => Look.switch_layered_eq_true_iff⟩
  · obtain rfl | ⟨⟨c, i⟩, hplace, hfeed, rfl⟩ := mem_cells_cases hshown
    · exact .inl rfl
    · have hget : styled.text[i]? = some c := hoverlay ▸ List.mem_zipIdx_iff_getElem?.mp hplace
      have hi : i < styled.text.length := (List.getElem?_eq_some_iff.mp hget).1
      exact .inr ⟨hfeed, i, _, hget, StyledText.colorAt_eq_ok hi, congrArg Look.codes (hlook i hi)⟩
  · have hcells := Terminal.mk.inj
      ((run_render console hescape).symm.trans (run_render_of_fits hescape (hoverlay ▸ hfits)))
    rw [hcells.2.2, hoverlay]
    refine ⟨map_character_cells .., fun i c hget => ?_⟩
    have hi : i < styled.text.length := (List.getElem?_eq_some_iff.mp hget).1
    rw [List.getElem?_map, List.getElem?_zipIdx, hget, Nat.zero_add, Option.map_some,
      Option.map_some]
    by_cases hc : c = '\n'
    · exact ⟨[], by rw [if_pos (beq_iff_eq.mpr hc), hc]; rfl, fun _ => rfl, absurd hc⟩
    · refine ⟨_, by rw [if_neg (by simpa using hc)]; rfl, fun h => absurd h hc, fun _ => ?_⟩
      exact ⟨_, StyledText.colorAt_eq_ok hi, congrArg Look.codes (hlook i hi)⟩

/-- Bold and red styles that overlap, one that is not known, one that takes the bold back, a line
feed and a colour that is not drawn around a bracket in green, all on a wide console. -/
theorem run_ofStyled_overlap :
    let styled : StyledText :=
      ⟨['a', 'b', '\n', 'c', 'd'],
        [⟨0, 3, 0x00FFFFFF⟩, ⟨3, 4, 0xFF00D75F⟩, ⟨4, 5, 0x00FFFFFF⟩],
        [⟨0, 5, "bold"⟩, ⟨1, 4, "underline red"⟩, ⟨1, 7, "shiny"⟩, ⟨4, 5, "not bold on #0000ff"⟩]⟩
    Phrase.format
        ⟨⟨['a', 'b', '\n', '\x7b', 'c', '\x7d', 'd'],
          [⟨0, 7, "bold"⟩, ⟨1, 5, "underline red"⟩, ⟨1, 9, "shiny"⟩,
            ⟨6, 7, "not bold on #0000ff"⟩]⟩,
          { inner := .green, outer := ⟨0x00FFFFFF, by decide, by decide⟩ }⟩ = .ok styled ∧
      (∀ c ∈ styled.text, Text.isControl c = true → c = '\n') ∧
      (∀ span ∈ styled.spans, 0 ≤ span.start ∧ span.start < span.stop) ∧
      (∀ line ∈ styled.text.splitOn '\n', Console.wide.Fits line) ∧
      ∃ cells : List Cell, Terminal.run {} (ofStyled styled .wide) = { cells } ∧
        cells[0]? = some ⟨'a', [1]⟩ ∧ cells[1]? = some ⟨'b', [1, 4, 31]⟩ ∧
        cells[2]? = some ⟨'\n', []⟩ ∧ cells[3]? = some ⟨'c', [1, 4, 38, 2, 0, 215, 95]⟩ ∧
        cells[4]? = some ⟨'d', [48, 2, 0, 0, 255]⟩ := by
  intro styled
  have hformat : Phrase.format
      ⟨⟨['a', 'b', '\n', '\x7b', 'c', '\x7d', 'd'],
        [⟨0, 7, "bold"⟩, ⟨1, 5, "underline red"⟩, ⟨1, 9, "shiny"⟩, ⟨6, 7, "not bold on #0000ff"⟩]⟩,
        { inner := .green, outer := ⟨0x00FFFFFF, by decide, by decide⟩ }⟩ = .ok styled := by
    cbv
  have htext : ∀ c ∈ styled.text, Text.isControl c = true → c = '\n' := by
    simp [styled, Text.isControl]
  have hfits : ∀ line ∈ styled.text.splitOn '\n', Console.wide.Fits line := by
    have hlines : styled.text.splitOn '\n' = [['a', 'b'], ['c', 'd']] := by decide
    simp [hlines, Console.Fits, Console.wide]
  obtain ⟨cells, hrun, -, hshown, -⟩ := run_ofStyled .wide hformat htext (by decide)
  obtain ⟨-, hcells⟩ := hshown hfits
  -- a character other than the line feed has the codes that its colour and its styles come to
  have hcell : ∀ {i : Nat} {c : Char}, styled.text[i]? = some c → c ≠ '\n' →
      cells[i]? = some ⟨c, (Look.tinted (StyledText.searchColor i styled.ranges)
        (styled.looksAt .wide i)).codes⟩ := by
    intro i c hget hne
    obtain ⟨codes, hcell, -, hcodes⟩ := hcells i c hget
    obtain ⟨color, hcolor, rfl⟩ := hcodes hne
    rw [StyledText.colorAt_eq_ok (List.getElem?_eq_some_iff.mp hget).1] at hcolor
    obtain rfl := Except.ok.inj hcolor
    exact hcell
  refine ⟨hformat, htext, by decide, hfits, cells, hrun, hcell (c := 'a') rfl (by decide),
    hcell (c := 'b') rfl (by decide), ?_, hcell (c := 'c') rfl (by decide),
    hcell (c := 'd') rfl (by decide)⟩
  obtain ⟨codes, hfeed, hcodes, -⟩ := hcells 2 '\n' rfl
  rw [hfeed, hcodes rfl]

end Ansi

end TintedText
