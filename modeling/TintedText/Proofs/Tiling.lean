import TintedText.Proofs.Coloring
import TintedText.Proofs.Outcome

/-!
# The colour ranges tile the output

The outputs of the segments lie side by side and leave no gap. Each segment but a literal mark has a
range, which is exactly its part of the output; so the ranges are in order and do not overlap
(`ranges_inOrder`), the positions between them are those of the literal marks (`uncovered_iff`), and
the text can be put together again from the slices under the ranges and the marks
(`interleave_ranges`).
-/
namespace TintedText

/-- Ranges that hold something, lie in `[first, last)`, and stand one behind the other. -/
structure InOrder (first last : Int) (ranges : List ColorRange) : Prop where
  nonempty : ∀ range ∈ ranges, range.start < range.stop
  inside : ∀ range ∈ ranges, first ≤ range.start ∧ range.stop ≤ last
  ordered : ranges.Pairwise fun range next => range.start < next.start
  disjoint : ranges.Pairwise fun range next => range.stop ≤ next.start

namespace InOrder

variable {first middle last : Int} {front back : List ColorRange}

lemma nil : InOrder first last [] :=
  ⟨by simp, by simp, .nil, .nil⟩

lemma singleton {range : ColorRange} (hne : range.start < range.stop)
    (hfirst : first ≤ range.start) (hlast : range.stop ≤ last) : InOrder first last [range] :=
  ⟨by simpa using hne, by simpa using ⟨hfirst, hlast⟩, List.pairwise_singleton ..,
    List.pairwise_singleton ..⟩

lemma append (hfront : InOrder first middle front) (hback : InOrder middle last back)
    (hfirst : first ≤ middle) (hlast : middle ≤ last) : InOrder first last (front ++ back) where
  nonempty range h := (List.mem_append.mp h).elim (hfront.nonempty range) (hback.nonempty range)
  inside range h := by
    obtain h | h := List.mem_append.mp h
    · have := hfront.inside range h
      omega
    · have := hback.inside range h
      omega
  ordered := by
    refine List.pairwise_append.mpr ⟨hfront.ordered, hback.ordered, fun range h next hnext => ?_⟩
    have := hfront.nonempty range h
    have := (hfront.inside range h).2
    have := (hback.inside next hnext).1
    omega
  disjoint := by
    refine List.pairwise_append.mpr ⟨hfront.disjoint, hback.disjoint, fun range h next hnext => ?_⟩
    exact (hfront.inside range h).2.trans (hback.inside next hnext).1

end InOrder

namespace Segment

def isLiteral : Segment → Bool
  | literal _ => true
  | plain _ | bracketed _ => false

def isBracketed : Segment → Bool
  | bracketed _ => true
  | plain _ | literal _ => false

variable {config : Config} {segment : Segment}

lemma isLiteral_iff : segment.isLiteral = true ↔ ∃ mark, segment = literal mark := by
  cases segment <;> simp [isLiteral]

/-- Literal marks are the segments without a colour. -/
lemma color?_eq_none_iff : segment.color? config = none ↔ segment.isLiteral = true := by
  cases segment <;> simp [color?, isLiteral]

lemma isLiteral_eq_false {color : Int} (h : segment.color? config = some color) :
    segment.isLiteral = false := by
  cases segment with
  | literal mark => cases h
  | plain | bracketed => rfl

/-- A segment whose output starts at the cursor has its range there. -/
lemma range?_of_color? {color : Int} (h : segment.color? config = some color) (cursor : Int) :
    segment.range? config cursor = some ⟨cursor, cursor + segment.outputLength, color⟩ := by
  rw [range?, h]
  rfl

lemma range?_of_isLiteral (h : segment.isLiteral = true) (cursor : Int) :
    segment.range? config cursor = none := by
  rw [range?, color?_eq_none_iff.mpr h]
  rfl

lemma uncovered_iff {cursor position : Int} (hstart : cursor ≤ position)
    (hstop : position < cursor + segment.outputLength) :
    (∀ range ∈ (segment.range? config cursor).toList, range.contains position = false) ↔
      ∃ mark, (position, literal mark) = (cursor, segment) := by
  cases hcolor : segment.color? config with
  | none =>
    have hliteral := color?_eq_none_iff.mp hcolor
    rw [range?_of_isLiteral hliteral]
    obtain ⟨mark, rfl⟩ := isLiteral_iff.mp hliteral
    simp only [outputLength] at hstop
    obtain rfl : position = cursor := by omega
    simp
  | some color =>
    have hcontains : (ColorRange.mk cursor (cursor + segment.outputLength) color).contains
        position = true := ColorRange.contains_eq_true_iff.mpr ⟨hstart, hstop⟩
    have hne : ∀ mark, (position, literal mark) ≠ (cursor, segment) := by
      intro mark heq
      rw [← (Prod.mk.inj heq).2] at hcolor
      cases hcolor
    rw [range?_of_color? hcolor]
    simp [hcontains, hne]

lemma uncovered_behind (segment : Segment) (config : Config) {cursor position : Int}
    (h : cursor + segment.outputLength ≤ position) :
    ∀ range ∈ (segment.range? config cursor).toList, range.contains position = false := by
  intro range hrange
  obtain ⟨color, -, rfl⟩ := Option.map_eq_some_iff.mp (Option.mem_toList.mp hrange)
  exact ColorRange.contains_eq_false_of_le h

end Segment

/-- The range is the part of the output that the placed segment leaves, in the segment's colour. -/
structure DrawnAs (config : Config) (placed : Int × Segment) (range : ColorRange) : Prop where
  start_eq : range.start = placed.1
  stop_eq : range.stop = placed.1 + placed.2.outputLength
  color_eq : placed.2.color? config = some range.color

/-- The text of a run of segments, from the slices under their ranges and the literal marks. -/
def interleave : List Segment → List (List Char × Int) → List Char
  | [], slices => slices.flatMap Prod.fst
  | .literal mark :: segments, slices => mark ++ interleave segments slices
  | _ :: segments, slices => slices.head?.elim [] Prod.fst ++ interleave segments slices.tail

lemma interleave_slice {segment : Segment} (h : segment.isLiteral = false)
    (segments : List Segment) (slice : List Char × Int) (slices : List (List Char × Int)) :
    interleave (segment :: segments) (slice :: slices) =
      slice.1 ++ interleave segments slices := by
  cases segment with
  | literal mark => cases h
  | plain | bracketed => rfl

section layout

variable {config : Config} {segments : List Segment} {source : List Char}

/-- Every segment but a literal mark has a range, in the order of the segments. -/
theorem ranges_drawnAs (config : Config) (cursor : Int) (segments : List Segment) :
    List.Forall₂ (DrawnAs config) ((layoutFrom cursor segments).filter (!·.2.isLiteral))
      (ranges config cursor segments) := by
  induction segments generalizing cursor with
  | nil => exact .nil
  | cons segment rest ih =>
    have hrest := ih (cursor + segment.outputLength)
    rw [ranges_cons, layoutFrom, List.filter_cons]
    cases hcolor : segment.color? config with
    | none =>
      have hliteral := Segment.color?_eq_none_iff.mp hcolor
      rw [Segment.range?_of_isLiteral hliteral]
      simpa [hliteral] using hrest
    | some color =>
      have hliteral := Segment.isLiteral_eq_false hcolor
      rw [Segment.range?_of_color? hcolor]
      simpa [hliteral] using ⟨⟨rfl, rfl, hcolor⟩, hrest⟩

/-- The ranges of the segments of a text lie in order in its output. -/
theorem ranges_inOrder (config : Config) (h : Sliced segments source) (cursor : Int) :
    InOrder cursor (cursor + (outputs source segments).length)
      (ranges config cursor segments) := by
  induction h generalizing cursor with
  | nil => exact .nil
  | @cons segment rest slice tail draw hslice _ ih =>
    have hlength := Segment.length_output draw hslice
    have hpos := Segment.outputLength_pos draw
    have htail := ih (cursor + segment.outputLength)
    have hhead : InOrder cursor (cursor + segment.outputLength)
        (segment.range? config cursor).toList := by
      cases hcolor : segment.color? config with
      | none =>
        rw [Segment.range?_of_isLiteral (Segment.color?_eq_none_iff.mp hcolor)]
        exact .nil
      | some color =>
        rw [Segment.range?_of_color? hcolor]
        exact .singleton (by simpa using hpos) le_rfl le_rfl
    rw [ranges_cons, outputs_cons rest hslice, List.length_append, Int.natCast_add, hlength,
      ← Int.add_assoc]
    exact hhead.append htail (by omega) (by omega)

/-- A position of the output is in no range exactly when a literal mark stands there. -/
theorem uncovered_iff (config : Config) (h : Sliced segments source) {cursor position : Int}
    (hstart : cursor ≤ position) (hstop : position < cursor + (outputs source segments).length) :
    (∀ range ∈ ranges config cursor segments, range.contains position = false) ↔
      ∃ mark, (position, Segment.literal mark) ∈ layoutFrom cursor segments := by
  induction h generalizing cursor with
  | nil =>
    simp only [outputs, List.length_nil] at hstop
    omega
  | @cons segment rest slice tail draw hslice hrest ih =>
    have hlength := Segment.length_output draw hslice
    have hpos := Segment.outputLength_pos draw
    rw [ranges_cons, layoutFrom, List.forall_mem_append]
    by_cases hhere : position < cursor + segment.outputLength
    · -- all that comes later starts behind the position
      have hranges : ∀ range ∈ ranges config (cursor + segment.outputLength) rest,
          range.contains position = false := by
        intro range hrange
        have := le_start_of_mem_ranges hrest.isDrawable hrange
        exact ColorRange.contains_eq_false_of_lt (by omega)
      have hplaced : ∀ mark, (position, Segment.literal mark) ∉
          layoutFrom (cursor + segment.outputLength) rest := by
        intro mark hmem
        have := le_of_mem_layoutFrom hrest.isDrawable hmem
        omega
      rw [and_iff_left hranges, Segment.uncovered_iff hstart hhere]
      simp only [List.mem_cons, hplaced, or_false]
    · have hrange := segment.uncovered_behind config (Int.not_lt.mp hhere)
      have hne : ∀ mark, (position, Segment.literal mark) ≠ (cursor, segment) := by
        intro mark heq
        have := (Prod.mk.inj heq).1
        omega
      rw [outputs_cons rest hslice, List.length_append, Int.natCast_add, hlength,
        ← Int.add_assoc] at hstop
      rw [and_iff_right hrange, ih (by omega) hstop]
      simp only [List.mem_cons, hne, false_or]

theorem getElem?_of_literal (h : Sliced segments source) {cursor : Int} {text done : List Char}
    (htext : text = done ++ outputs source segments) (hcursor : cursor = done.length) {i : Nat}
    {c : Char} (hmem : ((i : Int), Segment.literal [c]) ∈ layoutFrom cursor segments) :
    text[i]? = some c := by
  induction h generalizing cursor done with
  | nil => cases hmem
  | @cons segment rest slice tail draw hslice _ ih =>
    have hlength := Segment.length_output draw hslice
    rw [outputs_cons rest hslice] at htext
    rw [layoutFrom, List.mem_cons] at hmem
    obtain hmem | hmem := hmem
    · obtain ⟨hi, rfl⟩ := Prod.mk.inj hmem
      obtain rfl : i = done.length := by omega
      rw [htext, Segment.output, List.getElem?_append_right le_rfl, Nat.sub_self]
      rfl
    · have hcursor' : cursor + segment.outputLength = (done ++ segment.output slice).length := by
        rw [List.length_append, hcursor, Int.natCast_add, hlength]
      exact ih (by rw [htext, List.append_assoc]) hcursor' hmem

lemma slice_middle {styled : StyledText} {done part rest : List Char} {start stop : Int}
    (htext : styled.text = done ++ part ++ rest) (hstart : start = done.length)
    (hstop : stop = done.length + part.length) (color : Int) :
    styled.slice ⟨start, stop, color⟩ = part := by
  have hfrom : start.toNat = done.length := by omega
  have hto : stop.toNat = (done ++ part).length := by
    rw [List.length_append]
    omega
  simp only [StyledText.slice, htext, hfrom, hto, List.take_left, List.drop_left]

/-- The slices under the ranges and the literal marks, in the order of the segments, are the
text. -/
theorem interleave_ranges (config : Config) (h : Sliced segments source) {styled : StyledText}
    {cursor : Int} {done : List Char} (htext : styled.text = done ++ outputs source segments)
    (hcursor : cursor = done.length) :
    interleave segments ((ranges config cursor segments).map fun range =>
      (styled.slice range, range.color)) = outputs source segments := by
  induction h generalizing cursor done with
  | nil => rfl
  | @cons segment rest slice tail draw hslice _ ih =>
    have hlength := Segment.length_output draw hslice
    rw [outputs_cons rest hslice, ← List.append_assoc] at htext
    have hcursor' : cursor + segment.outputLength = (done ++ segment.output slice).length := by
      rw [List.length_append, hcursor, Int.natCast_add, hlength]
    have htail := ih htext hcursor'
    rw [ranges_cons, outputs_cons rest hslice, List.map_append]
    cases hcolor : segment.color? config with
    | none =>
      have hliteral := Segment.color?_eq_none_iff.mp hcolor
      rw [Segment.range?_of_isLiteral hliteral]
      obtain ⟨mark, rfl⟩ := Segment.isLiteral_iff.mp hliteral
      exact congrArg (mark ++ ·) htail
    | some color =>
      have hstop : cursor + segment.outputLength = done.length + (segment.output slice).length := by
        rw [hcursor, hlength]
      have hpart := slice_middle htext hcursor hstop color
      rw [Segment.range?_of_color? hcolor, Option.toList_some, List.map_singleton,
        List.singleton_append, interleave_slice (Segment.isLiteral_eq_false hcolor), hpart, htail]

lemma length_dropped (start : Int) (segments : List Segment) :
    (dropped start segments).length =
      2 * segments.countP Segment.isBracketed + segments.countP Segment.isLiteral := by
  induction segments generalizing start with
  | nil => rfl
  | cons segment rest ih =>
    rw [dropped, List.length_append, ih, List.countP_cons, List.countP_cons]
    cases segment with
    | plain length => simp [Segment.dropped, Segment.isBracketed, Segment.isLiteral]
    | literal mark =>
      simp [Segment.dropped, Segment.isBracketed, Segment.isLiteral]
      omega
    | bracketed content =>
      simp [Segment.dropped, Segment.isBracketed, Segment.isLiteral]
      omega

/-- The literal marks that were cut from a text are opening marks. -/
lemma Cuts.eq_left {marks : Delimiters} {rest used mark : List Char}
    (h : Cuts marks rest used segments) (hmem : Segment.literal mark ∈ segments) :
    mark = marks.left := by
  induction h with
  | done => cases hmem
  | plain _ _ _ _ ih | bracketed _ _ _ _ _ _ ih => exact ih (by simpa using hmem)
  | literal _ _ _ ih =>
    obtain heq | hmem := List.mem_cons.mp hmem
    · exact Segment.literal.inj heq
    · exact ih hmem

lemma mem_of_mem_layoutFrom {cursor : Int} {placed : Int × Segment}
    (h : placed ∈ layoutFrom cursor segments) : placed.2 ∈ segments := by
  induction segments generalizing cursor with
  | nil => cases h
  | cons segment rest ih =>
    rw [layoutFrom, List.mem_cons] at h
    obtain rfl | h := h
    · exact List.mem_cons_self
    · exact List.mem_cons_of_mem segment (ih h)

end layout

/-- The ranges of a formatted pattern are in order and inside of the text. Every plain run and every
bracket has one in its colour, and the positions in between are those of the escaped marks; with
these the slices under the ranges are the text, which is shorter than the pattern by two characters
for each bracket and by one for each escape. -/
theorem format_ranges {phrase : Phrase} {styled : StyledText} (h : phrase.format = .ok styled) :
    ∃ segments, tokenize phrase.config.delimiters phrase.pattern.text = .ok segments ∧
      InOrder 0 styled.length styled.ranges ∧
      List.Forall₂ (DrawnAs phrase.config) ((layout segments).filter (!·.2.isLiteral))
        styled.ranges ∧
      (∀ i < styled.length, (∀ range ∈ styled.ranges, range.contains i = false) ↔
        ((i : Int), Segment.literal [phrase.config.separator.left]) ∈ layout segments) ∧
      (∀ i : Nat, ((i : Int), Segment.literal [phrase.config.separator.left]) ∈ layout segments →
        styled.text[i]? = some phrase.config.separator.left) ∧
      interleave segments styled.slices = styled.text ∧
      (styled.length : Int) = phrase.pattern.text.length -
        2 * segments.countP Segment.isBracketed - segments.countP Segment.isLiteral := by
  obtain ⟨-, segments, hread, rfl⟩ := Phrase.format_eq_ok_iff.mp h
  have hcuts := tokenizeFrom_eq_ok_iff.mp hread
  have hsliced := sliced_of_covered hcuts.isDrawable hcuts.covered_eq
  have htext : (phrase.rendered segments).text = [] ++ outputs phrase.pattern.text segments := rfl
  have horder := ranges_inOrder phrase.config hsliced 0
  rw [Int.zero_add] at horder
  refine ⟨segments, hread, horder, ranges_drawnAs phrase.config 0 segments, fun i hi => ?_,
    fun i hmem => getElem?_of_literal hsliced htext rfl hmem,
    interleave_ranges phrase.config hsliced htext rfl, ?_⟩
  · have hstop : (i : Int) < 0 + (outputs phrase.pattern.text segments).length := by
      rw [Int.zero_add]
      exact Int.ofNat_lt.mpr hi
    refine (uncovered_iff phrase.config hsliced (Int.natCast_nonneg i) hstop).trans ⟨?_, ?_⟩
    · rintro ⟨mark, hmem⟩
      obtain rfl := hcuts.eq_left (mem_of_mem_layoutFrom hmem)
      exact hmem
    · exact fun hmem => ⟨_, hmem⟩
  · have hlength := length_outputs hcuts.isDrawable hcuts.covered_eq 0
    rw [length_dropped] at hlength
    have hstyled : (phrase.rendered segments).length =
        (outputs phrase.pattern.text segments).length := rfl
    rw [hstyled]
    omega

/-- Two plain runs, an escape between them, and a bracket. -/
theorem format_ranges_escape :
    ∃ styled, Phrase.format ⟨.ofText ['x', '<', '<', 'y', '>', '>', '<', 'q', '>'],
        { separator := .pair '<' '>' }⟩ = .ok styled ∧
      InOrder 0 styled.length styled.ranges ∧
      (∃ segments, interleave segments styled.slices = styled.text ∧
        (1, Segment.literal ['<']) ∈ layout segments ∧
        (styled.length : Int) = 9 - 2 * segments.countP Segment.isBracketed -
          segments.countP Segment.isLiteral) := by
  have h : Phrase.format ⟨.ofText ['x', '<', '<', 'y', '>', '>', '<', 'q', '>'],
      { separator := .pair '<' '>' }⟩ =
        .ok ⟨['x', '<', 'y', '>', '>', 'q'],
          [⟨0, 1, 0xFF666666⟩, ⟨2, 5, 0xFF666666⟩, ⟨5, 6, 0xFFE6454A⟩], []⟩ := by
    cbv
  obtain ⟨segments, -, horder, -, hgaps, -, hjoin, hlength⟩ := format_ranges h
  exact ⟨_, h, horder, segments, hjoin, (hgaps 1 (by decide)).mp (by decide), hlength⟩

end TintedText
