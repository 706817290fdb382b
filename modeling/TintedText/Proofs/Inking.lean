import TintedText.Console
import TintedText.Proofs.Tiling

/-!
# The colours of an overlay

The ranges of a styled text are in order and do not overlap, so that at most one of them is laid
over a position of the overlay; its ink comes on top of what the styles leave there
(`lookAt_ofStyled`). The overlay has lost the control codes of the text while the ranges are where
the text has them: a character stands at `place`, in front of which only kept characters are
counted, and is drawn in the colour of the text's character at that position (`ink_ofStyled`). This
is its own colour when no control code stands in front of it.
-/
namespace TintedText

open StyledText

namespace Text

/-- Where the character at a position stands when the control codes are dropped. -/
def place (text : List Char) (i : Nat) : Nat :=
  (dropControls (text.take i)).length

variable {text : List Char} {i : Nat}

lemma place_le (text : List Char) (i : Nat) : place text i ≤ i := by
  unfold place dropControls
  exact (List.length_filter_le ..).trans (List.length_take_le ..)

/-- A character keeps its position when no control code stands in front of it. -/
lemma place_eq_self_iff (hi : i ≤ text.length) :
    place text i = i ↔ ∀ c ∈ text.take i, isDroppedControl c = false := by
  have hlength : (text.take i).length = i := List.length_take_of_le hi
  unfold place dropControls
  constructor
  · intro h c hc
    have := List.length_filter_eq_length_iff.mp (h.trans hlength.symm) c hc
    simpa using this
  · intro h
    refine (List.length_filter_eq_length_iff.mpr fun c hc => ?_).trans hlength
    simp [h c hc]

/-- A character that is kept stands at its place. -/
theorem getElem?_place {c : Char} (hget : text[i]? = some c) (hkept : isDroppedControl c = false) :
    (dropControls text)[place text i]? = some c := by
  obtain ⟨hi, rfl⟩ := List.getElem?_eq_some_iff.mp hget
  have hsplit : text = text.take i ++ text[i] :: text.drop (i + 1) := by
    rw [← List.drop_eq_getElem_cons hi, List.take_append_drop]
  have hdrop : dropControls text =
      dropControls (text.take i) ++ text[i] :: dropControls (text.drop (i + 1)) := by
    conv_lhs => rw [hsplit]
    rw [dropControls_append]
    congr 1
    exact List.filter_cons_of_pos (by simp [hkept])
  rw [hdrop, place, List.getElem?_append_right le_rfl, Nat.sub_self]
  rfl

end Text

lemma StyledText.colorAt_eq_ok {styled : StyledText} {i : Nat} (hi : i < styled.text.length) :
    styled.colorAt i = .ok (searchColor i styled.ranges) :=
  if_pos ⟨Int.natCast_nonneg i, Int.ofNat_lt.mpr hi⟩

lemma Phrase.format_inOrder {phrase : Phrase} {styled : StyledText}
    (h : phrase.format = .ok styled) : InOrder 0 styled.text.length styled.ranges := by
  obtain ⟨-, segments, hread, rfl⟩ := format_eq_ok_iff.mp h
  have hcuts := tokenizeFrom_eq_ok_iff.mp hread
  have horder := ranges_inOrder phrase.config
    (sliced_of_covered hcuts.isDrawable hcuts.covered_eq) 0
  rwa [Int.zero_add] at horder

lemma Phrase.format_spans {config : Config} {text : List Char} {styled : StyledText}
    (h : Phrase.format ⟨.ofText text, config⟩ = .ok styled) : styled.spans = [] := by
  obtain ⟨-, segments, -, rfl⟩ := format_eq_ok_iff.mp h
  rfl

namespace Overlay

/-- What a colour range lays over a text of some length. -/
def laid (length : Int) (range : ColorRange) : List (Span Paint) :=
  match Color.ink? range.color with
  | none => []
  | some rgb =>
    if range.start < length then [⟨range.start, min length range.stop, .ink rgb⟩] else []

variable {overlay : Overlay} {range : ColorRange} {ranges : List ColorRange} {length position : Int}

lemma lay_eq (paint : Paint) {start stop : Int} (hstart : 0 ≤ start) (hstop : start < stop) :
    overlay.lay paint start stop =
      { overlay with spans := overlay.spans ++
          if start < overlay.text.length then [⟨start, min overlay.text.length stop, paint⟩]
          else [] } := by
  have hfrom : ¬ start < 0 := by omega
  have hto : ¬ stop < 0 := by omega
  have hempty : ¬ stop ≤ start := by omega
  simp only [lay, if_neg hfrom, if_neg hto, hempty, or_false, ge_iff_le]
  by_cases hlength : start < overlay.text.length
  · rw [if_neg (by omega), if_pos hlength]
  · rw [if_pos (by omega), if_neg hlength, List.append_nil]

lemma layRange_eq (hstart : 0 ≤ range.start) (hstop : range.start < range.stop) :
    overlay.layRange range =
      { overlay with spans := overlay.spans ++ laid overlay.text.length range } := by
  unfold layRange laid
  cases Color.ink? range.color with
  | none => rw [List.append_nil]
  | some rgb => exact lay_eq (.ink rgb) hstart hstop

lemma foldl_layRange (h : ∀ range ∈ ranges, 0 ≤ range.start ∧ range.start < range.stop) :
    ranges.foldl layRange overlay =
      { overlay with spans := overlay.spans ++ ranges.flatMap (laid overlay.text.length) } := by
  induction ranges generalizing overlay with
  | nil => simp
  | cons range ranges ih =>
    obtain ⟨hstart, hstop⟩ := h range (by simp)
    rw [List.foldl_cons, layRange_eq hstart hstop,
      ih fun other hother => h other (by simp [hother])]
    simp only [List.flatMap_cons, List.append_assoc]

lemma styles_laid (hposition : position < length) :
    ((laid length range).filter (·.covers position)).map (·.style) =
      if range.contains position = true then ((Color.ink? range.color).map Paint.ink).toList
      else [] := by
  unfold laid
  cases Color.ink? range.color with
  | none => simp
  | some rgb =>
    dsimp only [Option.map_some, Option.toList_some]
    by_cases hcontains : range.contains position = true
    · obtain ⟨hstart, hstop⟩ := ColorRange.contains_eq_true_iff.mp hcontains
      have hcovers : (Span.mk range.start (min length range.stop) (Paint.ink rgb)).covers
          position = true := by
        simp only [Span.covers, Bool.and_eq_true, decide_eq_true_eq]
        omega
      rw [if_pos (by omega), if_pos hcontains]
      simp [hcovers]
    · have hcovers : (Span.mk range.start (min length range.stop) (Paint.ink rgb)).covers
          position = false := by
        rw [ColorRange.contains_eq_true_iff] at hcontains
        simp only [Span.covers, Bool.and_eq_false_iff, decide_eq_false_iff_not]
        omega
      rw [if_neg hcontains]
      split_ifs
      · simp [hcovers]
      · rfl

/-- Over a position of the text ranges that do not overlap lay the ink of the colour that the search
finds, and nothing else. -/
theorem styles_flatMap_laid (hposition : position < length)
    (hnonempty : ∀ range ∈ ranges, range.start < range.stop)
    (hdisjoint : ranges.Pairwise fun range next => range.stop ≤ next.start) :
    ((ranges.flatMap (laid length)).filter (·.covers position)).map (·.style) =
      (((searchColor position ranges).bind Color.ink?).map Paint.ink).toList := by
  induction ranges with
  | nil => rfl
  | cons range ranges ih =>
    obtain ⟨hbehind, hdisjoint⟩ := List.pairwise_cons.mp hdisjoint
    have hstop := hnonempty range (by simp)
    have htail := ih (fun other hother => hnonempty other (by simp [hother])) hdisjoint
    rw [List.flatMap_cons, List.filter_append, List.map_append, styles_laid hposition, htail,
      searchColor]
    -- no range is found behind one that holds the position or starts behind it
    have hnone : position < range.stop → searchColor position ranges = none := by
      intro hlt
      refine searchColor_eq_none fun other hother => ?_
      have := hbehind other hother
      omega
    by_cases hcontains : range.contains position = true
    · rw [if_pos hcontains, if_pos hcontains,
        hnone (ColorRange.contains_eq_true_iff.mp hcontains).2]
      simp
    · rw [if_neg hcontains, if_neg hcontains, List.nil_append]
      by_cases hlt : position < range.start
      · rw [if_pos hlt, hnone (by omega)]
      · rw [if_neg hlt]

@[simp] lemma lay_text (paint : Paint) (start stop : Int) :
    (overlay.lay paint start stop).text = overlay.text := by
  simp only [lay]
  split_ifs <;> rfl

@[simp] lemma laySpan_text (span : Span String) : (overlay.laySpan span).text = overlay.text := by
  unfold laySpan
  split_ifs
  · rfl
  · apply lay_text

lemma foldl_laySpan_text (spans : List (Span String)) :
    (spans.foldl laySpan overlay).text = overlay.text := by
  induction spans generalizing overlay with
  | nil => rfl
  | cons span spans ih => rw [List.foldl_cons, ih, laySpan_text]

variable {styled : StyledText} {last : Int}

/-- The overlay of a styled text: the text without control codes, and the ranges on top of the
styles. -/
theorem ofStyled_eq (h : InOrder 0 last styled.ranges) :
    ofStyled styled =
      ⟨Text.dropControls styled.text,
        (styled.spans.foldl laySpan (ofText styled.text)).spans ++
          styled.ranges.flatMap (laid (Text.dropControls styled.text).length)⟩ := by
  have hbounds : ∀ range ∈ styled.ranges, 0 ≤ range.start ∧ range.start < range.stop :=
    fun range hrange => ⟨(h.inside range hrange).1, h.nonempty range hrange⟩
  unfold ofStyled
  rw [foldl_layRange hbounds, foldl_laySpan_text]
  rfl

/-- At a position of the text the ink of its colour comes on top of the styles. -/
theorem lookAt_ofStyled (console : Console) (h : InOrder 0 last styled.ranges)
    (hposition : position < (Text.dropControls styled.text).length) :
    (ofStyled styled).lookAt console position =
      ((searchColor position styled.ranges).bind Color.ink?).elim
        ((styled.spans.foldl laySpan (ofText styled.text)).lookAt console position)
        fun rgb => ((Paint.ink rgb).look console).above
          ((styled.spans.foldl laySpan (ofText styled.text)).lookAt console position) := by
  -- only the styles of the spans matter
  have hlook : ∀ (spans : List (Span Paint)) (look : Look),
      spans.foldl (fun look span => (span.style.look console).above look) look =
        (spans.map (·.style)).foldl (fun look paint => (paint.look console).above look) look :=
    fun spans look => by rw [List.foldl_map]
  rw [ofStyled_eq h]
  unfold lookAt
  rw [List.filter_append, List.foldl_append, hlook (List.filter _ (List.flatMap _ _)),
    styles_flatMap_laid hposition h.nonempty h.disjoint]
  cases (searchColor position styled.ranges).bind Color.ink? with
  | none => rfl
  | some rgb => rfl

/-- A character of a formatted pattern that came without styles is drawn in the colour of the text's
character at its place; this is its own position when no control code stands in front of it. -/
theorem ink_ofStyled (console : Console) {text : List Char} {config : Config} {styled : StyledText}
    (h : Phrase.format ⟨.ofText text, config⟩ = .ok styled) {i : Nat} {c : Char}
    (hget : styled.text[i]? = some c) (hkept : Text.isDroppedControl c = false) :
    (ofStyled styled).text[Text.place styled.text i]? = some c ∧
    (∃ color, styled.colorAt (Text.place styled.text i) = .ok color ∧
      ((ofStyled styled).lookAt console (Text.place styled.text i)).ink =
        (color.bind Color.ink?).map .rgb) ∧
    (Text.place styled.text i = i ↔
      ∀ d ∈ styled.text.take i, Text.isDroppedControl d = false) := by
  have horder := Phrase.format_inOrder h
  have hi : i < styled.text.length := (List.getElem?_eq_some_iff.mp hget).1
  have hplace := Text.getElem?_place hget hkept
  refine ⟨?_, ⟨searchColor (Text.place styled.text i) styled.ranges, ?_, ?_⟩, ?_⟩
  · rw [ofStyled_eq horder, hplace]
  · exact colorAt_eq_ok ((Text.place_le styled.text i).trans_lt hi)
  · have hlt : Text.place styled.text i < (Text.dropControls styled.text).length :=
      (List.getElem?_eq_some_iff.mp hplace).1
    rw [lookAt_ofStyled console horder (Int.ofNat_lt.mpr hlt), Phrase.format_spans h]
    cases (searchColor (Text.place styled.text i) styled.ranges).bind Color.ink? with
    | none => rfl
    | some rgb => rfl
  · exact Text.place_eq_self_iff hi.le

/-- The character of a bracket in front of a carriage return. -/
theorem ink_ofStyled_bracket :
    ∃ styled, Phrase.format ⟨.ofText ['a', '\x7b', 'b', '\x7d', '\r'], {}⟩ = .ok styled ∧
      styled.text[1]? = some 'b' ∧ Text.isDroppedControl 'b' = false ∧
      styled.colorAt 1 = .ok (some 0xFFE6454A) ∧
      ((ofStyled styled).lookAt .wide 1).ink = some (.rgb (.ofColor 0xFFE6454A)) := by
  have h : Phrase.format ⟨.ofText ['a', '\x7b', 'b', '\x7d', '\r'], {}⟩ =
      .ok ⟨['a', 'b', '\r'], [⟨0, 1, 0xFF666666⟩, ⟨1, 2, 0xFFE6454A⟩, ⟨2, 3, 0xFF666666⟩], []⟩ := by
    cbv
  have hkept : Text.isDroppedControl 'b' = false := by decide
  obtain ⟨-, ⟨color, hcolor, hink⟩, hself⟩ := ink_ofStyled .wide h (i := 1) rfl hkept
  have hfront : ∀ d ∈ ['a'], Text.isDroppedControl d = false :=
    List.forall_mem_singleton.mpr (by decide)
  rw [hself.mpr hfront] at hcolor hink
  obtain rfl : some 0xFFE6454A = color := Except.ok.inj hcolor
  exact ⟨_, h, rfl, hkept, hcolor, hink⟩

/-- Behind a carriage return the character of a bracket has the ink of the text around it. -/
theorem ink_ofStyled_return :
    ∃ styled, Phrase.format ⟨.ofText ['\r', 'a', '\x7b', 'c', '\x7d'], {}⟩ = .ok styled ∧
      styled.text[2]? = some 'c' ∧ (ofStyled styled).text = ['a', 'c'] ∧
      styled.colorAt 2 = .ok (some 0xFFE6454A) ∧
      ∀ console, ((ofStyled styled).lookAt console 1).ink = some (.rgb (.ofColor 0xFF666666)) := by
  refine ⟨⟨['\r', 'a', 'c'], [⟨0, 2, 0xFF666666⟩, ⟨2, 3, 0xFFE6454A⟩], []⟩, ?_, ?_⟩
  · cbv
  · exact ⟨by decide, by decide, by decide, fun console => rfl⟩

end Overlay
end TintedText
