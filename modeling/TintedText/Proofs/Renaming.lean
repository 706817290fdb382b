import TintedText.Proofs.Outcome

/-!
# Only the marks matter

Characters are told apart only by whether they are a mark. A map on characters that keeps the marks
and the rest apart can be applied to a pattern and its marks before they are checked, read and
rendered, or to the outcome afterwards: the balance, the lengths of the segments, the places of the
errors, the colour ranges and the spans are the same (`rename_outcome`). The check, the reader and
the rendering each commute with the map, in their errors as well as in their results
(`isBalanced_rename`, `tokenize_rename`, `render_rename`).
-/
namespace TintedText

variable {s : Char → Char} {marks : Delimiters}

/-- The map tells the two marks and the characters of the text apart as they are. -/
structure KeepsApart (s : Char → Char) (l r : Char) (text : List Char) : Prop where
  left_iff : ∀ c ∈ text, s c = s l ↔ c = l
  right_iff : ∀ c ∈ text, s c = s r ↔ c = r
  marks_iff : s l = s r ↔ l = r

namespace Delimiters

/-- The marks under a map on characters. -/
def rename (s : Char → Char) (marks : Delimiters) : Delimiters :=
  ⟨marks.left.map s, marks.right.map s⟩

/-- A character of the text is a mark exactly when the renamed one is the renamed mark. -/
def Follow (s : Char → Char) (marks : Delimiters) (text : List Char) : Prop :=
  ∀ c ∈ text, (marks.rename s).opens (s c) = marks.opens c ∧
    (marks.rename s).closes (s c) = marks.closes c

namespace Follow

variable {first second text : List Char}

lemma append_left (h : Follow s marks (first ++ second)) : Follow s marks first :=
  fun c hc => h c (List.mem_append_left second hc)

lemma append_right (h : Follow s marks (first ++ second)) : Follow s marks second :=
  fun c hc => h c (List.mem_append_right first hc)

lemma head {c : Char} (h : Follow s marks (c :: text)) :
    (marks.rename s).opens (s c) = marks.opens c ∧
      (marks.rename s).closes (s c) = marks.closes c :=
  h c (by simp)

lemma tail {c : Char} (h : Follow s marks (c :: text)) : Follow s marks text :=
  fun d hd => h d (by simp [hd])

lemma forall_opens {open? : Bool} (h : Follow s marks text)
    (hall : ∀ c ∈ text, marks.opens c = open?) :
    ∀ c ∈ text.map s, (marks.rename s).opens c = open? := by
  intro c hc
  obtain ⟨d, hd, rfl⟩ := List.mem_map.mp hc
  rw [(h d hd).1, hall d hd]

lemma forall_closes (h : Follow s marks text) (hall : ∀ c ∈ text, marks.closes c = false) :
    ∀ c ∈ text.map s, (marks.rename s).closes c = false := by
  intro c hc
  obtain ⟨d, hd, rfl⟩ := List.mem_map.mp hc
  rw [(h d hd).2, hall d hd]

lemma head_opens {open? : Bool} (h : Follow s marks text)
    (hall : ∀ c ∈ text.head?, marks.opens c = open?) :
    ∀ c ∈ (text.map s).head?, (marks.rename s).opens c = open? := by
  cases text with
  | nil => simp
  | cons d text =>
    have hd := hall d rfl
    simpa [h.head.1] using hd

end Follow

/-- Single marks are followed by a map that keeps them apart. -/
lemma follow_of_keepsApart {l r : Char} {text : List Char} (h : KeepsApart s l r text) :
    Follow s (ofChars l r) text := by
  intro c hc
  have hleft := h.left_iff c hc
  have hright := h.right_iff c hc
  have hrename : (ofChars l r).rename s = ofChars (s l) (s r) := rfl
  rw [hrename, opens_ofChars, opens_ofChars, closes_ofChars, closes_ofChars]
  constructor
  · rw [Bool.eq_iff_iff, beq_iff_eq, beq_iff_eq, eq_comm, hleft, eq_comm]
  · rw [Bool.eq_iff_iff, beq_iff_eq, beq_iff_eq, eq_comm, hright, eq_comm]

end Delimiters

open Delimiters

namespace Segment

/-- A segment of the same kind and length, with its characters renamed. -/
def rename (s : Char → Char) : Segment → Segment
  | plain length => plain length
  | literal mark => literal (mark.map s)
  | bracketed content => bracketed (content.map s)

@[simp] lemma sourceLength_rename (segment : Segment) :
    (segment.rename s).sourceLength = segment.sourceLength := by
  cases segment <;> simp [rename, sourceLength]

@[simp] lemma outputLength_rename (segment : Segment) :
    (segment.rename s).outputLength = segment.outputLength := by
  cases segment <;> simp [rename, outputLength]

end Segment

namespace PatternError

/-- An error of the same kind and place, with the characters that it shows renamed. -/
def rename (s : Char → Char) : PatternError → PatternError
  | unbalanced pattern => unbalanced (pattern.map s)
  | unterminated right opened => unterminated (right.map s) opened
  | emptyBracket left right opened => emptyBracket (left.map s) (right.map s) opened

end PatternError

section check

open Balance

lemma nests_rename {pending : Nat} {text : List Char} (h : Follow s marks text) :
    nests (marks.rename s) pending (text.map s) = nests marks pending text := by
  induction text generalizing pending with
  | nil => rfl
  | cons c text ih =>
    rw [List.map_cons, nests.eq_def, nests.eq_def marks]
    simp only [h.head.1, h.head.2]
    cases pending with
    | zero => simp only [ih h.tail]
    | succ outer => simp only [ih h.tail]

lemma pairs_rename {inside : Bool} {text : List Char} (h : Follow s marks text) :
    pairs (marks.rename s) inside (text.map s) = pairs marks inside text := by
  fun_induction pairs marks inside text with
  | case1 inside => rfl
  | case2 inside c rest hopens ih =>
    rw [List.map_cons, pairs.eq_def]
    simpa [h.head.1, hopens] using ih h.tail
  | case3 c rest hopens ih =>
    rw [List.map_cons, pairs.eq_def]
    simpa [h.head.1, hopens] using ih h.tail
  | case4 inside c hopens houtside =>
    rw [List.map_cons, pairs.eq_def]
    simp [h.head.1, hopens, houtside]
  | case5 inside c hopens houtside next rest hagain ih =>
    rw [List.map_cons, List.map_cons, pairs.eq_def]
    simpa [h.head.1, h.tail.head.1, hopens, houtside, hagain] using ih h.tail.tail
  | case6 inside c hopens houtside next rest hsingle ih =>
    rw [List.map_cons, List.map_cons, pairs.eq_def]
    simpa [h.head.1, h.tail.head.1, hopens, houtside, hsingle] using ih h.tail

/-- Marks that are told apart are both equal or both different. -/
theorem isBalanced_rename {text : List Char} (h : Follow s marks text)
    (hmarks : (marks.rename s).left = (marks.rename s).right ↔ marks.left = marks.right) :
    isBalanced (marks.rename s) (text.map s) = isBalanced marks text := by
  unfold isBalanced
  simp only [hmarks, pairs_rename h, nests_rename h]

end check

section tokenize

variable {rest used text : List Char} {segments : List Segment} {error : PatternError}

lemma Cuts.rename (hcuts : Cuts marks rest used segments) (h : Follow s marks (used ++ rest)) :
    Cuts (marks.rename s) (rest.map s) (used.map s) (segments.map (Segment.rename s)) := by
  induction hcuts with
  | done => exact .done
  | @plain run used segments ne clear ends _ ih =>
    -- where a run ends is known from what stands behind it, in `used` or in `rest`
    rw [List.append_assoc] at h
    have hbehind := h.append_right.head_opens ends
    rw [List.map_append] at hbehind
    have hrun := Cuts.plain (by simpa using ne) (h.append_left.forall_opens clear) hbehind
      (ih h.append_right)
    simpa [Segment.rename] using hrun
  | @literal first second used segments opens again _ ih =>
    exact .literal (h.head.1.trans opens) (h.tail.head.1.trans again) (ih h.tail.tail)
  | @bracketed mark close content used segments opens ne single inside closes _ ih =>
    rw [List.cons_append, List.append_assoc] at h
    have hcontent := h.tail.append_left
    have hclose := h.tail.append_right
    have hbracket := Cuts.bracketed (h.head.1.trans opens) (by simpa using ne)
      (hcontent.head_opens single) (hcontent.forall_closes inside) (hclose.head.2.trans closes)
      (ih hclose.tail)
    simpa [Segment.rename] using hbracket

lemma Stuck.rename {start : Nat} (hstuck : Stuck marks start text error)
    (h : Follow s marks text) :
    Stuck (marks.rename s) start (text.map s) (error.rename s) := by
  cases hstuck with
  | emptyBracket opens single closes =>
    exact .emptyBracket (h.head.1.trans opens) (h.tail.head.1.trans single)
      (h.tail.head.2.trans closes)
  | unterminated opens single inside =>
    exact .unterminated (h.head.1.trans opens) (h.tail.head_opens single)
      (h.tail.forall_closes inside)

/-- The reader finds the renamed segments, or the renamed error. -/
theorem tokenize_rename (h : Follow s marks text) :
    tokenize (marks.rename s) (text.map s) =
      ((tokenize marks text).map (List.map (Segment.rename s))).mapError
        (PatternError.rename s) := by
  cases hread : tokenize marks text with
  | ok segments =>
    have hcuts := tokenizeFrom_eq_ok_iff.mp hread
    apply tokenizeFrom_eq_ok_iff.mpr
    exact hcuts.rename (by rwa [List.append_nil])
  | error error =>
    obtain ⟨used, rest, segments, rfl, hcuts, hstuck⟩ := tokenizeFrom_eq_error_iff.mp hread
    apply tokenizeFrom_eq_error_iff.mpr
    refine ⟨used.map s, rest.map s, segments.map (Segment.rename s), List.map_append,
      hcuts.rename h, ?_⟩
    rw [List.length_map]
    exact hstuck.rename h.append_right

end tokenize

namespace Buffer

/-- The spans stay on the renamed text. -/
def rename (s : Char → Char) (buffer : Buffer) : Buffer :=
  { buffer with text := buffer.text.map s }

lemma replace_rename (buffer : Buffer) (start stop : Int) (replacement : List Char) :
    (buffer.rename s).replace start stop (replacement.map s) =
      (buffer.replace start stop replacement).map (rename s) := by
  unfold replace
  simp only [rename, List.length_map]
  split_ifs with h
  · simp [Except.map, rename]
  · rfl

lemma delete_rename (buffer : Buffer) (index count : Int) :
    (buffer.rename s).delete index count = (buffer.delete index count).map (rename s) :=
  buffer.replace_rename index (index + count) []

end Buffer

namespace StyledText

/-- The colours and spans stay on the renamed text. -/
def rename (s : Char → Char) (styled : StyledText) : StyledText :=
  { styled with text := styled.text.map s }

end StyledText

section render

variable {config renamed : Config} {segments : List Segment}

/-- One segment leaves its colour range, or its error, and the renamed buffer. -/
lemma Segment.apply_rename (hinner : renamed.inner = config.inner)
    (houter : renamed.outer = config.outer) (cursor : Int) (buffer : Buffer) (segment : Segment) :
    (segment.rename s).apply renamed cursor (buffer.rename s) =
      (segment.apply config cursor buffer).map (Prod.map id (Buffer.rename s)) := by
  cases segment with
  | plain length =>
    simp only [Segment.rename, Segment.apply, houter]
    cases ColorRange.ofBounds cursor (cursor + length) config.outer.toInt <;> rfl
  | literal mark =>
    simp only [Segment.rename, Segment.apply, Buffer.replace_rename]
    cases buffer.replace cursor (cursor + 2) mark <;> rfl
  | bracketed content =>
    simp only [Segment.rename, Segment.apply, hinner, List.length_map, Buffer.delete_rename]
    cases buffer.delete (cursor + content.length + 1) 1 with
    | error error => rfl
    | ok middle =>
      simp only [Except.map, Except.mapError, bind, Except.bind, Buffer.delete_rename]
      cases middle.delete cursor 1 with
      | error error => rfl
      | ok after =>
        cases ColorRange.ofBounds cursor (cursor + content.length) config.inner.toInt <;> rfl

lemma applyAll_rename (hinner : renamed.inner = config.inner)
    (houter : renamed.outer = config.outer) (cursor : Int) (buffer : Buffer) :
    applyAll renamed (buffer.rename s) (layoutFrom cursor (segments.map (Segment.rename s))) =
      (applyAll config buffer (layoutFrom cursor segments)).map
        (Prod.map id (Buffer.rename s)) := by
  induction segments generalizing cursor buffer with
  | nil => rfl
  | cons segment rest ih =>
    simp only [List.map_cons, layoutFrom, applyAll, Segment.apply_rename hinner houter,
      Segment.outputLength_rename]
    cases segment.apply config cursor buffer with
    | error error => rfl
    | ok applied =>
      obtain ⟨range, middle⟩ := applied
      simp only [Except.map, bind, Except.bind, Prod.map, ih]
      cases applyAll config middle (layoutFrom (cursor + segment.outputLength) rest) <;> rfl

/-- Renamed segments, wherever they come from, are rendered to the renamed text, or refused for the
same reason. -/
theorem render_rename (hinner : renamed.inner = config.inner)
    (houter : renamed.outer = config.outer) (text : List Char) (segments : List Segment)
    (spans : List (Span String)) :
    render renamed (text.map s) (segments.map (Segment.rename s)) spans =
      (render config text segments spans).map (StyledText.rename s) := by
  have hbuffer : (⟨text.map s, spans⟩ : Buffer) = Buffer.rename s ⟨text, spans⟩ := rfl
  have hcovered : covered (segments.map (Segment.rename s)) = covered segments := by
    simp [covered_eq_sum, Function.comp_def]
  unfold render
  rw [hcovered, List.length_map, hbuffer, layout, layout, applyAll_rename hinner houter]
  split_ifs with hcover
  · rfl
  · cases applyAll config ⟨text, spans⟩ (layoutFrom 0 segments) <;> rfl

end render

namespace FormatError

/-- An error of the pattern shows renamed characters, one of the rendering shows none. -/
def rename (s : Char → Char) : FormatError → FormatError
  | pattern error => pattern (error.rename s)
  | render error => render error

end FormatError

section format

variable {config renamed : Config} {text : List Char} {spans : List (Span String)}

lemma Phrase.segments_rename (h : Follow s config.delimiters text)
    (hdelimiters : renamed.delimiters = config.delimiters.rename s)
    (hmarks : (config.delimiters.rename s).left = (config.delimiters.rename s).right ↔
      config.delimiters.left = config.delimiters.right) :
    Phrase.segments ⟨⟨text.map s, spans⟩, renamed⟩ =
      ((Phrase.segments ⟨⟨text, spans⟩, config⟩).map (List.map (Segment.rename s))).mapError
        (PatternError.rename s) := by
  simp only [Phrase.segments, validate, hdelimiters, isBalanced_rename h hmarks]
  split_ifs with hbalance
  · exact tokenize_rename h
  · rfl

theorem Phrase.format_rename (h : Follow s config.delimiters text)
    (hdelimiters : renamed.delimiters = config.delimiters.rename s)
    (hmarks : (config.delimiters.rename s).left = (config.delimiters.rename s).right ↔
      config.delimiters.left = config.delimiters.right)
    (hinner : renamed.inner = config.inner) (houter : renamed.outer = config.outer) :
    Phrase.format ⟨⟨text.map s, spans⟩, renamed⟩ =
      ((Phrase.format ⟨⟨text, spans⟩, config⟩).map (StyledText.rename s)).mapError
        (FormatError.rename s) := by
  unfold Phrase.format Phrase.build
  rw [Phrase.segments_rename h hdelimiters hmarks]
  cases Phrase.segments ⟨⟨text, spans⟩, config⟩ with
  | error error => rfl
  | ok segments =>
    simp only [Except.map, Except.mapError, render_rename hinner houter]
    cases render config text segments spans <;> rfl

end format

/-- Checking, reading and formatting a renamed pattern with the renamed marks comes to the renamed
outcome: balance, kinds and lengths of the segments, kinds and places of the errors, colours and
spans are the same, if the map keeps the marks apart from each other and from the rest. -/
theorem rename_outcome {l r : Char} {text : List Char} (h : KeepsApart s l r text) :
    isBalanced (.ofChars (s l) (s r)) (text.map s) = isBalanced (.ofChars l r) text ∧
    tokenize (.ofChars (s l) (s r)) (text.map s) =
      ((tokenize (.ofChars l r) text).map (List.map (Segment.rename s))).mapError
        (PatternError.rename s) ∧
    ∀ (spans : List (Span String)) (config renamed : Config),
      config.delimiters = .ofChars l r → renamed.delimiters = .ofChars (s l) (s r) →
      renamed.inner = config.inner → renamed.outer = config.outer →
      Phrase.format ⟨⟨text.map s, spans⟩, renamed⟩ =
        ((Phrase.format ⟨⟨text, spans⟩, config⟩).map (StyledText.rename s)).mapError
          (FormatError.rename s) := by
  have hfollow := follow_of_keepsApart h
  have hmarks : ((ofChars l r).rename s).left = ((ofChars l r).rename s).right ↔
      (ofChars l r).left = (ofChars l r).right := by
    simpa [Delimiters.rename, ofChars] using h.marks_iff
  refine ⟨isBalanced_rename hfollow hmarks, tokenize_rename hfollow, ?_⟩
  intro spans config renamed hconfig hrenamed hinner houter
  rw [← hconfig] at hfollow hmarks
  have hdelimiters : renamed.delimiters = config.delimiters.rename s := by
    rw [hrenamed, hconfig]
    rfl
  exact Phrase.format_rename hfollow hdelimiters hmarks hinner houter

/-- The marks become letters that the pattern has too, and all other characters become one. -/
theorem rename_outcome_letters : ∃ s : Char → Char,
    KeepsApart s '<' '>' ['<', '<', '>', '>', '<', 'a', 'b', '>'] ∧
    Phrase.format ⟨⟨['<', '<', '>', '>', '<', 'a', 'b', '>'], [⟨2, 6, "bold"⟩]⟩,
      { separator := .pair '<' '>' }⟩ =
        .ok ⟨['<', '>', '>', 'a', 'b'], [⟨1, 3, 0xFF666666⟩, ⟨3, 5, 0xFFE6454A⟩],
          [⟨1, 4, "bold"⟩]⟩ ∧
    Phrase.format ⟨⟨['a', 'a', 'b', 'b', 'a', '-', '-', 'b'], [⟨2, 6, "bold"⟩]⟩,
      { separator := .pair 'a' 'b' }⟩ =
        .ok ⟨['a', 'b', 'b', '-', '-'], [⟨1, 3, 0xFF666666⟩, ⟨3, 5, 0xFFE6454A⟩],
          [⟨1, 4, "bold"⟩]⟩ := by
  have hformat : Phrase.format ⟨⟨['<', '<', '>', '>', '<', 'a', 'b', '>'], [⟨2, 6, "bold"⟩]⟩,
      { separator := .pair '<' '>' }⟩ =
        .ok ⟨['<', '>', '>', 'a', 'b'], [⟨1, 3, 0xFF666666⟩, ⟨3, 5, 0xFFE6454A⟩],
          [⟨1, 4, "bold"⟩]⟩ := by
    cbv
  have hapart : KeepsApart (fun c => if c = '<' then 'a' else if c = '>' then 'b' else '-')
      '<' '>' ['<', '<', '>', '>', '<', 'a', 'b', '>'] := by
    constructor <;> simp
  obtain ⟨-, -, hrenamed⟩ := rename_outcome hapart
  have houtcome := hrenamed [⟨2, 6, "bold"⟩] { separator := .pair '<' '>' }
    { separator := .pair 'a' 'b' } rfl rfl rfl rfl
  rw [hformat] at houtcome
  exact ⟨_, hapart, hformat, houtcome⟩

end TintedText
