import TintedText.Proofs.Joining
import TintedText.Scanner

/-!
# A scanner can be asked from any place

The cursor of a scanner may be brought to any place, into an escape, into a bracket or behind the
end, and a failed reading leaves it moved. `Reads` says all that asking for a segment can do to it;
from there on a scanner goes on as if the rest of the pattern stood alone (`steps_resume`): it gives
the segments of that rest, or its error, found as much later as the cursor is ahead.
-/
namespace TintedText

/-- Text in front moves the place of an error and nothing else. -/
theorem tokenizeFrom_add (marks : Delimiters) (count start : Nat) (text : List Char) :
    tokenizeFrom marks (count + start) text =
      (tokenizeFrom marks start text).mapError (PatternError.shift count) := by
  cases h : tokenizeFrom marks start text with
  | ok segments => exact tokenizeFrom_eq_ok_iff.mpr (tokenizeFrom_eq_ok_iff.mp h)
  | error error =>
    obtain ⟨used, rest, segments, rfl, hcuts, hstuck⟩ := tokenizeFrom_eq_error_iff.mp h
    apply tokenizeFrom_eq_error_iff.mpr
    refine ⟨used, rest, segments, rfl, hcuts, ?_⟩
    rw [Nat.add_assoc]
    exact hstuck.shift count

/-- Reading gives a segment of the length that it uses up, or finds a bracket empty, or goes through
all the rest without finding its end. -/
lemma Segment.read_cases (marks : Delimiters) (start : Nat) (c : Char) (rest : List Char) :
    (∃ segment count, read marks start c rest = ⟨.ok segment, count⟩ ∧
      segment.sourceLength = count) ∨
    read marks start c rest = ⟨.error (.emptyBracket marks.left marks.right start), 2⟩ ∨
    read marks start c rest = ⟨.error (.unterminated marks.right start), rest.length + 1⟩ := by
  simp only [read, readBracket]
  split
  · exact .inl ⟨_, _, rfl, rfl⟩
  split
  · exact .inl ⟨_, _, rfl, rfl⟩
  split
  · exact .inr (.inr rfl)
  split
  · exact .inr (.inl rfl)
  · exact .inl ⟨_, _, rfl, by simp [sourceLength]⟩

namespace Scanner

variable {scanner after middle last : Scanner}

@[simp] lemma advance_advance (scanner : Scanner) (first second : Nat) :
    (scanner.advance first).advance second = scanner.advance (first + second) := by
  simp only [advance, Nat.add_assoc]

@[simp] lemma remaining_advance (scanner : Scanner) (count : Nat) :
    (scanner.advance count).remaining = scanner.remaining.drop count := by
  simp only [remaining, advance, List.drop_drop]

lemma length_remaining (scanner : Scanner) :
    scanner.remaining.length = scanner.pattern.length - scanner.index :=
  List.length_drop

/-- What can come of asking for a segment, and where it leaves the scanner. -/
inductive Reads (scanner : Scanner) : Except PatternError (Option Segment) → Scanner → Prop
  /-- At the end and behind it there is none. -/
  | ended (behind : scanner.pattern.length ≤ scanner.index) : Reads scanner (.ok none) scanner
  /-- A segment is read over, which lies in the pattern. -/
  | segment {segment : Segment} {count : Nat} (pos : 0 < count)
      (length_eq : segment.sourceLength = count)
      (room : scanner.index + count ≤ scanner.pattern.length) :
      Reads scanner (.ok (some segment)) (scanner.advance count)
  /-- The two marks of an empty bracket are read over. -/
  | emptyBracket (room : scanner.index + 2 ≤ scanner.pattern.length) :
      Reads scanner
        (.error (.emptyBracket scanner.marks.left scanner.marks.right scanner.index))
        (scanner.advance 2)
  /-- All the rest is read over in search of a closing mark. -/
  | unterminated {count : Nat} (pos : 0 < count)
      (stop : scanner.index + count = scanner.pattern.length) :
      Reads scanner (.error (.unterminated scanner.marks.right scanner.index))
        (scanner.advance count)

theorem reads_next (scanner : Scanner) : Reads scanner scanner.next.1 scanner.next.2 := by
  have hlength := scanner.length_remaining
  unfold next
  cases hrest : scanner.remaining with
  | nil =>
    rw [hrest, List.length_nil] at hlength
    exact .ended (by omega)
  | cons c rest =>
    rw [hrest, List.length_cons] at hlength
    have hpos := Segment.consumed_pos scanner.marks scanner.index c rest
    have hle := Segment.consumed_le scanner.marks scanner.index c rest
    obtain ⟨segment, count, hread, hcount⟩ | hread | hread :=
      Segment.read_cases scanner.marks scanner.index c rest
    · simp only [hread] at hpos hle ⊢
      exact .segment hpos hcount (by omega)
    · simp only [hread] at hle ⊢
      exact .emptyBracket (by omega)
    · simp only [hread] at hpos ⊢
      exact .unterminated hpos (by omega)

lemma reads_of_next {outcome : Except PatternError (Option Segment)}
    (h : scanner.next = (outcome, after)) : Reads scanner outcome after := by
  have hread := scanner.reads_next
  rwa [h] at hread

namespace Reads

variable {outcome : Except PatternError (Option Segment)}

lemma exists_advance (h : Reads scanner outcome after) :
    ∃ count, after = scanner.advance count := by
  cases h with
  | ended => exact ⟨0, rfl⟩
  | segment | emptyBracket | unterminated => exact ⟨_, rfl⟩

lemma eq_none_iff (h : Reads scanner outcome after) :
    outcome = .ok none ↔ scanner.pattern.length ≤ scanner.index := by
  cases h with
  | ended behind => simpa using behind
  | segment | emptyBracket | unterminated =>
    simp only [Except.ok.injEq, reduceCtorEq, false_iff]
    omega

lemma of_none (h : Reads scanner (.ok none) after) : after = scanner := by
  cases h
  rfl

lemma of_segment {segment : Segment} (h : Reads scanner (.ok (some segment)) after) :
    0 < segment.sourceLength ∧ (after.index : Int) = scanner.index + segment.sourceLength ∧
      after.index ≤ scanner.pattern.length := by
  cases h with
  | segment pos length_eq room =>
    rw [length_eq]
    refine ⟨by omega, ?_, room⟩
    simp only [advance, Int.natCast_add]

lemma of_error {error : PatternError} (h : Reads scanner (.error error) after) :
    error = .emptyBracket scanner.marks.left scanner.marks.right scanner.index ∧
        after.index = scanner.index + 2 ∨
      error = .unterminated scanner.marks.right scanner.index ∧
        after.index = scanner.pattern.length := by
  cases h with
  | emptyBracket room => exact .inl ⟨rfl, rfl⟩
  | unterminated pos stop => exact .inr ⟨rfl, stop⟩

end Reads

/-- Asking for segments until there is none or asking fails: the segments, how it ends, and the
scanner afterwards. -/
inductive Drains : Scanner → List Segment → Except PatternError Unit → Scanner → Prop
  | ended {scanner after : Scanner} (h : scanner.next = (.ok none, after)) :
      Drains scanner [] (.ok ()) after
  | failed {scanner after : Scanner} {error : PatternError}
      (h : scanner.next = (.error error, after)) : Drains scanner [] (.error error) after
  | more {scanner middle last : Scanner} {segment : Segment} {segments : List Segment}
      {ending : Except PatternError Unit} (h : scanner.next = (.ok (some segment), middle))
      (rest : Drains middle segments ending last) :
      Drains scanner (segment :: segments) ending last

/-- Draining asks until it ends. -/
theorem exists_drains (scanner : Scanner) :
    ∃ segments ending, Drains scanner segments ending scanner.drain.2 ∧
      scanner.drain.1 = ending.map fun _ => segments := by
  fun_induction Scanner.drain scanner with
  | case1 scanner error after hnext => exact ⟨[], .error error, .failed hnext, rfl⟩
  | case2 scanner after hnext => exact ⟨[], .ok (), .ended hnext, rfl⟩
  | case3 scanner segment middle hnext outcome last hdrain ih =>
    obtain ⟨segments, ending, hrest, houtcome⟩ := ih
    rw [hdrain] at hrest houtcome
    refine ⟨segment :: segments, ending, .more hnext hrest, ?_⟩
    rw [show outcome = ending.map fun _ => segments from houtcome]
    cases ending <;> rfl

/-- Reading the rest of the pattern starts as the next reading of the scanner does. -/
lemma tokenizeFrom_remaining (scanner : Scanner) :
    tokenizeFrom scanner.marks scanner.index scanner.remaining =
      match scanner.next with
      | (.error error, _) => .error error
      | (.ok none, _) => .ok []
      | (.ok (some segment), after) =>
        (tokenizeFrom after.marks after.index after.remaining).map (segment :: ·) := by
  unfold next
  cases hrest : scanner.remaining with
  | nil => rw [tokenizeFrom]
  | cons c rest =>
    rw [tokenizeFrom]
    dsimp only
    generalize Segment.read scanner.marks scanner.index c rest = reading
    obtain ⟨outcome, count⟩ := reading
    cases outcome with
    | error error => rfl
    | ok segment =>
      simp only [Except.map, remaining_advance, hrest]
      rfl

namespace Drains

variable {segments : List Segment} {ending : Except PatternError Unit}

/-- The segments and the end are those of the rest of the pattern. -/
theorem tokenizeFrom_eq (h : Drains scanner segments ending last) :
    tokenizeFrom scanner.marks scanner.index scanner.remaining = ending.map fun _ => segments := by
  induction h with
  | ended h | failed h =>
    rw [tokenizeFrom_remaining, h]
    rfl
  | @more scanner middle last segment segments ending h rest ih =>
    rw [tokenizeFrom_remaining, h]
    simp only [ih]
    cases ending <;> rfl

lemma exists_advance (h : Drains scanner segments ending last) :
    ∃ count, last = scanner.advance count := by
  induction h with
  | ended h | failed h => exact (reads_of_next h).exists_advance
  | more h rest ih =>
    obtain ⟨first, rfl⟩ := (reads_of_next h).exists_advance
    obtain ⟨second, rfl⟩ := ih
    exact ⟨first + second, advance_advance ..⟩

/-- Every segment takes at least one character, so there are no more of them than characters. -/
lemma length_le (h : Drains scanner segments ending last) :
    segments.length ≤ scanner.pattern.length - scanner.index := by
  induction h with
  | ended | failed => exact Nat.zero_le _
  | more h rest ih =>
    cases reads_of_next h with
    | segment pos length_eq room =>
      rw [List.length_cons]
      simp only [advance] at ih
      omega

end Drains

/-- Draining gives what the rest of the pattern gives alone, with errors found behind the cursor. -/
theorem drain_eq (scanner : Scanner) :
    scanner.drain.1 =
      (tokenize scanner.marks scanner.remaining).mapError (PatternError.shift scanner.index) := by
  obtain ⟨segments, ending, hdrains, houtcome⟩ := scanner.exists_drains
  rw [houtcome, ← hdrains.tokenizeFrom_eq, tokenize, ← tokenizeFrom_add, Nat.add_zero]

def afterAll (scanner : Scanner) : List Step → Scanner
  | [] => scanner
  | step :: steps => (scanner.perform step).2.afterAll steps

lemma exists_advance_perform (scanner : Scanner) (step : Step) :
    ∃ count, (scanner.perform step).2 = scanner.advance count := by
  cases step with
  | current | lookahead => exact ⟨0, rfl⟩
  | consume => exact ⟨1, rfl⟩
  | next => exact scanner.reads_next.exists_advance
  | drain =>
    obtain ⟨segments, ending, hdrains, -⟩ := scanner.exists_drains
    exact hdrains.exists_advance

theorem exists_advance_afterAll (scanner : Scanner) (steps : List Step) :
    ∃ count, scanner.afterAll steps = scanner.advance count := by
  induction steps generalizing scanner with
  | nil => exact ⟨0, rfl⟩
  | cons step steps ih =>
    obtain ⟨first, hfirst⟩ := scanner.exists_advance_perform step
    obtain ⟨second, hsecond⟩ := ih (scanner.advance first)
    refine ⟨first + second, ?_⟩
    rw [afterAll, hfirst, hsecond, advance_advance]

/-- After any steps, those that fail included, a scanner keeps to these rules: no step moves the
cursor back, and looking does not move it; asking for a segment moves it by the length of the
segment, over an empty bracket, or to the end; and draining ends, with what the rest of the pattern
gives alone. -/
theorem steps_resume (marks : Delimiters) (pattern : List Char) (steps : List Step)
    {scanner : Scanner} (h : (ofPattern marks pattern).afterAll steps = scanner) :
    (scanner.marks = marks ∧ scanner.pattern = pattern) ∧
    (∀ more, scanner.index ≤ (scanner.afterAll more).index) ∧
    scanner.perform .current = (.character pattern[scanner.index]?, scanner) ∧
    scanner.perform .lookahead = (.character pattern[scanner.index + 1]?, scanner) ∧
    scanner.perform .consume = (.moved, { scanner with index := scanner.index + 1 }) ∧
    (∃ outcome after, scanner.perform .next = (.segment outcome, after) ∧
      (outcome = .ok none ↔ pattern.length ≤ scanner.index) ∧
      (outcome = .ok none → after = scanner) ∧
      (∀ segment, outcome = .ok (some segment) →
        0 < segment.sourceLength ∧ (after.index : Int) = scanner.index + segment.sourceLength ∧
          after.index ≤ pattern.length) ∧
      ∀ error, outcome = .error error →
        error = .emptyBracket marks.left marks.right scanner.index ∧
            after.index = scanner.index + 2 ∨
          error = .unterminated marks.right scanner.index ∧ after.index = pattern.length) ∧
    ∃ segments ending last,
      scanner.perform .drain = (.segments (ending.map fun _ => segments), last) ∧
      Drains scanner segments ending last ∧
      segments.length ≤ pattern.length - scanner.index ∧
      (ending.map fun _ => segments) =
        (tokenize marks (pattern.drop scanner.index)).mapError (.shift scanner.index) := by
  obtain ⟨count, hcount⟩ := (ofPattern marks pattern).exists_advance_afterAll steps
  obtain ⟨rfl, rfl⟩ : scanner.marks = marks ∧ scanner.pattern = pattern := by
    rw [← h, hcount]
    exact ⟨rfl, rfl⟩
  refine ⟨⟨rfl, rfl⟩, fun more => ?_, rfl, rfl, rfl, ?_, ?_⟩
  · obtain ⟨distance, hmore⟩ := scanner.exists_advance_afterAll more
    rw [hmore]
    exact Nat.le_add_right _ _
  · have hreads := scanner.reads_next
    refine ⟨scanner.next.1, scanner.next.2, rfl, hreads.eq_none_iff, ?_, ?_, ?_⟩
    · intro hnone
      rw [hnone] at hreads
      exact hreads.of_none
    · intro segment hsegment
      rw [hsegment] at hreads
      exact hreads.of_segment
    · intro error herror
      rw [herror] at hreads
      exact hreads.of_error
  · obtain ⟨segments, ending, hdrains, houtcome⟩ := scanner.exists_drains
    refine ⟨segments, ending, scanner.drain.2, ?_, hdrains, hdrains.length_le, ?_⟩
    · rw [← houtcome]
      rfl
    · rw [← houtcome]
      exact scanner.drain_eq

/-- From the second mark of an escape on there is a bracket, a plain run and an empty bracket, which
alone would be found one place earlier. -/
theorem steps_resume_in_escape :
    ∃ scanner, (ofPattern (.ofChars '<' '>') ['<', '<', 'b', '>', 'c', '<', '>']).afterAll
        [.current, .consume, .lookahead] = scanner ∧
      tokenize (.ofChars '<' '>') ['<', 'b', '>', 'c', '<', '>'] =
        .error (.emptyBracket ['<'] ['>'] 4) ∧
      ∃ segments last,
        Drains scanner segments (.error (.emptyBracket ['<'] ['>'] 5)) last ∧
        scanner.index ≤ (scanner.afterAll [.drain, .consume]).index := by
  have hread : tokenize (.ofChars '<' '>') ['<', 'b', '>', 'c', '<', '>'] =
      .error (.emptyBracket ['<'] ['>'] 4) := by
    cbv
  obtain ⟨-, hmono, -, -, -, -, segments, ending, last, -, hdrains, -, hending⟩ :=
    steps_resume (.ofChars '<' '>') ['<', '<', 'b', '>', 'c', '<', '>']
      [.current, .consume, .lookahead] rfl
  refine ⟨_, rfl, hread, segments, last, ?_, hmono _⟩
  have herror : (ending.map fun _ => segments) = .error (.emptyBracket ['<'] ['>'] 5) :=
    hending.trans (congrArg (Except.mapError (PatternError.shift 1)) hread)
  cases ending with
  | ok done => cases herror
  | error error =>
    obtain rfl : error = .emptyBracket ['<'] ['>'] 5 := Except.error.inj herror
    exact hdrains

end Scanner

end TintedText
