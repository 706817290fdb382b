import Mathlib.Data.List.Basic
import TintedText.Console

/-!
# Terminals

What a terminal shows of the characters that are sent to it. An escape character and a bracket begin
a sequence, which ends with the letter m and is not shown itself: its numbers switch codes on for
the characters behind it, and a single zero switches all codes off. Every other character is shown
under the codes that are on. A sequence is read back to the codes that it was written for
(`run_opening`).
-/
namespace TintedText

/-- A character that is shown, and the codes that are on for it. -/
structure Cell where
  character : Char
  codes : List Nat
  deriving DecidableEq, Repr

/-- What a terminal takes the next character for. -/
inductive Terminal.Mode where
  | text
  /-- The character behind an escape character. -/
  | escape
  /-- A part of a sequence whose numbers have been read so far. -/
  | sequence (digits : List Char)
  deriving DecidableEq, Repr

/-- A terminal: the codes that are on, and what is shown. -/
structure Terminal where
  mode : Terminal.Mode := .text
  codes : List Nat := []
  cells : List Cell := []
  deriving DecidableEq, Repr

namespace Terminal

/-- The numbers of a sequence; a missing one is zero. -/
def numbers (digits : List Char) : List Nat :=
  (digits.splitOn ';').map fun number => Nat.ofDigitChars 10 number 0

/-- The codes that are on behind a sequence. -/
def switch (codes numbers : List Nat) : List Nat :=
  if numbers = [0] then [] else codes ++ numbers

/-- One character is sent to the terminal. -/
def take (terminal : Terminal) (c : Char) : Terminal :=
  match terminal.mode with
  | .text =>
    if c = '\x1b' then { terminal with mode := .escape }
    else { terminal with cells := terminal.cells ++ [⟨c, terminal.codes⟩] }
  | .escape => { terminal with mode := if c = '[' then .sequence [] else .text }
  | .sequence digits =>
    if c = 'm' then
      { terminal with mode := .text, codes := switch terminal.codes (numbers digits) }
    else { terminal with mode := .sequence (digits ++ [c]) }

def run (terminal : Terminal) (text : List Char) : Terminal :=
  text.foldl take terminal

variable {codes : List Nat} {cells : List Cell} {text : List Char}

lemma run_append (terminal : Terminal) (front back : List Char) :
    terminal.run (front ++ back) = (terminal.run front).run back :=
  List.foldl_append

/-- A terminal that collects each character of a text ends up with the whole text. -/
lemma run_of_take (state : List Char → Terminal)
    (h : ∀ c ∈ text, ∀ before, take (state before) c = state (before ++ [c]))
    (before : List Char) : run (state before) text = state (before ++ text) := by
  induction text generalizing before with
  | nil => simp [run]
  | cons c text ih =>
    obtain ⟨hc, htext⟩ := List.forall_mem_cons.mp h
    calc run (state before) (c :: text)
        = run (state (before ++ [c])) text := congrArg (run · text) (hc before)
      _ = state (before ++ [c] ++ text) := ih htext _
      _ = state (before ++ c :: text) := by rw [List.append_assoc, List.singleton_append]

lemma run_text (h : ∀ c ∈ text, c ≠ '\x1b') :
    run ⟨.text, codes, cells⟩ text = ⟨.text, codes, cells ++ text.map (⟨·, codes⟩)⟩ := by
  have htake : ∀ c ∈ text, ∀ before : List Char,
      take ⟨.text, codes, cells ++ before.map (⟨·, codes⟩)⟩ c =
        ⟨.text, codes, cells ++ (before ++ [c]).map (⟨·, codes⟩)⟩ := by
    intro c hc before
    rw [List.map_append, ← List.append_assoc]
    exact if_neg (h c hc)
  have hrun := run_of_take (fun before => ⟨.text, codes, cells ++ before.map (⟨·, codes⟩)⟩) htake []
  simpa using hrun

/-- Inside a sequence all characters but the last one are kept for its numbers. -/
lemma run_digits (h : ∀ c ∈ text, c ≠ 'm') (digits : List Char) :
    run ⟨.sequence digits, codes, cells⟩ text = ⟨.sequence (digits ++ text), codes, cells⟩ :=
  run_of_take (fun digits => ⟨.sequence digits, codes, cells⟩)
    (fun c hc _ => if_neg (h c hc)) digits

lemma run_sequence (h : ∀ c ∈ text, c ≠ 'm') :
    run ⟨.text, codes, cells⟩ ('\x1b' :: '[' :: text ++ ['m']) =
      ⟨.text, switch codes (numbers text), cells⟩ := by
  have hbegin : run ⟨.text, codes, cells⟩ ['\x1b', '['] = ⟨.sequence [], codes, cells⟩ := rfl
  have hsplit : '\x1b' :: '[' :: text ++ ['m'] = ['\x1b', '['] ++ text ++ ['m'] := rfl
  rw [hsplit, run_append, run_append, hbegin, run_digits h, List.nil_append]
  rfl

lemma isDigit_of_mem_toString {code : Nat} {c : Char} (hc : c ∈ (toString code).toList) :
    c.isDigit = true := by
  rw [Nat.toString_eq_repr, Nat.toList_repr] at hc
  exact Nat.isDigit_of_mem_toDigits (by decide) (by decide) hc

lemma mem_intercalate {α : Type} {separator c : α} {parts : List (List α)}
    (h : c ∈ [separator].intercalate parts) : c = separator ∨ ∃ part ∈ parts, c ∈ part := by
  induction parts with
  | nil => cases h
  | cons part parts ih =>
    by_cases hparts : parts = []
    · subst hparts
      rw [List.intercalate_singleton] at h
      exact .inr ⟨part, by simp, h⟩
    · rw [List.intercalate_cons_of_ne_nil hparts] at h
      simp only [List.mem_append, List.mem_singleton] at h
      obtain (h | h) | h := h
      · exact .inr ⟨part, by simp, h⟩
      · exact .inl h
      · exact (ih h).imp_right fun ⟨part, hpart, hc⟩ => ⟨part, by simp [hpart], hc⟩

lemma toList_numbers (codes : List Nat) :
    (";".intercalate (codes.map toString)).toList =
      [';'].intercalate (codes.map fun code => (toString code).toList) := by
  rw [String.toList_intercalate, List.map_map]
  rfl

lemma numbers_intercalate (hne : codes ≠ []) :
    numbers (";".intercalate (codes.map toString)).toList = codes := by
  have hparts : ∀ part ∈ codes.map fun code => (toString code).toList, ';' ∉ part := by
    intro part hpart hmem
    obtain ⟨code, -, rfl⟩ := List.mem_map.mp hpart
    exact absurd (isDigit_of_mem_toString hmem) (by decide)
  have hnumber : ∀ code ∈ codes, Nat.ofDigitChars 10 (toString code).toList 0 = code := by
    intro code _
    rw [Nat.toString_eq_repr, Nat.toList_repr, Nat.ofDigitChars_ten_toDigits]
  rw [numbers, toList_numbers, List.splitOn_intercalate ';' hparts (by simpa using hne),
    List.map_map]
  exact (List.map_congr_left hnumber).trans (List.map_id' codes)

lemma run_opening (hne : codes ≠ []) (hzero : codes ≠ [0]) :
    run ⟨.text, [], cells⟩ (Ansi.opening codes) = ⟨.text, codes, cells⟩ := by
  have hletter : ∀ c ∈ (";".intercalate (codes.map toString)).toList, c ≠ 'm' := by
    rw [toList_numbers]
    rintro c hc rfl
    obtain hc | ⟨part, hpart, hc⟩ := mem_intercalate hc
    · exact absurd hc (by decide)
    · obtain ⟨code, -, rfl⟩ := List.mem_map.mp hpart
      exact absurd (isDigit_of_mem_toString hc) (by decide)
  rw [Ansi.opening, run_sequence hletter, numbers_intercalate hne, switch, if_neg hzero,
    List.nil_append]

lemma run_reset : run ⟨.text, codes, cells⟩ Ansi.reset = ⟨.text, [], cells⟩ := rfl

end Terminal

end TintedText
