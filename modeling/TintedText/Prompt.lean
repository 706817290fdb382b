import TintedText.Phrase
import TintedText.Text.Characters

/-!
# Prompts

Patterns are asked for one entry at a time. The validator looks at the entry as it was typed and
refuses a blank one and one that cannot be formatted, pointing the cursor at the fault; the pattern
that is delivered is the entry without the blank characters at its ends.
-/
namespace TintedText.Prompt

/-- The parts of the text in front of the entry, each with its style. -/
def fragments : List (String × String) :=
  [("class:prompt", "> ")]

/-- Whether an entry is examined while it is being typed. -/
def validatesWhileTyping : Bool :=
  false

/-- Why an entry is refused, and where the cursor goes. -/
structure Refusal where
  message : String
  cursor : Nat
  deriving DecidableEq, Repr

/-- The verdict on an entry and the reports made on the way. -/
structure Examination where
  verdict : Except Refusal Unit
  reports : List Log.Report

/-- A typed pattern as a phrase. -/
def phrase (config : Config) (text : List Char) : Phrase :=
  { pattern := .ofText text, config }

/-- Where the cursor goes for a pattern that cannot be formatted. -/
def faultPosition (entry : List Char) : FormatError → Nat
  | .pattern error => error.position.getD entry.length
  | .render _ => entry.length

def examine (config : Config) (entry : List Char) : Examination :=
  if (Text.trim entry).isEmpty then ⟨.error ⟨"", 0⟩, []⟩
  else
    let formatting := (phrase config entry).build
    match formatting.outcome with
    | .error error => ⟨.error ⟨error.message, faultPosition entry error⟩, formatting.reports⟩
    | .ok _ => ⟨.ok (), formatting.reports⟩

/-- What the user does at a prompt. -/
inductive Entry where
  | typed (text : List Char)
  | interrupt
  deriving DecidableEq, Repr

/-- A refused entry. -/
structure Rejection where
  entry : List Char
  refusal : Refusal
  deriving DecidableEq, Repr

/-- How a prompt ends. -/
inductive Delivery where
  | pattern (text : List Char)
  | exhausted
  | interrupted
  deriving DecidableEq, Repr

/-- A prompt that has ended: the entries refused before, and the validator's reports. -/
structure Asked where
  delivery : Delivery
  rejected : List Rejection := []
  reports : List Log.Report := []
  deriving DecidableEq, Repr

namespace Asked

/-- The same ending after the examination of one more refused entry. -/
def afterRefusal (asked : Asked) (rejection : Rejection) (reports : List Log.Report) : Asked where
  delivery := asked.delivery
  rejected := rejection :: asked.rejected
  reports := reports ++ asked.reports

end Asked

/-- Ask until an entry is accepted; without validation the first one is. What is left of the entries
is returned, and is less than before unless they are exhausted. -/
def ask (config : Config) (validated : Bool) : List Entry → Asked × List Entry
  | [] => ({ delivery := .exhausted }, [])
  | .interrupt :: rest => ({ delivery := .interrupted }, rest)
  | .typed entry :: rest =>
    if validated then
      let examination := examine config entry
      match examination.verdict with
      | .ok () =>
        ({ delivery := .pattern (Text.trim entry), reports := examination.reports }, rest)
      | .error refusal =>
        let (asked, left) := ask config validated rest
        (asked.afterRefusal ⟨entry, refusal⟩ examination.reports, left)
    else ({ delivery := .pattern (Text.trim entry) }, rest)

theorem length_ask_lt (config : Config) (validated : Bool) (entries : List Entry)
    (h : entries ≠ []) : (ask config validated entries).2.length < entries.length := by
  induction entries with
  | nil => contradiction
  | cons entry rest ih =>
    cases entry with
    | interrupt => simp [ask]
    | typed text =>
      unfold ask
      split
      · dsimp only
        split
        · simp
        · cases rest with
          | nil => simp [ask]
          | cons next others =>
            have := ih (by simp)
            simp only [List.length_cons] at *
            omega
      · simp

/-- Ask again and again, up to the first prompt that delivers no pattern. -/
def askAll (config : Config) (validated : Bool) (entries : List Entry) : List Asked :=
  match entries with
  | [] => [{ delivery := .exhausted }]
  | entry :: rest =>
    let asked := (ask config validated (entry :: rest)).1
    match asked.delivery with
    | .pattern _ => asked :: askAll config validated (ask config validated (entry :: rest)).2
    | .exhausted | .interrupted => [asked]
termination_by entries.length
decreasing_by exact length_ask_lt config validated (entry :: rest) (by simp)

end TintedText.Prompt
