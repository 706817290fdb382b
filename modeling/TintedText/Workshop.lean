import TintedText.Phrase

/-!
# A workshop of phrases

Phrases are made one from another and never change. The workshop numbers them as they are made,
keeps the result of each phrase once it has been formatted, and keeps the log: a phrase reports to
the journal it was made with, and hands this journal on to the phrases derived from it. Results are
numbered as they are built, so that two equal results can be told from one and the same.
-/
namespace TintedText

/-- A result and the number it was given when it was built. -/
structure Result where
  number : Nat
  styled : StyledText
  deriving DecidableEq, Repr

/-- A phrase of the workshop: its journal, its result once there is one, and the number of the
result that was handed out first. -/
structure Slot where
  phrase : Phrase
  journal : Nat
  cached : Option Result := none
  firstShown : Option Nat := none
  deriving DecidableEq, Repr

/-- The phrases made so far, how many results were built, and all reports with their journals. -/
structure Workshop where
  slots : List Slot := []
  built : Nat := 0
  log : List (Nat × Log.Report) := []
  deriving DecidableEq, Repr

inductive WorkshopError where
  | argument (error : ArgumentError)
  | config (error : ConfigError)
  | format (error : FormatError)
  /-- A list or a dictionary cannot be looked up. -/
  | unusableKey
  /-- No phrase has this number. -/
  | noPhrase (number : Nat)

namespace Workshop

inductive Step where
  | fromPattern (source : Source) (journal : Nat)
  | fromResource (table : List (List Char × Source)) (key : Value) (journal : Nat)
  | change (phrase : Nat) (field : Config.Field) (value : Value)
  | format (phrase : Nat)
  /-- A call to format at the same time as a number of others. -/
  | formatTogether (phrase others : Nat)
  | equal (left right : Nat)
  | text (phrase : Nat)
  | display (phrase : Nat)
  | config (phrase : Nat)

inductive Answer where
  | made (phrase : Nat)
  /-- A result, and whether it is the one that was handed out first. -/
  | formatted (result : Result) (sameAsFirst : Bool)
  /-- The result of the first of several calls, and whether all got the same. -/
  | formattedTogether (result : Result) (allSame : Bool)
  | verdict (equal : Bool)
  | text (chars : List Char)
  | message (text : String)
  | config (config : Config)

/-- How many reports a journal has received. -/
def reportCount (workshop : Workshop) (journal : Nat) : Nat :=
  workshop.log.countP (·.1 == journal)

def lookup (table : List (List Char × Source)) : Value → Except WorkshopError Source
  | .text key =>
    match table.lookup key with
    | some source => .ok source
    | none => .error (.argument (.unknownKey (.text key)))
  | .list _ | .dict _ => .error .unusableKey
  | key => .error (.argument (.unknownKey key))

def slot (workshop : Workshop) (number : Nat) : Except WorkshopError Slot :=
  match workshop.slots[number]? with
  | some slot => .ok slot
  | none => .error (.noPhrase number)

def add (workshop : Workshop) (phrase : Phrase) (journal : Nat) : Answer × Workshop :=
  (.made workshop.slots.length, { workshop with slots := workshop.slots ++ [{ phrase, journal }] })

/-- Format a phrase: the kept result if there is one, else a new one that is kept. -/
def result (workshop : Workshop) (number : Nat) : Except WorkshopError Result × Workshop :=
  match workshop.slot number with
  | .error error => (.error error, workshop)
  | .ok slot =>
    match slot.cached with
    | some result => (.ok result, workshop)
    | none =>
      let formatting := slot.phrase.build
      let log := workshop.log ++ formatting.reports.map (slot.journal, ·)
      match formatting.outcome with
      | .error error => (.error (.format error), { workshop with log })
      | .ok styled =>
        let result := ⟨workshop.built, styled⟩
        let slots := workshop.slots.set number { slot with cached := some result }
        (.ok result, { workshop with slots, log, built := workshop.built + 1 })

/-- Format a phrase a number of times. -/
def results (workshop : Workshop) (number : Nat) :
    Nat → List (Except WorkshopError Result) × Workshop
  | 0 => ([], workshop)
  | count + 1 =>
    let (first, workshop) := workshop.result number
    let (others, workshop) := workshop.results number count
    (first :: others, workshop)

/-- The outcome is the result of that number. -/
def hasNumber (number : Nat) : Except WorkshopError Result → Bool
  | .ok result => result.number == number
  | .error _ => false

/-- Remember which result of a phrase was handed out first. -/
def noteShown (workshop : Workshop) (number : Nat) (result : Result) : Bool × Workshop :=
  match workshop.slots[number]? with
  | none => (true, workshop)
  | some slot =>
    match slot.firstShown with
    | some first => (first == result.number, workshop)
    | none =>
      let slots := workshop.slots.set number { slot with firstShown := some result.number }
      (true, { workshop with slots })

/-- Do one step. A step that fails makes no phrase and changes none. -/
def perform (workshop : Workshop) : Step → Except WorkshopError Answer × Workshop
  | .fromPattern source journal =>
    match Phrase.ofSource source with
    | .error error => (.error (.argument error), workshop)
    | .ok phrase => (workshop.add phrase journal).map .ok id
  | .fromResource table key journal =>
    match lookup table key with
    | .error error => (.error error, workshop)
    | .ok source =>
      match Phrase.ofSource source with
      | .error error => (.error (.argument error), workshop)
      | .ok phrase => (workshop.add phrase journal).map .ok id
  | .change number field value =>
    match workshop.slot number with
    | .error error => (.error error, workshop)
    | .ok slot =>
      match slot.phrase.evolve [(field.name, value)] with
      | .error error => (.error (.config error), workshop)
      | .ok phrase => (workshop.add phrase slot.journal).map .ok id
  | .format number =>
    match workshop.result number with
    | (.error error, workshop) => (.error error, workshop)
    | (.ok result, workshop) =>
      let (same, workshop) := workshop.noteShown number result
      (.ok (.formatted result same), workshop)
  | .formatTogether number others =>
    match workshop.result number with
    | (.error error, workshop) => (.error error, (workshop.results number others).2)
    | (.ok result, workshop) =>
      let (outcomes, workshop) := workshop.results number others
      (.ok (.formattedTogether result (outcomes.all (hasNumber result.number))), workshop)
  | .equal left right =>
    match workshop.result left with
    | (.error error, workshop) => (.error error, workshop)
    | (.ok first, workshop) =>
      match workshop.result right with
      | (.error error, workshop) => (.error error, workshop)
      | (.ok second, workshop) => (.ok (.verdict (first.styled == second.styled)), workshop)
  | .text number => ((workshop.slot number).map (.text ·.phrase.pattern.text), workshop)
  | .display number => ((workshop.slot number).map (.message ·.phrase.display), workshop)
  | .config number => ((workshop.slot number).map (.config ·.phrase.config), workshop)

end Workshop

end TintedText
