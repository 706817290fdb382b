import TintedText.Log.Tree

/-!
# Logbooks

A run of constructions of loggers and reports to them. The logbook numbers the loggers as they are
made and keeps all events; a step that fails leaves it as it was. What the disk allows may change
from step to step.
-/
namespace TintedText.Log

/-- The registry, the names of the loggers made so far, and everything that has happened. -/
structure Logbook where
  registry : Registry := {}
  loggers : List String := []
  events : List Event := []
  deriving DecidableEq, Repr

inductive StepError (ε : Type) where
  | making (error : ε)
  /-- No logger has this number. -/
  | noLogger (number : Nat)
  deriving DecidableEq, Repr

/-- Why a step fails on the disk of a file tree. -/
abbrev LogbookError :=
  StepError LogError

namespace Logbook

inductive Step where
  | make (request : Request)
  | report (logger : Nat) (report : Report) (traced : Bool)
  deriving DecidableEq, Repr

inductive Answer where
  /-- The name of a logger that was made and the number of its silent handlers. -/
  | made (name : String) (silent : Nat)
  | reported
  deriving DecidableEq, Repr

/-- Do one step; the stamp is the time of a report. -/
def performOn {ε : Type} (disk : Disk ε) (logbook : Logbook) (stamp : String) :
    Step → Except (StepError ε) Answer × Logbook
  | .make request =>
    match logbook.registry.make request disk with
    | .error error => (.error (.making error), logbook)
    | .ok (name, registry, events) =>
      (.ok (.made name (registry.silentCount name)),
        ⟨registry, logbook.loggers ++ [name], logbook.events ++ events⟩)
  | .report logger content traced =>
    match logbook.loggers[logger]? with
    | none => (.error (.noLogger logger), logbook)
    | some name =>
      let events := logbook.registry.report stamp name content traced
      (.ok .reported, { logbook with events := logbook.events ++ events })

/-- Do one step in the file tree of a usual system. -/
def perform (logbook : Logbook) (stamp : String) (step : Step) :
    Except LogbookError Answer × Logbook :=
  logbook.performOn (.ofTree .usual logbook.events) stamp step

/-- What has happened in a logbook since an earlier state of it. -/
def eventsSince (logbook earlier : Logbook) : List Event :=
  logbook.events.drop earlier.events.length

end Logbook

def written (destination : Destination) (events : List Event) : String :=
  String.join (events.filterMap fun event =>
    match event with
    | .wrote place text => if place = destination then some text else none
    | .created _ => none)

/-- The files made in the working directory, in the order of their paths, with what was written to
them. -/
def files (events : List Event) : List (String × String) :=
  let paths := events.filterMap fun event =>
    match event with
    | .created path => if (Path.ofString path).isLocal then some path else none
    | .wrote _ _ => none
  (paths.eraseDups.map fun path => ((Path.ofString path).toString, written (.file path) events))
    |>.mergeSort (·.1 ≤ ·.1)

end TintedText.Log
