import Mathlib.Logic.Function.Basic
import Mathlib.Logic.Relation
import TintedText.Workshop

/-!
# Calls at the same time

Several calls format one phrase at the same time, each in small steps that may mix with those of the
others in any order. A call looks for a kept result first. If there is none it waits for the lock,
looks again, and only then builds a result, which it reports and keeps. It gives the lock back in
any case, and hands out what it finds kept after that.
-/
namespace TintedText

/-- How far a call to format has come. -/
inductive Stage where
  | called
  /-- It found no kept result. -/
  | waiting
  /-- It has the lock. -/
  | entered
  /-- It has the lock and found no kept result again. -/
  | building
  | built (result : Result)
  /-- It still has the lock, but nothing else to do with it; a failure may have brought it here. -/
  | leaving (failure : Option FormatError)
  /-- It found a kept result, or gave the lock back after there was one. -/
  | reading
  | returned (result : Option Result)
  | raised (error : FormatError)
  deriving DecidableEq

/-- The call is between taking the lock and giving it back. -/
def Stage.HasLock : Stage → Prop
  | entered | building | built _ | leaving _ => True
  | called | waiting | reading | returned _ | raised _ => False

def Stage.HasEnded : Stage → Prop
  | returned _ | raised _ => True
  | called | waiting | entered | building | built _ | leaving _ | reading => False

/-- Calls to format one phrase: how far each of them is, the result that is kept, the call that has
the lock, the number of results built, the calls that have built, and what they have reported. -/
structure Race (calls : Nat) where
  stages : Fin calls → Stage
  cached : Option Result
  lock : Option (Fin calls)
  built : Nat
  builds : List (Fin calls)
  log : List (Fin calls × Log.Report)

namespace Race

variable {calls : Nat}

/-- All calls are about to begin. -/
def start (calls : Nat) (cached : Option Result) (built : Nat) : Race calls :=
  ⟨fun _ => .called, cached, none, built, [], []⟩

def move (race : Race calls) (call : Fin calls) (stage : Stage) : Race calls :=
  { race with stages := Function.update race.stages call stage }

/-- A call has built a result, or failed to, with a number of reports. -/
def note (race : Race calls) (call : Fin calls) (reports : List Log.Report) : Race calls :=
  { race with builds := race.builds ++ [call], log := race.log ++ reports.map (call, ·) }

/-- A step of one call. -/
inductive Step (phrase : Phrase) (call : Fin calls) (race : Race calls) : Race calls → Prop
  /-- Look for a kept result, without the lock. -/
  | found (hstage : race.stages call = .called) (hcached : race.cached ≠ none) :
      Step phrase call race (race.move call .reading)
  | missed (hstage : race.stages call = .called) (hcached : race.cached = none) :
      Step phrase call race (race.move call .waiting)
  /-- Take the lock, which nobody has. -/
  | took (hstage : race.stages call = .waiting) (hlock : race.lock = none) :
      Step phrase call race { race.move call .entered with lock := some call }
  /-- Look for a kept result again. -/
  | foundAgain (hstage : race.stages call = .entered) (hcached : race.cached ≠ none) :
      Step phrase call race (race.move call (.leaving none))
  | missedAgain (hstage : race.stages call = .entered) (hcached : race.cached = none) :
      Step phrase call race (race.move call .building)
  /-- Build a result and report it, or report why there is none. -/
  | built {styled : StyledText} {reports : List Log.Report}
      (hstage : race.stages call = .building) (hbuild : phrase.build = ⟨.ok styled, reports⟩) :
      Step phrase call race
        { (race.move call (.built ⟨race.built, styled⟩)).note call reports with
          built := race.built + 1 }
  | refused {error : FormatError} {reports : List Log.Report}
      (hstage : race.stages call = .building) (hbuild : phrase.build = ⟨.error error, reports⟩) :
      Step phrase call race ((race.move call (.leaving (some error))).note call reports)
  /-- Keep the result. -/
  | stored {result : Result} (hstage : race.stages call = .built result) :
      Step phrase call race { race.move call (.leaving none) with cached := some result }
  /-- Give the lock back, and go on with the failure if there is one. -/
  | left (hstage : race.stages call = .leaving none) :
      Step phrase call race { race.move call .reading with lock := none }
  | failed {error : FormatError} (hstage : race.stages call = .leaving (some error)) :
      Step phrase call race { race.move call (.raised error) with lock := none }
  /-- Hand out what is kept now. -/
  | answered (hstage : race.stages call = .reading) :
      Step phrase call race (race.move call (.returned race.cached))

/-- Any number of steps of any of the calls, in any order. -/
def Reaches (phrase : Phrase) : Race calls → Race calls → Prop :=
  Relation.ReflTransGen fun race next => ∃ call, Step phrase call race next

end Race

end TintedText
