import TintedText.CommandLine.Session

/-!
# The program

Reads patterns from the standard input, one a line, and shows each of them in its colours. All of
this is decided by the session, entry by entry; here its events are carried out, lines are read, and
the log file is opened once to find out what the disk says to it.
-/
namespace TintedText.CommandLine

def carryOut : Log.Event → IO Unit
  | .created path => IO.FS.withFile path .append fun _ => pure ()
  | .wrote .output text => IO.print text
  | .wrote .errors text => IO.eprint text
  | .wrote (.file path) text => IO.FS.withFile path .append fun handle => handle.putStr text

/-- The disk as it answers to the log file that is asked for on the command line. -/
def probe (root : String) (arguments : List (List Char)) : IO (Log.Disk IO.Error) := do
  let silent : Log.Disk IO.Error := ⟨root, .ok (), fun _ => .ok ()⟩
  match parse arguments with
  | .error _ => return silent
  | .ok options =>
    unless options.logging do return silent
    let makeDirectory ←
      if options.logFile.isNone then (IO.FS.createDirAll (Log.defaultDirectory root)).toBaseIO
      else pure (.ok ())
    match Log.Request.destination ⟨sessionLogger, true, options.logFile⟩ root with
    | .output | .errors => return silent
    | .file path =>
      let opened ← (carryOut (.created path)).toBaseIO
      return ⟨root, makeDirectory, fun _ => opened⟩

def stampNow : IO String :=
  return toString (← IO.monoMsNow)

/-- Take entry after entry until the session ends. A refused one is answered by the validator's
message. -/
partial def hold (config : Config) (console : Console) (registry : Log.Registry)
    (input : IO.FS.Stream) : IO Ending := do
  IO.print (String.join (Prompt.fragments.map (·.2)))
  (← IO.getStdout).flush
  let line ← input.getLine
  if line.isEmpty then return .exhausted
  let turn := turn config true (.typed (line.toList.filter (· != '\n')))
  turn.rejected.forM fun rejection => IO.println rejection.refusal.message
  let stamp ← stampNow
  (turn.acts.flatMap (Act.events console registry stamp)).forM carryOut
  match turn.ending with
  | some ending => return ending
  | none => hold config console registry input

end TintedText.CommandLine

open TintedText CommandLine in
def main (arguments : List String) : IO UInt32 := do
  let arguments := arguments.map String.toList
  let system : System IO.Error := ⟨← probe (← IO.appDir).toString arguments, .wide⟩
  match start system arguments with
  | .failure (.logging error) => throw error
  | .failure (.unwritable error) =>
    IO.eprintln error.message
    return 1
  | .exit code events =>
    events.forM carryOut
    return code.toUInt32
  | .session config registry events =>
    events.forM carryOut
    let ending ← hold config system.console registry (← IO.getStdin)
    return ending.code.toUInt32
