/-!
# The registry of loggers

Loggers are called by name; the one without a name is the root, also called `root`, and every other
one passes its reports on to it. Making a logger with logging enabled sets the root up to write all
reports to one destination, unless the root has a handler already; making one with logging disabled
gives it a silent handler, unless it has one. What happens outside is told as a list of events.
Which files can be opened is the disk's affair, which is asked each time a logger is made.
-/
namespace TintedText.Log

/-- How much a message matters, from the least on. -/
inductive Level where
  | debug
  | info
  | warning
  | error
  deriving DecidableEq, Repr

namespace Level

def rank : Level → Nat
  | debug => 10
  | info => 20
  | warning => 30
  | error => 40

def name : Level → String
  | debug => "DEBUG"
  | info => "INFO"
  | warning => "WARNING"
  | error => "ERROR"

end Level

structure Report where
  level : Level
  message : String
  deriving DecidableEq, Repr

inductive Destination where
  | output
  | errors
  | file (path : String)
  deriving DecidableEq, Repr

inductive Handler where
  | silent
  | writer (destination : Destination)
  deriving DecidableEq, Repr

/-- What happens outside of the program. -/
inductive Event where
  | created (path : String)
  | wrote (destination : Destination) (text : String)
  deriving DecidableEq, Repr

/-- How the system stands towards log files at one moment, with its reasons why not. -/
structure Disk (ε : Type) where
  /-- The directory that the program is installed in. -/
  root : String
  /-- Make the directory of the default log file, unless it is there. -/
  makeDirectory : Except ε Unit
  /-- Open the log file of a path, or the default one in its directory. -/
  openFile : Option String → Except ε Unit

/-- The loggers' handlers in the order they were added, and the level from which on reports are
taken. -/
structure Registry where
  threshold : Level := .warning
  handlers : List (String × Handler) := []
  deriving DecidableEq, Repr

/-- A logger as it is asked for. -/
structure Request where
  name : String
  enabled : Bool := false
  /-- The path of the log file; a dash stands for the standard output and the empty path for the
  standard error stream. -/
  file : Option String := none
  deriving DecidableEq, Repr

def rootName : String :=
  "root"

/-- The name that a logger is known by. -/
def properName (name : String) : String :=
  if name.isEmpty then rootName else name

/-- The path of what has a name in a directory; the empty path is the working directory. -/
def inDirectory (directory name : String) : String :=
  if directory.isEmpty || directory.endsWith "/" then directory ++ name
  else directory ++ "/" ++ name

/-- The directory of the default log file, for a program that is installed below `root`. -/
def defaultDirectory (root : String) : String :=
  inDirectory root "logs"

/-- The log file when none is named. -/
def defaultPath (root : String) : String :=
  inDirectory (defaultDirectory root) "colorphrase_debug.log"

/-- The destination that a request names. -/
def Request.destination (request : Request) (root : String) : Destination :=
  match request.file with
  | none => .file (defaultPath root)
  | some path =>
    if path == "-" then .output
    else if path.isEmpty then .errors
    else .file path

namespace Registry

variable {ε : Type}

def handlersOf (registry : Registry) (name : String) : List Handler :=
  (registry.handlers.filter (·.1 == name)).map (·.2)

/-- How many silent handlers a logger has. -/
def silentCount (registry : Registry) (name : String) : Nat :=
  (registry.handlersOf name).count .silent

def addHandler (registry : Registry) (name : String) (handler : Handler) : Registry :=
  { registry with handlers := registry.handlers ++ [(name, handler)] }

/-- Set the root up to write all reports to one destination, unless it has a handler. -/
def configure (registry : Registry) (request : Request) (disk : Disk ε) :
    Except ε (Registry × List Event) :=
  if !(registry.handlersOf rootName).isEmpty then .ok (registry, [])
  else
    let destination := request.destination disk.root
    let registry := { registry.addHandler rootName (.writer destination) with threshold := .debug }
    match destination with
    | .output | .errors => .ok (registry, [])
    | .file path => (disk.openFile request.file).map fun _ => (registry, [.created path])

/-- Make a logger; it is returned by its name. The directory of the default log file is made even
when the root needs no destination any more. -/
def make (registry : Registry) (request : Request) (disk : Disk ε) :
    Except ε (String × Registry × List Event) :=
  let name := properName request.name
  if request.enabled then do
    if request.file.isNone then disk.makeDirectory
    return (name, ← registry.configure request disk)
  else if (registry.handlersOf name).contains .silent then .ok (name, registry, [])
  else .ok (name, registry.addHandler name .silent, [])

/-- A text and, on a line of its own, the trace of a report that carries one, of which there is
none to show. -/
def withTrace (traced : Bool) (text : String) : String :=
  if !traced then text
  else if text.endsWith "\n" then text ++ "NoneType: None"
  else text ++ "\nNoneType: None"

/-- The line that a destination gets for a report. -/
def line (stamp name : String) (report : Report) (traced : Bool) : String :=
  withTrace traced
    (stamp ++ " - " ++ name ++ " - " ++ report.level.name ++ " - " ++ report.message) ++ "\n"

/-- The handlers that a report to a logger reaches. -/
def reached (registry : Registry) (name : String) : List Handler :=
  if name == rootName then registry.handlersOf rootName
  else registry.handlersOf name ++ registry.handlersOf rootName

/-- Report to a logger at a time. A report that matters and reaches no handler at all is written to
the standard error stream without its circumstances. -/
def report (registry : Registry) (stamp name : String) (report : Report) (traced : Bool) :
    List Event :=
  if report.level.rank < registry.threshold.rank then []
  else
    match registry.reached name with
    | [] =>
      if report.level.rank < Level.warning.rank then []
      else [.wrote .errors (withTrace traced report.message ++ "\n")]
    | handlers =>
      handlers.filterMap fun handler =>
        match handler with
        | .silent => none
        | .writer destination => some (.wrote destination (line stamp name report traced))

end Registry

end TintedText.Log
