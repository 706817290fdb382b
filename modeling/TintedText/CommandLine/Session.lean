import TintedText.Console
import TintedText.CommandLine.Options
import TintedText.Log.Logbook
import TintedText.Prompt

/-!
# A session at the command line

The options are read, logging is set up, the configuration is checked, a line of advice is printed,
and then patterns are asked for until there are no more. Each pattern is answered by one printed
line, or, when it cannot be formatted, by one report to the log; an interrupt ends the session with
a farewell. What the session does is a list of acts, and what these write is a list of events. It
stands on a system, which has the disk for its log file and the console that it prints to.
-/
namespace TintedText.CommandLine

/-- What a session stands on; `ε` is why the disk refuses a log file. -/
structure System (ε : Type) where
  disk : Log.Disk ε
  console : Console

variable {ε : Type}

inductive Act where
  /-- Print a formatted pattern. -/
  | print (styled : StyledText)
  /-- Report to a logger. -/
  | report (logger : String) (report : Log.Report)
  /-- Take leave after an interrupt. -/
  | farewell
  deriving DecidableEq, Repr

inductive Ending where
  | exhausted
  | interrupted
  /-- A failure that is not the pattern's fault stops the session. -/
  | failed (error : RenderError)
  deriving DecidableEq, Repr

def sessionLogger : String :=
  "colorphrase.demo"

/-- The logger that the validator of the prompt reports to. -/
def validatorLogger : String :=
  "colorphrase.phrase"

/-- What is reported of a pattern that could not be formatted. -/
def complaint (pattern : List Char) (error : PatternError) : Log.Report :=
  ⟨.error, "Could not format " ++ Text.quoted pattern ++ ": " ++ error.message⟩

/-- Answer one pattern; a failure that is not the pattern's fault is returned. -/
def answer (config : Config) (pattern : List Char) : List Act × Option RenderError :=
  let formatting := (Prompt.phrase config pattern).build
  let reports := formatting.reports.map (.report sessionLogger)
  match formatting.outcome with
  | .ok styled => (reports ++ [.print styled], none)
  | .error (.pattern error) => (reports ++ [.report sessionLogger (complaint pattern error)], none)
  | .error (.render error) => (reports, some error)

/-- Answer prompt after prompt. -/
def converse (config : Config) : List Prompt.Asked → List Act × Ending
  | [] => ([], .exhausted)
  | asked :: rest =>
    let examined := asked.reports.map (.report validatorLogger)
    match asked.delivery with
    | .exhausted => (examined, .exhausted)
    | .interrupted => (examined ++ [.farewell], .interrupted)
    | .pattern text =>
      match answer config text with
      | (acts, some error) => (examined ++ acts, .failed error)
      | (acts, none) =>
        let (others, ending) := converse config rest
        (examined ++ acts ++ others, ending)

/-- The ending, unless there may be further entries. -/
def Ending.final? : Ending → Option Ending
  | exhausted => none
  | ending => some ending

/-- What becomes of one entry: it is refused, or answered, and it may end the session. -/
structure Turn where
  rejected : List Prompt.Rejection
  acts : List Act
  ending : Option Ending

/-- Take one entry. -/
def turn (config : Config) (validated : Bool) (entry : Prompt.Entry) : Turn :=
  let asked := (Prompt.ask config validated [entry]).1
  let (acts, ending) := converse config [asked]
  ⟨asked.rejected, acts, ending.final?⟩

/-- What an act writes. -/
def Act.events (console : Console) (registry : Log.Registry) (stamp : String) :
    Act → List Log.Event
  | .print styled => [.wrote .output (String.ofList (Ansi.printed styled console))]
  | .report logger content => registry.report stamp logger content false
  | .farewell => [.wrote .output "\nExiting...\n"]

/-- The codes of pictures that the advice may hold, with the pictures. -/
def pictures : List (String × List Char) :=
  [("china", [Char.ofNat 0x1F1E8, Char.ofNat 0x1F1F3])]

/-- The picture of a code, or the code between its colons. -/
def picture (code : List Char) : List Char :=
  (pictures.lookup (String.ofList (code.map Char.toLower))).getD (':' :: code ++ [':'])

/-- Replace the codes of pictures, each between two colons. -/
def withPictures : List Char → List Char
  | [] => []
  | c :: rest =>
    let code := rest.takeWhile fun next => next != ':' && !Text.isBlank next
    if c = ':' ∧ (rest.drop code.length).head? = some ':' then
      picture code ++ withPictures (rest.drop (code.length + 1))
    else c :: withPictures rest
termination_by text => text.length
decreasing_by all_goals simp only [List.length_drop, List.length_cons]; omega

def advice (config : Config) : List Char :=
  let left := config.separator.left
  let right := config.separator.right
  withPictures ("Type a pattern, e.g. I'm".toList ++ left :: "Chinese".toList ++
    right :: ",I love ".toList ++ left :: "China".toList ++ [right])

def usage : String :=
  "usage: demo.py [-h] [-s SEPARATOR] [--inner INNER] [--outer OUTER] [--enable-logging] " ++
    "[--log-file LOG_FILE]\n"

def help : String :=
  usage ++ "\nColorPhrase demo\n\noptions:\n" ++
    "  -h, --help            show this help message and exit\n" ++
    "  -s SEPARATOR, --separator SEPARATOR\n" ++
    "                        One or two delimiter characters (default: <>)\n" ++
    "  --inner INNER         ARGB color inside the delimiters\n" ++
    "  --outer OUTER         ARGB color outside the delimiters\n" ++
    "  --enable-logging      Enable debug logging\n" ++
    "  --log-file LOG_FILE   Log file path (use \"-\" for stdout)\n"

/-- Why the program breaks off. -/
inductive Failure (ε : Type) where
  /-- Logging cannot be set up. -/
  | logging (error : ε)
  /-- A message cannot be shown. -/
  | unwritable (error : Text.Unwritable)
  deriving DecidableEq, Repr

/-- What comes of the command line, with the events up to then. -/
inductive Opening (ε : Type) where
  /-- A session is to be held. -/
  | session (config : Config) (registry : Log.Registry) (events : List Log.Event)
  /-- There is none, and the program exits with a code. -/
  | exit (code : Nat) (events : List Log.Event)
  | failure (failure : Failure ε)

def refuse (message : String) (events : List Log.Event) : Opening ε :=
  .exit 2 (events ++ [.wrote .errors (usage ++ "demo.py: error: " ++ message ++ "\n")])

/-- The loggers there are before the command line is read. -/
def initialRegistry : Log.Registry :=
  ({} : Log.Registry).addHandler validatorLogger .silent

/-- Open a session for a command line. Logging is set up before the configuration is checked. -/
def start (system : System ε) (arguments : List (List Char)) : Opening ε :=
  match parse arguments with
  | .error .help => .exit 0 [.wrote .output help]
  | .error (.usage error) => refuse error.message []
  | .ok options =>
    match initialRegistry.make ⟨sessionLogger, options.logging, options.logFile⟩ system.disk with
    | .error error => .failure (.logging error)
    | .ok (_, registry, events) =>
      match options.config with
      | .error error =>
        match error.shown with
        | .error error => .failure (.unwritable error)
        | .ok message => refuse message events
      | .ok config =>
        let printed := Ansi.render system.console (.ofText (advice config)) ++ ['\n']
        .session config registry (events ++ [.wrote .output (String.ofList printed)])

/-- A whole run of the program. -/
structure Run where
  code : Nat
  events : List Log.Event
  rejected : List Prompt.Rejection := []

def Ending.code : Ending → Nat
  | exhausted | interrupted => 0
  | failed _ => 1

/-- Run the program on a command line and the entries that are going to be typed. -/
def runOn (system : System ε) (stamp : String) (arguments : List (List Char)) (validated : Bool)
    (entries : List Prompt.Entry) : Except (Failure ε) Run :=
  match start system arguments with
  | .failure error => .error error
  | .exit code events => .ok { code, events }
  | .session config registry events =>
    let prompts := Prompt.askAll config validated entries
    let (acts, ending) := converse config prompts
    .ok {
      code := ending.code
      events := events ++ acts.flatMap (Act.events system.console registry stamp)
      rejected := prompts.flatMap (·.rejected) }

/-- Run the program in the file tree of a usual system and on a wide console. -/
def run (stamp : String) (arguments : List (List Char)) (validated : Bool)
    (entries : List Prompt.Entry) : Except (Failure Log.LogError) Run :=
  runOn ⟨.ofTree .usual [], .wide⟩ stamp arguments validated entries

end TintedText.CommandLine
