import TintedText.ColorArgument
import TintedText.Config

/-!
# Options of the command line

Arguments are first told apart, all of them, into options and others, then worked off from left to
right. A long option may be cut short as long as only one option begins that way, and may carry its
value after an equals sign; the value of a one-letter option may follow it directly, and so may the
letters of further options behind one that takes no value. An argument that names no option but
looks like a negative number or holds a space is a value. Only options and their values are
expected: what is left over is refused in the end.
-/
namespace TintedText.CommandLine

/-- An option that is given or not. -/
inductive Flag where
  | help
  | logging
  deriving DecidableEq, Repr

/-- An option that is followed by a value. -/
inductive Parameter where
  | separator
  | inner
  | outer
  | logFile
  deriving DecidableEq, Repr

inductive Switch where
  | flag (flag : Flag)
  | parameter (parameter : Parameter)
  deriving DecidableEq, Repr

namespace Switch

/-- All options, in the order in which they are listed. -/
def all : List Switch :=
  [flag .help, parameter .separator, parameter .inner, parameter .outer, flag .logging,
   parameter .logFile]

def spellings : Switch → List (List Char)
  | flag .help => ["-h".toList, "--help".toList]
  | flag .logging => ["--enable-logging".toList]
  | parameter .separator => ["-s".toList, "--separator".toList]
  | parameter .inner => ["--inner".toList]
  | parameter .outer => ["--outer".toList]
  | parameter .logFile => ["--log-file".toList]

/-- The option as messages name it. -/
def title (switch : Switch) : String :=
  "/".intercalate (switch.spellings.map String.ofList)

def table : List (List Char × Switch) :=
  all.flatMap fun switch => switch.spellings.map (·, switch)

def ofLetter? (letter : Char) : Option Switch :=
  table.lookup ['-', letter]

end Switch

/-- What is asked for on the command line. The values are checked when a configuration is made. -/
structure Options where
  separator : Value := .text ['<', '>']
  inner : Value := .int Argb.red.toInt
  outer : Value := .int Argb.gray.toInt
  logging : Bool := false
  logFile : Option String := none

inductive UsageError where
  /-- More than one option begins with these characters. -/
  | ambiguous (argument : List Char) (candidates : List (List Char))
  | missingValue (parameter : Parameter)
  /-- The option takes no value. -/
  | needlessValue (flag : Flag) (value : List Char)
  | badColor (parameter : Parameter) (error : NotAColor)
  | unrecognized (arguments : List (List Char))

def UsageError.message : UsageError → String
  | ambiguous argument candidates =>
    "ambiguous option: " ++ String.ofList argument ++ " could match " ++
      ", ".intercalate (candidates.map String.ofList)
  | missingValue parameter =>
    "argument " ++ (Switch.parameter parameter).title ++ ": expected one argument"
  | needlessValue flag value =>
    "argument " ++ (Switch.flag flag).title ++ ": ignored explicit argument " ++ Text.quoted value
  | badColor parameter error =>
    "argument " ++ (Switch.parameter parameter).title ++ ": " ++ error.message
  | unrecognized arguments =>
    "unrecognized arguments: " ++ " ".intercalate (arguments.map String.ofList)

/-- How reading the command line ends when no session is to be held. -/
inductive Stop where
  | help
  | usage (error : UsageError)

/-- An option as an argument calls it, and the value attached to it. -/
structure Call where
  spelling : List Char
  switch : Switch
  attached : Option (List Char)
  deriving DecidableEq, Repr

/-- The option is called by a dash and a letter. -/
def Call.isLetter (call : Call) : Bool :=
  call.spelling.length == 2

inductive Argument where
  /-- Not an option. -/
  | value
  /-- Two dashes; after them there are no options. -/
  | dashes
  | option (call : Call)
  /-- Has the form of an option, and there is none of this name. -/
  | unknown
  deriving DecidableEq, Repr

/-- The part before the first equals sign and the part after it. -/
def splitEquals (argument : List Char) : List Char × Option (List Char) :=
  match argument.dropWhile (· != '=') with
  | [] => (argument, none)
  | _ :: value => (argument.takeWhile (· != '='), some value)

/-- The readings of an argument whose option is cut short or has its value attached. -/
def readings (argument : List Char) : List Call :=
  match argument with
  | '-' :: '-' :: _ =>
    let (start, attached) := splitEquals argument
    Switch.table.filterMap fun (spelling, switch) =>
      if start.isPrefixOf spelling then some ⟨spelling, switch, attached⟩ else none
  | _ =>
    Switch.table.filterMap fun (spelling, switch) =>
      if spelling == argument.take 2 then some ⟨spelling, switch, some (argument.drop 2)⟩
      else if argument.isPrefixOf spelling then some ⟨spelling, switch, none⟩
      else none

/-- A run of at least one decimal digit. -/
def isNumeral (text : List Char) : Bool :=
  !text.isEmpty && text.all fun c => (Text.decimal? c).isSome

/-- A minus sign before a number with digits after its point, or before a whole number. -/
def isNegativeNumber : List Char → Bool
  | '-' :: rest =>
    let rest := if rest.getLast? = some '\n' then rest.dropLast else rest
    isNumeral rest ||
      match rest.dropWhile (· != '.') with
      | _ :: digits => isNumeral digits && (rest.takeWhile (· != '.')).all (isNumeral [·])
      | [] => false
  | _ => false

/-- Tell what an argument other than two dashes is. -/
def classify (argument : List Char) : Except UsageError Argument :=
  match argument with
  | '-' :: _ :: _ =>
    match Switch.table.lookup argument with
    | some switch => .ok (.option ⟨argument, switch, none⟩)
    | none =>
      let (start, attached) := splitEquals argument
      match attached.isSome, Switch.table.lookup start with
      | true, some switch => .ok (.option ⟨start, switch, attached⟩)
      | _, _ =>
        match readings argument with
        | [] =>
          if isNegativeNumber argument || argument.contains ' ' then .ok .value else .ok .unknown
        | [call] => .ok (.option call)
        | several => .error (.ambiguous argument (several.map (·.spelling)))
  | _ => .ok .value

def classifyAll : List (List Char) → Except UsageError (List (List Char × Argument))
  | [] => .ok []
  | argument :: rest =>
    if argument = ['-', '-'] then
      .ok ((argument, .dashes) :: rest.map (·, .value))
    else do
      let kind ← classify argument
      return (argument, kind) :: (← classifyAll rest)

/-- What an argument asks for. -/
inductive Setting where
  | on (flag : Flag)
  | set (parameter : Parameter) (value : List Char)
  deriving DecidableEq, Repr

/-- What one argument asks for, and how many of the arguments behind it belong to it. -/
structure Demand where
  settings : List Setting
  used : Nat
  deriving DecidableEq, Repr

namespace Switch

/-- The demand of an option that nothing is attached to: its value is the next argument. -/
def alone (next : List (List Char × Argument)) : Switch → Except UsageError Demand
  | flag named => .ok ⟨[.on named], 0⟩
  | parameter named =>
    match next with
    | (value, .value) :: _ => .ok ⟨[.set named value], 1⟩
    | _ => .error (.missingValue named)

/-- The demand of a one-letter option with characters attached: they are its value if it takes one,
else the first of them is the letter of another option. -/
def cluster (next : List (List Char × Argument)) : Switch → List Char → Except UsageError Demand
  | parameter named, value => .ok ⟨[.set named value], 0⟩
  | flag named, [] => .error (.needlessValue named [])
  | flag named, letter :: more =>
    match ofLetter? letter with
    | none => .error (.needlessValue named (letter :: more))
    | some switch => do
      let demand ← if more.isEmpty then switch.alone next else cluster next switch more
      return { demand with settings := .on named :: demand.settings }

end Switch

/-- The demand of an option as it is called, `next` being the arguments behind it. -/
def Call.demand (next : List (List Char × Argument)) (call : Call) : Except UsageError Demand :=
  match call.attached, call.switch with
  | none, switch => switch.alone next
  | some value, .parameter parameter => .ok ⟨[.set parameter value], 0⟩
  | some value, .flag flag =>
    if call.isLetter then (Switch.flag flag).cluster next value
    else .error (.needlessValue flag value)

/-- Two dashes in the place of a value are taken away, and no value is left. -/
def isNoValue (value : List Char) : Bool :=
  value == ['-', '-']

def colorValue (parameter : Parameter) (value : List Char) : Except UsageError Value :=
  if isNoValue value then .ok (.list [])
  else ((ColorArgument.read value).map .int).mapError (.badColor parameter)

def Options.set (options : Options) (value : List Char) :
    Parameter → Except UsageError Options
  | .separator =>
    .ok { options with separator := if isNoValue value then .list [] else .text value }
  | .inner => return { options with inner := ← colorValue .inner value }
  | .outer => return { options with outer := ← colorValue .outer value }
  | .logFile =>
    .ok { options with logFile := some (if isNoValue value then "" else String.ofList value) }

def Options.after (options : Options) : Setting → Except Stop Options
  | .on .help => .error .help
  | .on .logging => .ok { options with logging := true }
  | .set parameter value => (options.set value parameter).mapError .usage

/-- Work off the arguments but the first `skip`, which have been used; `extra` are those that
nothing is known to do with, last one first. -/
def consume (options : Options) (extra : List (List Char)) (skip : Nat) :
    List (List Char × Argument) → Except Stop Options
  | [] => if extra.isEmpty then .ok options else .error (.usage (.unrecognized extra.reverse))
  | (argument, kind) :: rest =>
    match skip, kind with
    | skip + 1, _ => consume options extra skip rest
    | 0, .option call =>
      match call.demand rest with
      | .error error => .error (.usage error)
      | .ok demand =>
        match demand.settings.foldlM Options.after options with
        | .error stop => .error stop
        | .ok options => consume options extra demand.used rest
    | 0, _ => consume options (argument :: extra) 0 rest

def parse (arguments : List (List Char)) : Except Stop Options :=
  match classifyAll arguments with
  | .error error => .error (.usage error)
  | .ok arguments => consume {} [] 0 arguments

/-- The configuration that the options ask for. -/
def Options.config (options : Options) : Except ConfigError Config :=
  Config.ofFields [(Config.Field.separator.name, options.separator),
    (Config.Field.inner.name, options.inner), (Config.Field.outer.name, options.outer)]

end TintedText.CommandLine
