import TintedText.Log.Registry

/-!
# Log files in a file tree

A path is read from the working directory or from the root. Empty steps and single dots say nothing;
two dots take back the step before them, and where there is none they lead one directory up. Only
then is the path followed from the root: through directories, to a file that is there or that can be
made in the last of them. The tree is any one; `Tree.usual` is what lies around a fresh working
directory on a usual system.
-/
namespace TintedText.Log

/-- Directories and files; a place is called by the names on the way to it from the root. -/
structure Tree where
  workingDirectory : List String
  isDirectory : List String → Bool
  isFile : List String → Bool
  /-- No file can be made in the directory. -/
  isClosed : List String → Bool

/-- A path without dots. -/
structure Path where
  /-- The path starts at the root. -/
  absolute : Bool
  /-- How many directories the path goes up from the working directory first. -/
  above : Nat := 0
  steps : List String := []
  deriving DecidableEq, Repr

inductive PathError where
  /-- A step leads through a directory that does not exist. -/
  | noDirectory
  /-- A step leads through a file. -/
  | notDirectory
  /-- The path leads to a directory. -/
  | isDirectory
  /-- The path or a step of it has too many bytes. -/
  | tooLong
  /-- A step holds the null character. -/
  | nullCharacter
  deriving DecidableEq, Repr

def PathError.message : PathError → String
  | noDirectory => "no such file or directory"
  | notDirectory => "not a directory"
  | isDirectory => "is a directory"
  | tooLong => "file name too long"
  | nullCharacter => "embedded null byte"

namespace Path

/-- The path one step on. -/
def step (path : Path) (name : String) : Path :=
  if name.isEmpty || name == "." then path
  else if name != ".." then { path with steps := path.steps ++ [name] }
  else if !path.steps.isEmpty then { path with steps := path.steps.dropLast }
  else if path.absolute then path
  else { path with above := path.above + 1 }

def ofString (text : String) : Path :=
  (text.splitOn "/").foldl step { absolute := text.startsWith "/" }

/-- The path as a text, dots only where it leads up. -/
def toString (path : Path) : String :=
  (if path.absolute then "/" else String.join (List.replicate path.above "../")) ++
    "/".intercalate path.steps

/-- The path stays in the working directory. -/
def isLocal (path : Path) : Bool :=
  !path.absolute && path.above == 0

/-- The steps from the root. -/
def fromRoot (tree : Tree) (path : Path) : List String :=
  if path.absolute then path.steps
  else
    let outer := tree.workingDirectory
    outer.take (outer.length - path.above) ++ path.steps

/-- The most bytes of a path from the root. -/
def maxBytes : Nat := 4095

/-- The most bytes of one step. -/
def maxStepBytes : Nat := 255

/-- How many bytes the path has from the root, a slash before each step. -/
def byteSize (tree : Tree) (path : Path) : Nat :=
  (path.fromRoot tree).foldl (fun size step => size + step.utf8ByteSize + 1) 0

/-- Follow steps from a directory to a file. -/
def follow (tree : Tree) (directory : List String) : List String → Except PathError Unit
  | [] => .error .isDirectory
  | step :: rest =>
    let place := directory ++ [step]
    if maxStepBytes < step.utf8ByteSize then .error .tooLong
    else if tree.isDirectory place then follow tree place rest
    else if tree.isFile place then
      if rest.isEmpty then .ok () else .error .notDirectory
    else if rest.isEmpty && !tree.isClosed directory then .ok ()
    else .error .noDirectory

/-- A file can be written at the path. -/
def check (tree : Tree) (path : Path) : Except PathError Unit :=
  if path.steps.any (·.contains '\x00') then .error .nullCharacter
  else if maxBytes < path.byteSize tree then .error .tooLong
  else follow tree [] (path.fromRoot tree)

end Path

inductive LogError where
  /-- There is no file to be written at the path of the log file. -/
  | unusable (path : String) (error : PathError)
  /-- The directory of the default log file is a file. -/
  | directoryTaken
  deriving DecidableEq, Repr

def LogError.message : LogError → String
  | unusable _ error => error.message
  | directoryTaken => defaultDirectory "" ++ " is not a directory"

/-- The disk of a tree in whose working directory the program is installed, once some log files have
been made. -/
def Disk.ofTree (tree : Tree) (events : List Event) : Disk LogError where
  root := ""
  makeDirectory :=
    let taken := (Path.ofString (defaultDirectory "")).fromRoot tree
    let made := events.any fun event =>
      match event with
      | .created path => (Path.ofString path).fromRoot tree == taken
      | .wrote _ _ => false
    if made || tree.isFile taken then .error .directoryTaken else .ok ()
  openFile
    | none => .ok ()
    | some path => ((Path.ofString path).check tree).mapError (.unusable path)

namespace Tree

/-- Names of directories at the root, each with the directories in it. -/
def directories : List (String × List String) :=
  [("bin", []), ("boot", []), ("dev", ["fd", "mqueue", "pts", "shm"]),
   ("etc", ["alternatives", "apt", "cron.d", "cron.daily", "default", "dpkg", "init.d", "opt",
     "pam.d", "profile.d", "security", "skel", "ssl", "systemd", "terminfo"]),
   ("home", []), ("lib", []), ("lib64", []), ("media", []), ("mnt", []), ("opt", []),
   ("proc", ["1", "bus", "driver", "fs", "irq", "net", "self", "sys", "thread-self", "tty"]),
   ("root", []), ("run", ["lock"]), ("sbin", []), ("srv", []),
   ("sys", ["block", "bus", "class", "dev", "devices", "firmware", "fs", "kernel", "module",
     "power"]),
   ("tmp", []),
   ("usr", ["bin", "games", "include", "lib", "lib64", "libexec", "local", "sbin", "share", "src"]),
   ("var", ["backups", "cache", "lib", "local", "lock", "log", "mail", "opt", "run", "spool",
     "tmp"])]

def deepDirectories : List (List String) :=
  ["bin", "etc", "games", "include", "lib", "man", "sbin", "share", "src"].map
      (["usr", "local", ·]) ++
    ["doc", "info", "locale", "man", "misc", "zoneinfo"].map (["usr", "share", ·]) ++
    [["etc", "ssl", "certs"], ["etc", "ssl", "private"], ["var", "lib", "apt"],
     ["var", "lib", "dpkg"], ["var", "cache", "apt"], ["var", "log", "apt"],
     ["proc", "self", "fd"], ["proc", "self", "task"], ["proc", "sys", "kernel"]]

/-- Directories with the names of files in them. -/
def files : List (String × List String) :=
  [("bin", ["bash", "cat", "echo", "false", "ls", "sh", "true"]),
   ("dev", ["console", "full", "null", "ptmx", "random", "stderr", "stdin", "stdout", "tty",
     "urandom", "zero"]),
   ("etc", ["fstab", "group", "hostname", "hosts", "issue", "os-release", "passwd", "profile",
     "resolv.conf", "shadow", "shells"]),
   ("proc", ["cmdline", "cpuinfo", "meminfo", "mounts", "stat", "uptime", "version"])]

def deepFiles : List (List String) :=
  ["bash", "cat", "echo", "env", "false", "ls", "sh", "true"].map (["usr", "bin", ·])

/-- What lies around a fresh working directory among the temporary files. Nothing depends on the
name of the latter but for the name's length. -/
def usual : Tree where
  workingDirectory := ["tmp", "colorphrase"]
  isDirectory place :=
    place.isPrefixOf ["tmp", "colorphrase"] || deepDirectories.contains place ||
      match place with
      | [name] => (directories.lookup name).isSome
      | [outer, inner] => ((directories.lookup outer).getD []).contains inner
      | _ => false
  isFile place :=
    deepFiles.contains place ||
      match place with
      | [outer, name] => ((files.lookup outer).getD []).contains name
      | _ => false
  isClosed place := place.head? == some "proc"

end Tree

end TintedText.Log
