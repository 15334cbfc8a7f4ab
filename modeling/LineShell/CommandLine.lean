/-
**The command line.**

The program takes its commands from standard input, from a file, or from its own arguments: all that
follows `-c`.  Words before that may ask for help or for the version.  A word that begins with a dash
and is no option is passed over, and so is a second file.

Main definitions:

* `LineShell.Options`, `LineShell.Options.parse` — what the arguments say;
* `LineShell.Request`, `LineShell.Options.request` — what is to be done;
* `LineShell.helpText`, `LineShell.versionText` — what is printed for help and version;
* `LineShell.exitByte` — the exit status of a session's status.

Main results:

* `LineShell.exitByte_of_lt` — a status below 256 is the exit status itself.
-/

import LineShell.Session

set_option autoImplicit false

namespace LineShell

/-- The version of the program. -/
def version : String := "0.1.0"

/-- What the arguments say. -/
structure Options where
  /-- The line to run. -/
  command : Option String := none
  /-- The file to run. -/
  script : Option String := none
  /-- Whether help is wanted. -/
  help : Bool := false
  /-- Whether the version is wanted. -/
  version : Bool := false
  /-- Whether every step is to be logged. -/
  trace : Bool := false
deriving DecidableEq

namespace Options

/-- The options after one argument that is not `-c`. -/
def addWord (o : Options) (word : String) : Options :=
  if word = "--trace" then { o with trace := true }
  else if word = "--help" ∨ word = "-h" then { o with help := true }
  else if word = "--version" ∨ word = "-V" then { o with version := true }
  else if word.toList.head? = some '-' ∨ o.script.isSome = true then o
  else { o with script := some word }

/-- The options after further arguments; what follows `-c` is the line to run, unless nothing
does. -/
def addAll (o : Options) : List String → Options
  | [] => o
  | word :: rest =>
    if word = "-c" then
      match rest with
      | [] => o
      | _ :: _ => { o with command := some (" ".intercalate rest) }
    else (o.addWord word).addAll rest

/-- What the arguments behind the program's name say. -/
def parse (arguments : List String) : Options := ({} : Options).addAll arguments

end Options

/-- What is to be done. -/
inductive Request where
  /-- Print the help text. -/
  | help
  /-- Print the version. -/
  | version
  /-- Run one line. -/
  | command (line : String)
  /-- Run the lines of a file. -/
  | script (path : String)
  /-- Run the lines of standard input. -/
  | standardInput
deriving DecidableEq

/-- What is to be done: help goes before the version, and a line before a file. -/
def Options.request (o : Options) : Request :=
  if o.help then .help
  else if o.version then .version
  else
    match o.command, o.script with
    | some line, _ => .command line
    | none, some path => .script path
    | none, none => .standardInput

/-- What is printed for help. -/
def helpText : String :=
  programName ++ " " ++ version ++ " - a minimal command interpreter

USAGE:
    minish                  Read commands from standard input
    minish <script>         Read commands from a file
    minish -c <command>     Execute a single command
    minish --trace          Log every pipeline step to stderr
    minish --help           Show this help message
    minish --version        Show version

SYNTAX:
    program arg ...         Run a program found on PATH (or by path)
    \"a b\" 'c d'             Quoted words keep their spaces
    prog > file             Send standard output to file (truncates)
    prog < file             Read standard input from file

BUILT-INS:
    ? / help                Show the built-in commands
    exit                    Exit the interpreter
    pwd                     Print the current working directory
    cd <directory>          Change the current working directory

ENVIRONMENT:
    PATH                    Directories searched for programs
    MINISH_LOG              Log filter (default: warn)
    HOME                    Location of ~/.minish_history
"

/-- What is printed for the version. -/
def versionText : String := programName ++ " " ++ version ++ "\n"

/-- The exit status of the program for the status of its session: eight bits of it. -/
def exitByte (status : Int) : Int := status % 256

theorem exitByte_of_lt {status : Int} (h0 : 0 ≤ status) (h : status < 256) :
    exitByte status = status := Int.emod_eq_of_lt h0 h

end LineShell
