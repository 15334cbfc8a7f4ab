/-
**Built-in commands.**

Five commands are carried out by the session itself.  Each has a place in a table, a line of
documentation, a least number of arguments and a usage text.  A call by place checks the place
first and the number of arguments next, before anything is written or changed.

Main definitions:

* `LineShell.Builtin`, `LineShell.Builtin.table` — the commands in the order of their places;
* `LineShell.Builtin.lookup` — the place of a name;
* `LineShell.Builtin.invoke` — the call by place;
* `LineShell.Flow` — whether the session goes on afterwards.

Main results:

* `LineShell.Builtin.lookup_eq_some_iff` — the place that a name is found at holds that name.
-/

import LineShell.Host

set_option autoImplicit false

namespace LineShell

/-- What the session does after a command. -/
inductive Flow where
  /-- It takes the next line. -/
  | proceed
  /-- It ends with a status. -/
  | exit (status : Int)
deriving DecidableEq

/-- Why a built-in command failed. -/
inductive BuiltinError where
  /-- Too few arguments. -/
  | usage (text : String)
  /-- The directory cannot become the working directory. -/
  | changeDirectory (directory : String) (cause : IoError)
  /-- The working directory has no path. -/
  | workingDirectory (cause : IoError)
  /-- The table has no such place. -/
  | unknownIndex (index : Nat)
  /-- The output could not be written. -/
  | io (cause : IoError)
deriving DecidableEq

/-- The wording of the error. -/
def BuiltinError.message : BuiltinError → String
  | .usage text => "usage: " ++ text
  | .changeDirectory directory cause => "cd: " ++ directory ++ ": " ++ cause.message
  | .workingDirectory cause => "pwd: " ++ cause.message
  | .unknownIndex index => "unknown built-in index " ++ toString index
  | .io cause => cause.message

/-- A command that the session carries out itself. -/
inductive Builtin where
  /-- The list of commands, under its short name. -/
  | question
  /-- The list of commands. -/
  | help
  /-- The end of the session. -/
  | exit
  /-- The path of the working directory. -/
  | pwd
  /-- A change of the working directory. -/
  | cd
deriving DecidableEq

namespace Builtin

/-- The commands in the order of their places. -/
def table : List Builtin := [.question, .help, .exit, .pwd, .cd]

/-- The name that a line calls the command by. -/
def name : Builtin → String
  | .question => "?"
  | .help => "help"
  | .exit => "exit"
  | .pwd => "pwd"
  | .cd => "cd"

/-- What the command does, in a few words. -/
def documentation : Builtin → String
  | .question | .help => "show this help menu"
  | .exit => "exit the command shell"
  | .pwd => "print the current working directory"
  | .cd => "change the current working directory to the given directory"

/-- The number of arguments that must follow the name. -/
def leastArguments : Builtin → Nat
  | .cd => 1
  | _ => 0

/-- How to call the command. -/
def usage : Builtin → String
  | .cd => "cd <directory>"
  | b => b.name

/-- The place of the command of a name. -/
def lookup (name : String) : Option Nat := table.findIdx? fun b => b.name == name

/-- A name is found at exactly the place that holds it. -/
theorem lookup_eq_some_iff (name : String) (index : Nat) :
    lookup name = some index ↔ ∃ b, table[index]? = some b ∧ b.name = name := by
  constructor
  · intro h
    obtain ⟨hlt, hname, _⟩ := List.findIdx?_eq_some_iff_getElem.1 h
    exact ⟨table[index], List.getElem?_eq_getElem hlt, by simpa using hname⟩
  · rintro ⟨b, hb, rfl⟩
    have : index < 5 := by
      have := (List.getElem?_eq_some_iff.1 hb).1
      simpa [table] using this
    match index, this with
    | 0, _ | 1, _ | 2, _ | 3, _ | 4, _ =>
      simp only [table, List.getElem?_cons_zero, List.getElem?_cons_succ, Option.some.injEq] at hb
      subst hb
      decide

/-- The pieces in which the list of commands is written. -/
def helpPieces : List String := table.flatMap fun b => [b.name, " - ", b.documentation, "\n"]

variable {ω : Type} (host : Host ω)

/-- Writes pieces of text one after the other, up to the first failure. -/
def writePieces : List String → Act ω BuiltinError Unit
  | [] => pure ()
  | piece :: rest => do
    (host.write (Utf8.encode piece)).mapError .io
    writePieces rest

/-- Writes the path of the working directory, with U+FFFD for each malformed piece. -/
def printDirectory : Act ω BuiltinError Unit := do
  match host.workingDirectory (← get) with
  | .error cause => throw (.workingDirectory cause)
  | .ok path => writePieces host [Utf8.decodeLossy path, "\n"]

/-- Makes a directory the working directory. -/
def enterDirectory (directory : String) : Act ω BuiltinError Unit :=
  match CString.ofString directory with
  | .error _ => throw (.changeDirectory directory .nulInPath)
  | .ok path => (host.changeDirectory path).mapError (.changeDirectory directory)

/-- Carries a command out for the tokens of its line. -/
def perform (command : Builtin) (tokens : List String) : Act ω BuiltinError Flow :=
  match command, tokens with
  | .question, _ | .help, _ => do writePieces host helpPieces; return .proceed
  | .exit, _ => return .exit 0
  | .pwd, _ => do printDirectory host; return .proceed
  | .cd, _ :: directory :: _ => do enterDirectory host directory; return .proceed
  | .cd, _ => throw (.usage Builtin.cd.usage)

/-- Calls the command at a place of the table with the tokens of the line, the name included. -/
def invoke (index : Nat) (tokens : List String) : Act ω BuiltinError Flow :=
  match table[index]? with
  | none => throw (.unknownIndex index)
  | some command =>
    if tokens.length - 1 < command.leastArguments then throw (.usage command.usage)
    else perform host command tokens

end Builtin

end LineShell
