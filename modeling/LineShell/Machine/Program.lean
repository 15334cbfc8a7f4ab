/-
**The program on a machine.**

The acting process carries out what its arguments ask for.  A line or a file is run by a session
without prompts; so is standard input, unless it is a terminal.  At a terminal that it controls the
program catches interrupts, takes its lines from the editor, saves the history when the session ends
and then puts the modes of the terminal back.

Main definitions:

* `LineShell.Machine.carryOut` — a request is carried out, and its exit status is the answer;
* `LineShell.Machine.runProgram` — the program with its arguments.
-/

import LineShell.CommandLine
import LineShell.Machine.Host

set_option autoImplicit false

namespace LineShell.Machine

/-- The settings of a session in the environment of the acting process; a search path that is not
UTF-8 counts as none. -/
def settingsFor (interactive : Bool) (m : State) : Settings where
  interactive := interactive
  path := (m.process.environmentValue "PATH").bind Utf8.decode?

/-- The exit status of a run, whose failure is reported. -/
def conclude (result : Except SessionError Int) (m : State) : Int × State :=
  match result with
  | .ok status => (exitByte status, m)
  | .error cause => (1, host.diagnose (diagnostic cause.message) m)

/-- Runs the lines of a source in a session; the state of the source afterwards is kept. -/
def drive {σ : Type} (settings : Settings) (source : LineSource σ State) (s : σ) (m : State) :
    Int × σ × State :=
  match (Session.start settings m).run host source s with
  | (result, s', session) =>
    match conclude result session.world with
    | (status, m') => (status, s', m')

/-- Runs one line. -/
def runCommand (line : String) (m : State) : Int × State :=
  match Session.executeLine host line (Session.start (settingsFor false m) m) with
  | (.exit status, s) => (exitByte status, s.world)
  | (.proceed, s) => (exitByte s.lastStatus, s.world)

/-- Runs the lines of a file. -/
def runFile (path : String) (m : State) : Int × State :=
  match openAt .toRead (Utf8.encode path) m with
  | (.error e, m') =>
    (1, host.diagnose (diagnostic (path ++ ": " ++ (IoError.system e).message)) m')
  | (.ok descriptor, m') =>
    let settings := settingsFor false m
    match drive settings (scriptLines descriptor settings.lineLimit) (lineBound, []) m' with
    | (status, _, m'') => (status, m''.modifyProcess (·.close descriptor))

/-- The machine whose terminal has given modes. -/
def restoreModes (modes : Modes) (m : State) : State :=
  if m.isAlive then { m with terminal := m.terminal.map ({ · with modes := modes }) } else m

/-- Runs the lines that are typed at a terminal. -/
def runTerminal (t : Terminal) (m : State) : Int × State :=
  if t.controlling then
    let settings := settingsFor true m
    let m := m.modifyProcess ({ · with caught := [Signal.interrupt.number, Signal.quit.number] })
    match drive settings (typedLines settings.lineLimit) (lineBound, [], loadHistory m) m with
    | (status, s, m') => (status, restoreModes t.modes (saveHistory s.2.2 m'))
  else
    (1, host.diagnose
      (diagnostic ("cannot take control of the terminal: " ++ Errno.notTerminal.describe)) m)

/-- Runs the lines of standard input. -/
def runStandardInput (m : State) : Int × State :=
  match m.terminal, m.isTerminal 0 with
  | some t, true => runTerminal t m
  | _, _ =>
    let settings := settingsFor false m
    match drive settings (scriptLines 0 settings.lineLimit) (lineBound, []) m with
    | (status, _, m') => (status, m')

/-- Prints a text. -/
def printOut (text : String) (m : State) : Int × State := (0, (host.write (Utf8.encode text) m).2)

/-- Carries out a request; the exit status is the answer. -/
def carryOut (request : Request) (m : State) : Int × State :=
  match request with
  | .help => printOut helpText m
  | .version => printOut versionText m
  | .command line => runCommand line m
  | .script path => runFile path m
  | .standardInput => runStandardInput m

/-- The program with its arguments: how it ends, and the machine afterwards. -/
def runProgram (arguments : List String) (m : State) : Fate × State :=
  match carryOut (Options.parse arguments).request m with
  | (status, m') => (m'.process.fate.getD (.exited status), m')

end LineShell.Machine
