/-
**Running scripts.**

A running script has a name, arguments, variables and functions, options, traps and the status of its
last command.  What it does is a sequence of actions on these and on the machine; an action may leave a
loop, a function or the whole script, and it stops where it is when its process is killed.

Variables keep the order in which they were made within each of a few groups that their names decide;
in this order programs are given the exported ones.

Main definitions:

* `LineShell.Machine.Script.Runner`, `LineShell.Machine.Script.Running` — a running script, and the
  machine it runs on;
* `LineShell.Machine.Script.Jump`, `LineShell.Machine.Script.Doing` — how an action is left, and
  actions;
* `LineShell.Machine.Script.Runner.environment` — what programs are given.

Main results:

* `LineShell.Machine.Script.Runner.put_value?` — a variable has the value that it was given.
-/

import LineShell.Machine.Script.Field
import LineShell.Machine.Script.Parser
import LineShell.Machine.Tools

set_option autoImplicit false

namespace LineShell.Machine.Script

/-! ### Variables -/

/-- A variable. -/
structure Variable where
  /-- Its name. -/
  name : List Char
  /-- Its value, if it has one. -/
  value : Option (List Char)
  /-- Whether programs are given it. -/
  exported : Bool
  /-- Whether it cannot be changed. -/
  constant : Bool

/-- What is known of a process that was left to itself. -/
structure Job where
  /-- The place in the table of such processes; the first one has number 1. -/
  slot : Nat
  /-- The number of the process. -/
  id : Nat
  /-- How it ended. -/
  fate : Fate
  /-- Whether it was waited for. -/
  awaited : Bool

/-- A program that was found. -/
structure Found where
  /-- Its name. -/
  name : List Char
  /-- The path at which it was found. -/
  path : List Char
  /-- Whether the working directory has changed since. -/
  doubted : Bool

/-- Where the reading of options stands. -/
structure OptionPlace where
  /-- The number of the next argument. -/
  index : Nat
  /-- The place in the argument before it, if some of that is left. -/
  offset : Option Nat

/-- A running script. -/
structure Runner where
  /-- The name of the script. -/
  name : List Char
  /-- Its arguments. -/
  arguments : List (List Char)
  /-- The place in the arguments where options are read. -/
  place : OptionPlace
  /-- The variables, in the order in which they were made. -/
  bindings : List Variable
  /-- The functions. -/
  functions : List (List Char × Command)
  /-- The programs that were found, the first one first. -/
  found : List Found
  /-- The letters of the options that are set. -/
  options : List Char
  /-- The status of the last command. -/
  status : Int
  /-- The status that the end of a trap, or of the script, brings back. -/
  kept : Option Int
  /-- The status of the last script whose output was used in the current command. -/
  inner : Int
  /-- The actions of the traps by the numbers of their signals; number zero is the end of the script. -/
  traps : List (Nat × List Char)
  /-- The signals that were ignored from the start. -/
  deaf : List Nat
  /-- The processes that were left to themselves, the last one first. -/
  jobs : List Job
  /-- The number of the last process that was left to itself. -/
  background : Option Nat
  /-- The variables to bring back when functions end, those of the innermost first. -/
  frames : List (List (List Char × Option Variable))
  /-- The number of loops around the current command. -/
  loops : Nat
  /-- The number of functions around the current command. -/
  depth : Nat
  /-- The line of the current command. -/
  line : Nat
  /-- The line up to which the script was read. -/
  reach : Nat
  /-- The interpreter's own command that is being carried out. -/
  command : Option (List Char)
  /-- The path of the working directory by which it was reached. -/
  directory : List Char
  /-- The number of the process that began the script. -/
  root : Nat
  /-- Whether output of the current command was lost. -/
  lost : Bool

/-- A running script and its machine. -/
structure Running where
  /-- The script. -/
  runner : Runner
  /-- The machine. -/
  machine : State

namespace Runner

/-- The variable of a name. -/
def binding? (r : Runner) (name : List Char) : Option Variable :=
  r.bindings.find? fun v => v.name == name

/-- The value of a variable. -/
def value? (r : Runner) (name : List Char) : Option (List Char) :=
  (r.binding? name).bind Variable.value

/-- The script with a variable in the place of the one of its name. -/
def put (r : Runner) (v : Variable) : Runner :=
  if (r.binding? v.name).isSome then
    { r with bindings := r.bindings.map fun w => if w.name == v.name then v else w }
  else { r with bindings := r.bindings ++ [v] }

/-- A variable has the value that it was given. -/
theorem put_value? (r : Runner) (v : Variable) : (r.put v).binding? v.name = some v := by
  unfold put binding?
  split
  · next h =>
    rw [Option.isSome_iff_exists] at h
    obtain ⟨w, hw⟩ := h
    generalize r.bindings = vs at *
    induction vs with
    | nil => simp at hw
    | cons x xs ih =>
      simp only [List.map_cons, List.find?_cons]
      by_cases hx : x.name = v.name
      · simp [hx]
      · have hxb : (x.name == v.name) = false := by simpa using hx
        rw [List.find?_cons, hxb] at hw
        simp only [hxb, Bool.false_eq_true, if_false]
        exact ih hw
  · next h =>
    simp only [Option.not_isSome_iff_eq_none] at h
    rw [List.find?_append, h]
    simp

/-- The script without a variable. -/
def remove (r : Runner) (name : List Char) : Runner :=
  { r with bindings := r.bindings.filter fun v => v.name != name }

/-- Whether an option is set. -/
def has (r : Runner) (option : Char) : Bool := r.options.contains option

/-- Whether some trap has an action. -/
def hasTraps (r : Runner) : Bool := r.traps.any fun t => t.2 != []

/-- The first place in the table of processes that is not taken by one that can still be asked for. -/
def freeSlot (r : Runner) : Nat :=
  ((List.range (r.jobs.length + 1)).map (· + 1)).find?
    (fun n => r.jobs.all fun j => j.slot != n || j.awaited) |>.getD (r.jobs.length + 1)

/-- The script without the process in the first place that is not taken any more; each process of its
own that a script starts needs that place. -/
def clearSlot (r : Runner) : Runner :=
  { r with jobs := r.jobs.filter (·.slot != r.freeSlot) }

/-- The group of a name, if there are so many groups. -/
def groupOf (groups : Nat) (name : List Char) : Nat :=
  (name.foldl (fun n c => n + c.toNat) (16 * (name.headD '\x00').toNat)) % groups

/-- Things in the order of the groups of their names. -/
def grouped {α : Type} (groups : Nat) (name : α → List Char) (xs : List α) : List α :=
  (List.range groups).flatMap fun g => xs.filter fun x => groupOf groups (name x) == g

/-- The script with a program among those that were found. -/
def note (r : Runner) (f : Found) : Runner :=
  if r.found.any (·.name == f.name) then
    { r with found := r.found.map fun g => if g.name == f.name then f else g }
  else { r with found := r.found ++ [f] }

/-- The script with a name that no program was found for. -/
def forget (r : Runner) (name : List Char) : Runner :=
  { r with found := r.found.filter (·.name != name) }

/-- The script with doubts about the programs that were found, as its working directory is another
one. -/
def doubtFound (r : Runner) : Runner :=
  { r with found := r.found.map fun f => { f with doubted := true } }

/-- The variables that programs are given, which come in 39 groups. -/
def environment (r : Runner) : List (Bytes × Bytes) :=
  (grouped 39 Variable.name r.bindings).filterMap fun v =>
    if v.exported then v.value.map fun value => (bytesOf v.name, bytesOf value) else none

/-- The paths of the programs that were found, which come in 31 groups; doubts are marked. -/
def foundPaths (r : Runner) : List (List Char) :=
  (grouped 31 Found.name r.found).map fun f => f.path ++ (if f.doubted then ['*'] else [])

/-- The characters at which values are cut. -/
def separators (r : Runner) : List Char := (r.value? "IFS".toList).getD defaultSeparators

end Runner

/-! ### Actions -/

/-- How an action is left before its end. -/
inductive Jump where
  /-- So many loops are left. -/
  | leaveLoops (n : Nat)
  /-- So many loops but one are left, and the last one goes on with its next round. -/
  | nextRound (n : Nat)
  /-- The function, or the script that was read in, is left. -/
  | back
  /-- The script ends because a command says so. -/
  | exit
  /-- The script ends because of an error. -/
  | error
  /-- The script has ended. -/
  | ended
  /-- The process was killed. -/
  | gone
deriving DecidableEq

/-- An action of a running script. -/
abbrev Doing (α : Type) := ExceptT Jump (StateM Running) α

/-- An action on the machine. -/
def onMachine {α : Type} (a : StateM State α) : Doing α := fun r =>
  match a r.machine with
  | (x, m) => (.ok x, { r with machine := m })

/-- A change of the script. -/
def onRunner (f : Runner → Runner) : Doing Unit := modify fun r => { r with runner := f r.runner }

/-- The script. -/
def theRunner : Doing Runner := return (← get).runner

/-- The action and how it was left, if it was. -/
def attempt {α : Type} (a : Doing α) : Doing (Except Jump α) := fun r =>
  match a r with
  | (x, r') => (.ok x, r')

/-- Records the status of a command. -/
def setStatus (status : Int) : Doing Unit := onRunner fun r => { r with status := status }

/-- Nothing goes on once the process was killed. -/
def checkLife : Doing Unit := do
  if !(← get).machine.isRunning then throw .gone

/-- Complains; the complaint names the script, the line and the command. -/
def warn (text : List Char) : Doing Unit := do
  let r ← theRunner
  let command := match r.command with
    | some name => name ++ [':', ' ']
    | none => []
  onMachine (complain r.name ((toString r.line).toList ++ [':', ' '] ++ command ++ text))

/-- Complains, which is an error. -/
def fail {α : Type} (text : List Char) : Doing α := do
  warn text
  setStatus 2
  throw .error

/-- Prints text; what is lost is noted. -/
def print (cs : List Char) : Doing Unit := fun r =>
  if cs = [] then (.ok (), r)
  else
    match write 1 (bytesOf cs) r.machine with
    | (.ok (), m) => (.ok (), { r with machine := m })
    | (.error _, m) => (.ok (), { runner := { r.runner with lost := true }, machine := m })

/-! ### Setting variables -/

/-- The place at which options are read is changed with the variable that tells of it. -/
def noticing (name : List Char) (value : Option (List Char)) (r : Runner) : Runner :=
  if name = "OPTIND".toList then
    { r with place := ⟨max 1 ((value.bind count?).getD 1), none⟩ }
  else if name = "PATH".toList then { r with found := [] }
  else r

/-- The variables that are kept, with what is known of them, when their values are taken away. -/
def lasting : List String := ["IFS", "MAIL", "MAILPATH", "OPTIND", "PATH", "PS1", "PS2", "PS4"]

/-- Gives a variable a value, or takes it away; the variable may become an exported or a constant
one. -/
def setVariable (name : List Char) (value : Option (List Char)) (exported constant : Bool) :
    Doing Unit := do
  if !isName name then fail (name ++ ": bad variable name".toList)
  let r ← theRunner
  let exported := exported || r.has 'a'
  match r.binding? name with
  | some v =>
    if v.constant then fail (name ++ ": is read only".toList)
    let hidden := r.frames.any fun f => f.any fun e => e.1 == name
    let kept := lasting.contains (String.ofList name) || hidden
    if value.isNone && !exported && !constant && !kept then
      onRunner fun r => noticing name value (r.remove name)
    else
      onRunner fun r => noticing name value
        (r.put ⟨name, value, v.exported || exported, constant⟩)
  | none =>
    if value.isSome || exported || constant then
      onRunner fun r => noticing name value (r.put ⟨name, value, exported, constant⟩)

/-- Gives a variable a value. -/
def assign (name value : List Char) : Doing Unit := setVariable name (some value) false false

/-- Makes a variable one of the innermost function's own, with a value if one is given. -/
def makeLocal (name : List Char) (value : Option (List Char)) (exported : Bool) : Doing Unit := do
  if !isName name then fail (name ++ ": bad variable name".toList)
  let old := (← theRunner).binding? name
  onRunner fun r =>
    { r with frames := match r.frames with
        | f :: fs => ((name, old) :: f) :: fs
        | [] => [] }
  match old, value with
  | some _, none => return
  | _, some _ => setVariable name value exported false
  | none, none => onRunner fun r => r.put ⟨name, none, r.has 'a', false⟩

/-- A new function is entered, with variables of its own. -/
def pushFrame : Doing Unit := onRunner fun r => { r with frames := [] :: r.frames }

/-- The innermost function is left, and the variables that it hid come back. -/
def popFrame : Doing Unit := onRunner fun r =>
  match r.frames with
  | [] => r
  | f :: fs =>
    f.foldl (fun r (name, old) =>
      match old with
      | some v => noticing name v.value (r.put v)
      | none => if r.has 'a' then r.put ⟨name, none, true, false⟩ else r.remove name)
      { r with frames := fs }

end LineShell.Machine.Script
