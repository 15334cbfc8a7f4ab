/-
**Running programs on a machine.**

A process becomes a program by a path and runs to its end before anything else happens.  The
interpreter of scripts runs the programs that its commands name in children of its own, so running
programs and carrying out commands depend on each other; both are given fuel.

A command is carried out where it stands unless it has to have a process of its own: a program, a
script between parentheses, between bars or left to itself, and one whose output is used.  The last
command of such a process takes its place.  A pipe holds all that is written into it until it is read.

Main definitions:

* `LineShell.Machine.redirectTo` — a redirection of a command;
* `LineShell.Machine.startProgram` — a process becomes a program and runs to its end;
* `LineShell.Machine.evaluate` — a command of a script is carried out;
* `LineShell.Machine.start` — a child of the session becomes a program.
-/

import LineShell.Machine.Image
import LineShell.Machine.Script.Commands
import LineShell.Machine.Script.Expansion

set_option autoImplicit false

namespace LineShell.Machine

open Script

/-! ### Redirections of commands -/

/-- A redirection whose target is known. -/
inductive Rebinding where
  /-- A file. -/
  | file (descriptor : Nat) (kind : RedirectKind) (path : List Char)
  /-- A copy of another descriptor, or none. -/
  | copy (descriptor : Nat) (source : Option Nat)
  /-- A text, which is expanded only when it is needed. -/
  | text (descriptor : Nat) (content : Word)

/-- The descriptor that is changed. -/
def Rebinding.descriptor : Rebinding → Nat
  | .file d _ _ | .copy d _ | .text d _ => d

/-- The permission bits of what a script creates, before some are kept from it. -/
def scriptMode : Nat := 0o666

/-- How a redirection opens its file. -/
def accessOf : RedirectKind → Access
  | .write | .overwrite => .toReplace scriptMode
  | .append => .toExtend scriptMode
  | .change => .toChange scriptMode
  | _ => .toRead

/-- A descriptor becomes the newest open file in the place of another one. -/
def moveDescriptor (source target : Nat) (m : State) : State :=
  if source = target then m
  else
    match m.process.openFile source with
    | some n => m.modifyProcess fun p => (p.bind target n).close source
    | none => m

/-- An open file more for the acting process that belongs to no descriptor yet, and its number. -/
def addFile (file : OpenFile) (m : State) : Nat × State :=
  (m.files.size, { m with files := m.files.push file })

/-- A pipe that holds some bytes: the numbers of the open files for reading and for writing. -/
def addPipe (held : Bytes) (m : State) : (Nat × Nat) × State :=
  let (node, tree) := m.tree.addNode (.fifo held)
  let (reading, m) := addFile ⟨node, 0, true, false, false, false⟩ { m with tree := tree }
  let (writing, m) := addFile ⟨node, 0, false, true, false, false⟩ m
  ((reading, writing), m)

/-- Whether a redirection would replace a file. -/
def replaces (kind : RedirectKind) (path : List Char) (m : State) : Bool :=
  kind == .write &&
    match m.locate (bytesOf path) with
    | .ok n => match m.tree.node n with | .file _ _ => true | _ => false
    | .error _ => false

/-- A descriptor comes to stand for a file; the text of the failure if it cannot.  Files are not
replaced if `protecting`. -/
def bindFile (protecting : Bool) (descriptor : Nat) (kind : RedirectKind) (path : List Char)
    (m : State) : Option (List Char) × State :=
  let access := accessOf kind
  let complaint := fun (e : Errno) =>
    if access.created.isSome then
      "cannot create ".toList ++ path ++ ": ".toList ++ reasonOr "Directory nonexistent" e
    else "cannot open ".toList ++ path ++ ": ".toList ++ reasonOr "No such file" e
  if protecting && replaces kind path m then (some (complaint Errno.exists_), m)
  else
    match openAt access (bytesOf path) m with
    | (.error e, m') => (some (complaint e), m')
    | (.ok d, m') => (none, moveDescriptor d descriptor m')

/-- A descriptor becomes a copy of another one; the text of the failure if that is not open. -/
def bindCopy (descriptor source : Nat) (m : State) : Option (List Char) × State :=
  match m.process.openFile source with
  | some n => (none, m.modifyProcess (·.bind descriptor n))
  | none => (some ((toString source).toList ++ ": ".toList ++ reason Errno.badDescriptor), m)

/-- Carries a redirection out; whether it succeeds.  A failure is complained of; that of a copy leaves
the descriptor closed if it was put `aside`, and that of a text leaves the pipe open that was to hold
it.  `output` runs scripts. -/
def redirectTo (output : InnerScript → Doing (List Char)) (aside : Bool) (b : Rebinding) :
    Doing Bool := do
  let judge := fun (failure : Option (List Char)) => do
    match failure with
    | none => return true
    | some text => do
      warn text
      return false
  match b with
  | .file descriptor kind path => do
    let protecting := (← theRunner).has 'C'
    judge (← onMachine (bindFile protecting descriptor kind path))
  | .copy descriptor none => do
    onMachine (modify fun m => m.modifyProcess (·.close descriptor))
    return true
  | .copy descriptor (some source) =>
    if source = descriptor then return true
    else
      match ← onMachine (bindCopy descriptor source) with
      | some text =>
        if aside then onMachine (modify fun m => m.modifyProcess (·.close descriptor))
        judge (some text)
      | none => return true
  | .text descriptor content => do
    match ← attempt (partsOfPieces output .none content) with
    | .error .error => do
      let (reading, writing) ← onMachine (addPipe [])
      onMachine (modify fun m => m.modifyProcess (·.bindFree reading |>.bindFree writing))
      return false
    | .error j => throw j
    | .ok parts => do
      let text := textOfGlyphs (wholeOf parts)
      let (reading, _) ← onMachine (addPipe (bytesOf text))
      onMachine (modify fun m => m.modifyProcess (·.bind descriptor reading))
      return true

/-- Whether a redirection changes nothing. -/
def Rebinding.isIdle : Rebinding → Bool
  | .copy descriptor (some source) => descriptor == source
  | _ => false

/-- Carries redirections out, up to the first that fails; whether all succeed.  Descriptors that are to
be brought back are put aside when they are first changed; `aside` are those that were. -/
def redirectAll (output : InnerScript → Doing (List Char)) (aside : Option (List Nat)) :
    List Rebinding → Doing Bool
  | [] => return true
  | b :: rest => do
    if ← redirectTo output (aside.any (!·.contains b.descriptor)) b then
      redirectAll output (if b.isIdle then aside else aside.map (b.descriptor :: ·)) rest
    else return false

/-- Brings the descriptors back that were changed. -/
def restoreDescriptors (before : List (Nat × Nat)) (changed : List Rebinding) : Doing Unit :=
  onMachine (modify fun m => m.modifyProcess fun p =>
    changed.foldl (fun p b =>
      match before.lookup b.descriptor with
      | some n => p.bind b.descriptor n
      | none => p.close b.descriptor) p)

/-! ### The beginning of a script -/

/-- A script that has not begun, in the environment of the acting process. -/
def freshRunner (m : State) : Runner :=
  let text := String.toList
  let usual : List Variable :=
    [⟨text "IFS", some defaultSeparators, false, false⟩,
     ⟨text "PATH", some standardPath, false, false⟩,
     ⟨text "PS1", some (text "# "), false, false⟩, ⟨text "PS2", some (text "> "), false, false⟩,
     ⟨text "PS4", some (text "+ "), false, false⟩, ⟨text "OPTIND", some ['1'], false, false⟩]
  let bare : Runner :=
    { name := text "sh", arguments := [], place := ⟨1, none⟩, bindings := usual, functions := []
      found := [], options := [], status := 0, kept := none, inner := 0, traps := []
      deaf := m.process.ignored, jobs := [], background := none, frames := [], loops := 0
      depth := 0, line := 0, reach := 0
      command := none, directory := [], root := m.process.id, lost := false }
  let given := m.process.environment.foldl (fun r v =>
    if isName (charsOf v.1) then r.put ⟨charsOf v.1, some (charsOf v.2), true, false⟩ else r) bare
  let reset := fun (r : Runner) (name : String) (value : List Char) =>
    let exported := ((r.binding? name.toList).map Variable.exported).getD false
    r.put ⟨name.toList, some value, exported, false⟩
  reset (reset (reset given "IFS" defaultSeparators) "OPTIND" ['1']) "PPID"
    (toString m.process.parent).toList

/-- The script takes note of the directory in which it begins; the variable that tells of it is
believed if it is right. -/
def noteFirstDirectory : Doing Unit := do
  let r ← get
  let told := (r.runner.value? "PWD".toList).filter fun path =>
    path.head? == some '/' &&
      (match r.machine.locate (bytesOf path) with
        | .ok n => n == r.machine.process.directory
        | .error _ => false)
  noteDirectory told false

/-- The bytes of a script as its text; NULs in it do not count. -/
def scriptText (bs : Bytes) : List Char := charsOf (bs.filter (· != 0))

/-- What the interpreter is to run for its arguments, and whether that is a text among them. -/
def scriptFor (name : List Char) (arguments : List (List Char)) : Doing (List Char × Bool) := do
  noteFirstDirectory
  onRunner fun r => { r with name := name }
  let (rest, _, isText) ← setOptions true arguments.length false arguments
  match isText, rest with
  | true, [] => fail "-c requires an argument".toList
  | true, text :: rest => do
    onRunner fun r => { r with name := rest.headD name, arguments := rest.tail }
    demandTerminal
    return (text, true)
  | false, rest => do
    match if (← theRunner).has 's' then [] else rest with
    | [] => do
      setOption true 's'
      onRunner fun r => { r with arguments := rest }
      demandTerminal
      match ← onMachine (readAll 0) with
      | .ok bytes => return (scriptText bytes, false)
      | .error _ => return ([], false)
    | file :: rest => do
      let content ← match ← onMachine (fun m => (openAt .toRead (bytesOf file) m :
          Except Errno Nat × State)) with
        | .ok descriptor => do
          let bytes ← onMachine (readAll descriptor)
          onMachine (modify fun m => m.modifyProcess (·.close descriptor))
          pure (bytes.toOption.getD [])
        | .error e => fail ("cannot open ".toList ++ file ++ ": ".toList ++ reasonOr "No such file" e)
      onRunner fun r => { r with name := file, arguments := rest }
      demandTerminal
      return (scriptText content, false)

/-! ### Commands -/

/-- How a command stands to what follows it. -/
structure Stance where
  /-- Whether its process has nothing to do afterwards. -/
  last : Bool
  /-- Whether its failure is looked at. -/
  tested : Bool

/-- The commands that follow another one with words of their own. -/
inductive Guided where
  /-- More words are needed to know. -/
  | unknown
  /-- The command is to tell what names mean. -/
  | telling
  /-- Another command with its arguments; whether the usual search path is used. -/
  | command (fields : List (List Char)) (usual : Bool)

/-- What follows the command that passes functions over. -/
def guidedBy (usual : Bool) : List (List Char) → Guided
  | [] => .unknown
  | ['-', '-'] :: [] => .unknown
  | ['-', '-'] :: rest => .command rest usual
  | ('-' :: c :: cs) :: rest => if (c :: cs).all (· == 'p') then guidedBy true rest else .telling
  | fields => .command fields usual

/-- A simple command whose words are expanded. -/
structure Call where
  /-- Its words, as they are. -/
  written : List (List Char)
  /-- The name and the arguments. -/
  fields : List (List Char)
  /-- Whether functions count. -/
  functions : Bool
  /-- Whether the usual search path is used. -/
  usual : Bool
  /-- Whether an error ends the script. -/
  special : Bool

/-- What a name means as a command. -/
inductive Meaning where
  /-- There is no name. -/
  | nothing
  /-- A function. -/
  | function (body : Command)
  /-- A command of the interpreter's own. -/
  | own
  /-- A program. -/
  | program

/-- The call that some fields are; `none` if it takes more of them to know. -/
def callOf (r : Runner) (written : List (List Char)) :
    Nat → List (List Char) → Bool → Bool → Option Call
  | 0, fields, functions, usual => some ⟨written, fields, functions, usual, false⟩
  | fuel + 1, fields, functions, usual =>
    let plain := some ⟨written, fields, functions, usual,
      functions && isSpecialCommand (fields.headD [])⟩
    if fields.head? = some "command".toList ∧
        (functions = false ∨ (r.functions.lookup "command".toList).isNone) then
      match guidedBy usual fields.tail with
      | .unknown => none
      | .telling => plain
      | .command rest usual => callOf r written fuel rest false usual
    else plain

/-- What a call means. -/
def Call.meaning (c : Call) (r : Runner) : Meaning :=
  match c.fields with
  | [] => .nothing
  | name :: _ =>
    match if c.functions then r.functions.lookup name else none with
    | some body => .function body
    | none => if isOwnCommand name then .own else .program

/-- The most functions around a command. -/
def maxDepth : Nat := 1000

/-- The commands whose arguments may be assignments. -/
def assigningCommands : List String := ["alias", "export", "local", "readonly"]

/-- The process that became a program ignores what it did but catches nothing. -/
def forgetTraps (m : State) : State := m.modifyProcess ({ · with caught := [], pending := [] })

/-- What a script in a child of its own forgets: the traps that do something, and its jobs. -/
def forkRunner (r : Runner) : Runner :=
  { r with traps := r.traps.filter (·.2 == []), jobs := [] }

/-- Descriptors from this number on are those of pipes that a script holds for its children. -/
def heldDescriptor : Nat := 100

/-- The process without the pipes that its parent holds. -/
def dropHeld (m : State) : State :=
  m.modifyProcess fun p => { p with descriptors := p.descriptors.filter (·.1 < heldDescriptor) }

/-- A descriptor is bound to an open file, if there is one. -/
def bindTo (descriptor : Nat) (file : Option Nat) (m : State) : State :=
  match file with
  | some n => m.modifyProcess (·.bind descriptor n)
  | none => m

/-- A child that is left to itself does not hear the keys of the terminal, and has nothing to read
unless it reads a pipe. -/
def leaveAlone (reads : Bool) (m : State) : State :=
  let m := m.modifyProcess fun p =>
    { p with ignored := [Signal.interrupt.number, Signal.quit.number] ++ p.ignored }
  if reads then m else (m.modifyProcess (·.close 0)).fill 0

/-- Tells of a process that a signal killed, and answers with its status. -/
def concluded (fate : Fate) : Doing Int := do
  match fate with
  | .killed n =>
    if n != Signal.interrupt.number && n != Signal.pipe.number then
      onMachine (say 2 ((signalText n).toList ++ ['\n']))
  | .exited _ => pure ()
  return statusOf fate

/-- A process that was left to itself is remembered. -/
def remember (id : Nat) (fate : Fate) : Doing Unit :=
  onRunner fun r =>
    { r with jobs := ⟨r.freeSlot, id, fate, false⟩ :: r.jobs, background := some id, status := 0 }

/-- Whether leaving an action this way goes on elsewhere in the same script. -/
def Script.Jump.staysInside : Jump → Bool
  | .leaveLoops _ | .nextRound _ | .back => true
  | _ => false

/-- An action, and what is to be done behind it if the script goes on. -/
def cleanly {α : Type} (a : Doing α) (after : Doing Unit) : Doing α := do
  match ← attempt a with
  | .ok x => do
    after
    return x
  | .error j => do
    if j.staysInside then after
    throw j

/-- The functions that were entered since there were so many are left. -/
def popFramesTo (n : Nat) : Nat → Doing Unit
  | 0 => return
  | fuel + 1 => do
    if n < (← theRunner).frames.length then
      popFrame
      popFramesTo n fuel

/-- Prints a command before it is carried out, where errors went before its redirections. -/
def trace (before : List (Nat × Nat)) (texts : List (List Char)) : Doing Unit := do
  let r ← get
  if r.runner.has 'x' then
    let front := (r.runner.value? "PS4".toList).getD []
    let now := r.machine.process.descriptors
    onMachine (modify fun m => m.modifyProcess ({ · with descriptors := before }))
    onMachine (say 2 (front ++ joinWith [' '] texts ++ ['\n']))
    onMachine (modify fun m => m.modifyProcess ({ · with descriptors := now }))

/-- Goes to a line. -/
def atLine (line : Nat) : Doing Unit := onRunner fun r => { r with line := line }

/-- Complains about a script that cannot be read. -/
def failAt {α : Type} (fault : Fault × Nat) : Doing α := do
  atLine fault.2
  fail fault.1.message.toList

/-- The redirections of a command with their targets; `output` runs scripts. -/
def targetsOf (output : InnerScript → Doing (List Char)) (redirects : List Redirect) :
    Doing (List Rebinding) :=
  redirects.mapM fun r => do
    match r.kind with
    | .document => return .text r.descriptor r.target
    | .duplicate => do
      let target ← textOfWord output r.target
      match target with
      | ['-'] => return .copy r.descriptor none
      | [c] =>
        if c.isDigit then return .copy r.descriptor (some (c.toNat - 48))
        else failAt (.badDescriptor, (← theRunner).reach)
      | _ => failAt (.badDescriptor, (← theRunner).reach)
    | kind => do
      return .file r.descriptor kind (← textOfWord output r.target)

/-- The paths that are tried for a name, if it is that of a program; the script remembers them. -/
def lookUp (name : List Char) : Doing (Except Errno (List (List Char))) := do
  let r ← get
  if isOwnCommand name || (r.runner.functions.lookup name).isSome then return .ok []
  let (paths, runner) := r.lookUp name
  onRunner fun _ => runner
  return paths

/-- The program that a command seems to run is remembered before the command gets a process of its
own. -/
def lookAhead : Command → Doing Unit
  | .simple _ _ (w :: _) _ => do
    match w.plain? with
    | some name => if isName name then let _ ← lookUp name
    | none => pure ()
  | _ => pure ()

/-- Tells what names mean, or which programs were found. -/
def tellingCommand (name : String) (arguments : List (List Char)) : Doing Int := do
  let r ← theRunner
  match name with
  | "type" => tell none true 0 arguments
  | "command" =>
    let a ← optionsOf "pvV" "" arguments
    match a.operands with
    | operand :: _ =>
      if a.has 'v' || a.has 'V' then
        tell (if a.has 'p' then some standardPath else none) (a.has 'V') 0 [operand]
      else return 0
    | [] => return 0
  | "hash" =>
    let a ← optionsOf "r" "" arguments
    if a.has 'r' then onRunner fun r => { r with found := [] }
    else if a.operands.isEmpty then
      print (r.foundPaths.flatMap (· ++ ['\n']))
    let mut status : Int := 0
    for operand in a.operands do
      onRunner (·.forget operand)
      match ← lookUp operand with
      | .ok _ => pure ()
      | .error e => do
        warn (operand ++ ": ".toList ++ whyNotFound e)
        status := 1
    return status
  | _ =>
    let mut status : Int := 0
    for argument in arguments do
      if !argument.contains '=' then
        onMachine (say 2 ("alias: ".toList ++ argument ++ " not found\n".toList))
        status := 1
    return status

/-! ### Running -/

mutual

/-- The acting process becomes the program at a path and runs to its end; the failure if it cannot. -/
def startProgram (fuel : Nat) (path : Bytes) (arguments : List Bytes) (m : State) :
    Except Errno Unit × State :=
  match fuel with
  | 0 => (.error Errno.notExecutable, m)
  | fuel + 1 =>
    match imageAt path m with
    | .error e => (.error e, m)
    | .ok _ =>
      if arguments.any (maxArgumentLength < ·.length) then (.error Errno.tooBig, m)
      else
        match loadProgram m maxInterpreters path arguments with
        | .error e => (.error e, m)
        | .ok (tool, given) => (.ok (), runTool fuel tool (given.map charsOf) (forgetTraps m))

/-- An installed program runs to its end for the acting process. -/
def runTool (fuel : Nat) (tool : Tool) (arguments : List (List Char)) (m : State) : State :=
  match fuel with
  | 0 => leave 0 m
  | fuel + 1 =>
    let name := arguments.headD []
    match tool with
    | .interpreter => runInterpreter fuel name arguments.tail m
    | .env =>
      match envOptions m.process.environment arguments.tail with
      | .error text => leave 125 (adviseHelp name text.toList m).2
      | .ok (environment, []) =>
        let text := environment.flatMap fun v => v.1 ++ [61] ++ v.2 ++ [lineFeed]
        match printAll name 0 (charsOf text) m with
        | (status, m') => leave (if status = 0 then 0 else 125) m'
      | .ok (environment, program :: rest) =>
        let m' := m.modifyProcess ({ · with environment := environment })
        let path := ((m'.process.environmentValue "PATH").map charsOf).getD "/bin:/usr/bin".toList
        let refuse := fun (e : Errno) (m : State) =>
          leave (startStatus e)
            (complain name (escapedInQuotes program ++ ": ".toList ++ reason e) m).2
        match programPaths m' path program with
        | .error e => refuse e m'
        | .ok paths =>
          let found := paths.headD []
          match startProgram fuel (bytesOf found) ((program :: rest).map bytesOf) m' with
          | (.ok (), m'') => m''
          | (.error e, m'') =>
            if e = Errno.notExecutable then
              runInterpreter fuel "/bin/sh".toList (found :: rest) m''
            else refuse e m''
    | _ =>
      match tool.run name arguments.tail m with
      | (status, m') => leave status m'

/-- The interpreter runs to its end for the acting process. -/
def runInterpreter (fuel : Nat) (name : List Char) (arguments : List (List Char)) (m : State) :
    State :=
  match fuel with
  | 0 => leave 0 m
  | fuel + 1 =>
    let whole : Doing Unit := concluding fuel do
      let (text, isText) ← scriptFor name arguments
      let _ ← runText fuel ⟨isText, false⟩ 0 (scriptTokens text)
    match whole ⟨freshRunner m, m⟩ with
    | (_, r) => leave r.runner.status r.machine

/-- An action that a process of its own is for: when it has ended, the trap for that comes, and the
status is the one to leave with. -/
def concluding (fuel : Nat) (a : Doing Unit) : Doing Unit := do
  match fuel with
  | 0 => return
  | fuel + 1 =>
    let useKept := fun (r : Runner) => { r with status := r.kept.getD r.status, kept := none }
    match ← attempt a with
    | .error .gone => throw .gone
    | .error .exit => onRunner useKept
    | _ => onRunner fun r => { r with kept := none }
    let r ← theRunner
    match r.traps.lookup 0 with
    | some action =>
      if action ≠ [] then
        onRunner fun r =>
          { r with traps := r.traps.filter (·.1 != 0), kept := some r.status, command := none }
        match ← attempt (runText fuel ⟨false, false⟩ 0 (scriptTokens action)) with
        | .error .gone => throw .gone
        | .error .error | .error .ended => pure ()
        | _ => onRunner useKept
    | none => return

/-- A process of its own carries an action out; its number, and how it ended. -/
def inChild (fuel : Nat) (prepare : State → State) (a : Doing Unit) : Doing (Nat × Fate) := do
  match fuel with
  | 0 => return (0, .exited 0)
  | fuel + 1 =>
    onRunner Runner.clearSlot
    let before ← theRunner
    onMachine (modify fun m => prepare (dropHeld (fork m)))
    let id := (← get).machine.process.id
    onRunner forkRunner
    let _ ← attempt (concluding fuel a)
    let status := (← theRunner).status
    onMachine (modify (leave status))
    let fate ← onMachine reap
    onRunner fun _ => before
    checkLife
    return (id, fate)

/-- Everything that a text holds is carried out, one line's worth at a time; the answer is the status
of the last command. -/
def runText (fuel : Nat) (stance : Stance) (status : Int) (ts : List Lexeme) : Doing Int := do
  match fuel with
  | 0 => return status
  | fuel + 1 =>
    match nextCommands ts with
    | .error fault => failAt fault
    | .ok none => return status
    | .ok (some (c, rest)) =>
      let read := ts.take (ts.length - rest.length)
      onRunner fun r => { r with reach := (read.getLast?.map Lexeme.line).getD r.reach }
      evaluate fuel ⟨stance.last && rest.isEmpty, stance.tested⟩ c
      runText fuel stance (← theRunner).status rest

/-- The actions of the traps whose signals came are carried out. -/
def takeSignals (fuel : Nat) : Doing Unit := do
  match fuel with
  | 0 => return
  | fuel + 1 =>
    checkLife
    match (← get).machine.process.pending with
    | [] => return
    | first :: others =>
      let number := others.foldl min first
      let r ← theRunner
      let status := r.kept.getD r.status
      onMachine (modify fun m =>
        m.modifyProcess fun p => { p with pending := p.pending.filter (· != number) })
      match r.traps.lookup number with
      | some action =>
        onRunner fun r => { r with kept := some status }
        let _ ← runText fuel ⟨false, false⟩ 0 (scriptTokens action)
        onRunner fun s => { s with status := status, kept := r.kept }
      | none => pure ()
      takeSignals fuel

/-- A command is carried out. -/
def evaluate (fuel : Nat) (stance : Stance) (c : Command) : Doing Unit := do
  match fuel with
  | 0 => return
  | fuel + 1 =>
    let output := substitute fuel
    let inner : Stance := ⟨false, stance.tested⟩
    let tested : Stance := ⟨false, true⟩
    if (← theRunner).has 'n' then
      takeSignals fuel
      if stance.last then throw .ended else return
    takeSignals fuel
    match c with
    | .nothing => pure ()
    | .simple line assignments words redirects =>
      runSimple fuel stance line assignments words redirects
    | .sequence first second => do
      evaluate fuel inner first
      evaluate fuel stance second
    | .both first second => do
      evaluate fuel tested first
      if (← theRunner).status = 0 then evaluate fuel stance second
    | .either first second => do
      evaluate fuel tested first
      if (← theRunner).status ≠ 0 then evaluate fuel stance second
    | .negation c => do
      evaluate fuel tested c
      onRunner fun r => { r with status := if r.status = 0 then 1 else 0 }
    | .loop untilSuccess test body => do
      onRunner fun r => { r with loops := r.loops + 1 }
      cleanly (runLoop fuel inner untilSuccess test body 0)
        (onRunner fun r => { r with loops := r.loops - 1 })
    | .forEach line name words body => do
      atLine line
      let fields ← fieldsOfWords output words
      onRunner fun r => { r with loops := r.loops + 1 }
      cleanly (runFor fuel inner name body 0 fields)
        (onRunner fun r => { r with loops := r.loops - 1 })
    | .choice line subject arms => do
      atLine line
      let text ← textOfWord output subject
      match ← findArm fuel text arms with
      | some body => do
        match body with
        | .nothing => setStatus 0
        | body => evaluate fuel stance body
      | none => setStatus 0
    | .branch test whenTrue whenFalse => do
      evaluate fuel tested test
      if (← theRunner).status = 0 then evaluate fuel stance whenTrue
      else
        match whenFalse with
        | .nothing => setStatus 0
        | whenFalse => evaluate fuel stance whenFalse
    | .subshell line c redirects background =>
      runSubshell fuel stance line c redirects background
    | .redirected line c redirects => do
      atLine line
      let targets ← targetsOf output redirects
      let before := (← get).machine.process.descriptors
      cleanly
        (do if ← redirectAll output (some []) targets then evaluate fuel inner c else setStatus 2)
        (restoreDescriptors before targets)
    | .pipeline cs background => do
      let before := (← get).machine.process.descriptors
      let (id, fate) ← runPipeline fuel stance.tested background none cs
      onMachine (modify fun m => m.modifyProcess ({ · with descriptors := before }))
      if background then remember id fate else setStatus (statusOf fate)
    | .function name body => do
      onRunner fun r =>
        { r.forget name with
          functions := (name, body) :: r.functions.filter (·.1 != name), status := 0 }
    takeSignals fuel
    let fails := match c with
      | .simple _ _ _ _ | .subshell _ _ _ _ | .pipeline _ _ => true
      | _ => false
    let r ← theRunner
    if r.has 'e' && fails && !stance.tested && r.status ≠ 0 then throw .ended
    if stance.last then throw .ended

/-- The first arm one of whose patterns fits a text. -/
def findArm (fuel : Nat) (text : List Char) (arms : List (List Word × Command)) :
    Doing (Option Command) := do
  match fuel, arms with
  | 0, _ => return none
  | _, [] => return none
  | fuel + 1, ([], _) :: rest => findArm fuel text rest
  | fuel + 1, (pattern :: patterns, body) :: rest => do
    let glyphs ← patternOfWord (substitute fuel) pattern
    if fits (patternOf glyphs) text then return some body
    else findArm fuel text ((patterns, body) :: rest)

/-- A loop goes on as long as its condition says so; its status is that of the last body. -/
def runLoop (fuel : Nat) (stance : Stance) (untilSuccess : Bool) (test body : Command)
    (status : Int) : Doing Unit := do
  match fuel with
  | 0 => return
  | fuel + 1 =>
    let onward := fun (status : Int) => runLoop fuel stance untilSuccess test body status
    match ← attempt (evaluate fuel ⟨false, true⟩ test) with
    | .error (.leaveLoops n) => if n ≤ 1 then setStatus status else throw (.leaveLoops (n - 1))
    | .error (.nextRound n) => if n ≤ 1 then onward status else throw (.nextRound (n - 1))
    | .error j => throw j
    | .ok () =>
      if ((← theRunner).status == 0) != untilSuccess then
        match ← attempt (evaluate fuel stance body) with
        | .error (.leaveLoops n) => if n ≤ 1 then pure () else throw (.leaveLoops (n - 1))
        | .error (.nextRound n) =>
          if n ≤ 1 then onward (← theRunner).status else throw (.nextRound (n - 1))
        | .error j => throw j
        | .ok () => onward (← theRunner).status
      else setStatus status

/-- The body of a loop is carried out for each of some texts. -/
def runFor (fuel : Nat) (stance : Stance) (name : List Char) (body : Command) (status : Int)
    (texts : List (List Char)) : Doing Unit := do
  match fuel, texts with
  | 0, _ => return
  | _, [] => setStatus status
  | fuel + 1, text :: rest => do
    assign name text
    match ← attempt (evaluate fuel stance body) with
    | .error (.leaveLoops n) => if n ≤ 1 then pure () else throw (.leaveLoops (n - 1))
    | .error (.nextRound n) =>
      if n ≤ 1 then runFor fuel stance name body (← theRunner).status rest
      else throw (.nextRound (n - 1))
    | .error j => throw j
    | .ok () => runFor fuel stance name body (← theRunner).status rest

/-- A command in a process of its own, unless the present one has nothing else to do. -/
def runSubshell (fuel : Nat) (stance : Stance) (line : Nat) (c : Command) (redirects : List Redirect)
    (background : Bool) : Doing Unit := do
  match fuel with
  | 0 => return
  | fuel + 1 =>
    atLine line
    let targets ← targetsOf (substitute fuel) redirects
    let body := fun (tested : Bool) => do
      if !(← redirectAll (substitute fuel) none targets) then
        setStatus 2
        throw .error
      evaluate fuel ⟨true, tested⟩ c
    if !background && stance.last && !(← theRunner).hasTraps then body stance.tested
    else
      let (id, fate) ← inChild fuel (if background then leaveAlone false else id)
        (body (stance.tested && !background))
      if background then remember id fate else setStatus (← concluded fate)

/-- Commands each of which reads what the one before it wrote; the number of the last one's process
and how it ended. -/
def runPipeline (fuel : Nat) (tested background : Bool) (input : Option Nat) (cs : List Command) :
    Doing (Nat × Fate) := do
  match fuel, cs with
  | 0, _ => return (0, .exited 0)
  | _, [] => return (0, .exited 0)
  | fuel + 1, [c] => do
    lookAhead c
    let (id, fate) ← inChild fuel
      (fun m => bindTo 0 input (if background then leaveAlone input.isSome m else m))
      (evaluate fuel ⟨true, tested⟩ c)
    if !background then
      let _ ← concluded fate
    return (id, fate)
  | fuel + 1, c :: rest => do
    lookAhead c
    let (reading, writing) ← onMachine (addPipe [])
    let held := heldDescriptor + rest.length
    onMachine (modify (bindTo held (some reading)))
    let (_, fate) ← inChild fuel
      (fun m => bindTo 1 (some writing)
        (bindTo 0 input (if background then leaveAlone input.isSome m else m)))
      (evaluate fuel ⟨true, tested⟩ c)
    if !background then
      let _ ← concluded fate
    runPipeline fuel tested background (some reading) rest

/-- What a script prints when it runs in a process of its own, without the ends of its last lines. -/
def substitute (fuel : Nat) (script : InnerScript) : Doing (List Char) := do
  match fuel with
  | 0 => return []
  | fuel + 1 =>
    match script.command with
    | .error fault => failAt fault
    | .ok .nothing => return []
    | .ok c =>
      let before := (← get).machine.process.descriptors
      let (reading, writing) ← onMachine (addPipe [])
      onMachine (modify (bindTo heldDescriptor (some reading)))
      let (_, fate) ← inChild fuel (bindTo 1 (some writing)) (evaluate fuel ⟨true, false⟩ c)
      let m := (← get).machine
      let held := match m.files[reading]?.map fun f => m.tree.node f.node with
        | some (.fifo held) => held
        | _ => []
      onMachine (modify fun m => m.modifyProcess ({ · with descriptors := before }))
      let status ← concluded fate
      onRunner fun r => { r with inner := status }
      return ((scriptText held).reverse.dropWhile (· == '\n')).reverse

/-- The call that the words of a simple command make.  The first words are expanded one by one until
it is known which command they call; if that one assigns, assignments among the others are not cut. -/
def callFor (fuel : Nat) (fields : List (List Char)) (words : List Word) : Doing Call := do
  match fuel with
  | 0 => return ⟨fields, fields, true, false, false⟩
  | fuel + 1 =>
    let output := substitute fuel
    let r ← theRunner
    let known := if fields = [] then none else callOf r fields (fields.length + 1) fields true false
    match known, words with
    | none, [] => return ⟨fields, fields, true, false, false⟩
    | none, w :: rest => callFor fuel (fields ++ (← fieldsOfWord output w)) rest
    | some call, _ =>
      let assigns := assigningCommands.contains (String.ofList (call.fields.headD [])) &&
        (match call.meaning r with | .own => true | _ => false)
      let others ← words.mapM fun w =>
        match if assigns then assignmentOf w else none with
        | some (name, value) => do return [name ++ '=' :: (← textOfValue output value)]
        | none => fieldsOfWord output w
      return { call with
        written := call.written ++ others.flatten
        fields := call.fields ++ others.flatten }

/-- A simple command: assignments alone change the variables, those before a command hold for it only
unless its errors end the script. -/
def runSimple (fuel : Nat) (stance : Stance) (line : Nat) (assignments : List (List Char × Word))
    (words : List Word) (redirects : List Redirect) : Doing Unit := do
  match fuel with
  | 0 => return
  | fuel + 1 =>
    let output := substitute fuel
    atLine line
    onRunner fun r => { r with inner := 0 }
    let call ← callFor fuel [] words
    let temporary := !call.fields.isEmpty && !call.special
    let depth := (← theRunner).frames.length
    if temporary then pushFrame
    let before := (← get).machine.process.descriptors
    let targets ← targetsOf output redirects
    let isExec := call.fields.head? == some "exec".toList &&
      (match call.meaning (← theRunner) with | .own => true | _ => false)
    let undo := do
      if !isExec then restoreDescriptors before targets
      let r ← theRunner
      popFramesTo depth r.frames.length
    let body : Doing Unit := do
      if !(← redirectAll output (some []) targets) then
        setStatus 2
        if call.special then
          restoreDescriptors before targets
          throw .error
        else return
      let mut set : List (List Char) := []
      for (name, value) in assignments do
        let text ← textOfValue output value
        set := set ++ [name ++ '=' :: text]
        if temporary then makeLocal name (some text) true
        else setVariable name (some text) (isExec && 1 < call.fields.length) false
      trace before (set ++ call.written)
      runCall fuel stance call
    cleanly body undo

/-- A call is carried out. -/
def runCall (fuel : Nat) (stance : Stance) (call : Call) : Doing Unit := do
  match fuel with
  | 0 => return
  | fuel + 1 =>
    let r ← theRunner
    let name := call.fields.headD []
    let arguments := call.fields.tail
    match call.meaning r with
    | .nothing => setStatus r.inner
    | .function body => do
      if r.depth = maxDepth then
        fail ("Maximum function recursion depth (".toList ++ (toString maxDepth).toList ++
          ") reached".toList)
      onRunner fun r =>
        { r with arguments := arguments, place := ⟨1, none⟩, loops := 0, depth := r.depth + 1 }
      let result ← attempt (evaluate fuel ⟨false, stance.tested⟩ body)
      onRunner fun s =>
        { s with arguments := r.arguments, place := r.place, loops := r.loops, depth := r.depth }
      match result with
      | .ok () | .error .back => pure ()
      | .error j => throw j
    | .own => do
      onRunner fun r => { r with command := some name, lost := false }
      let before := (← get).machine.process.descriptors
      let result ← attempt (runOwn fuel stance (String.ofList name) arguments)
      let lost := (← theRunner).lost
      match result with
      | .ok status => do
        onRunner fun r => { r with command := some name }
        if lost then warn (name ++ ": I/O error".toList)
        onRunner fun s =>
          { s with status := if lost ∧ status % 2 = 0 then status + 1 else status, lost := false
                   command := r.command }
      | .error j => do
        onRunner fun s => { s with lost := false, command := r.command }
        if j = .error ∧ call.special = false then
          onMachine (modify fun m => m.modifyProcess ({ · with descriptors := before }))
        else throw j
    | .program => do
      let found ←
        if call.usual then
          pure (programPaths (← get).machine standardPath name)
        else do
          let (paths, runner) := (← get).lookUp name
          onRunner fun _ => runner
          pure paths
      match found with
      | .error e => do
        warn (name ++ ": ".toList ++ whyNotFound e)
        setStatus 127
      | .ok paths => do
        if stance.last && !r.hasTraps then becomeProgram fuel call.fields paths
        else
          let (_, fate) ← inChild fuel id (becomeProgram fuel call.fields paths)
          setStatus (← concluded fate)

/-- The script's process becomes the first of some programs that can be started; if none can, the
script ends. -/
def becomeProgram (fuel : Nat) (fields : List (List Char)) (paths : List (List Char)) :
    Doing Unit := do
  match fuel with
  | 0 => return
  | fuel + 1 =>
    let environment := (← theRunner).environment
    let before := (← get).machine.process.environment
    onMachine (modify fun m => m.modifyProcess ({ · with environment := environment }))
    let cause ← tryPrograms fuel fields Errno.noEntry paths
    onMachine (modify fun m => m.modifyProcess ({ · with environment := before }))
    warn (fields.headD [] ++ ": ".toList ++ whyNotFound cause)
    setStatus (if leadsNowhere cause then 127 else 126)
    throw .ended

/-- Programs are tried one after the other; the answer is why none can be started. -/
def tryPrograms (fuel : Nat) (fields : List (List Char)) (cause : Errno) (paths : List (List Char)) :
    Doing Errno := do
  match fuel, paths with
  | 0, _ => return cause
  | _, [] => return cause
  | fuel + 1, path :: rest => do
    match ← onMachine (startProgram fuel (bytesOf path) (fields.map bytesOf)) with
    | .ok () => throw .gone
    | .error e =>
      if e = Errno.notExecutable then
        let shell := "/bin/sh".toList
        match ← onMachine
          (startProgram fuel (bytesOf shell) ((shell :: path :: fields.tail).map bytesOf)) with
        | .ok () => throw .gone
        | .error e => tryPrograms fuel fields e rest
      else
        tryPrograms fuel fields (if e = Errno.noEntry ∨ e = Errno.notDirectory then cause else e) rest

/-- One of the interpreter's own commands is carried out; its status is the answer. -/
def runOwn (fuel : Nat) (stance : Stance) (name : String) (arguments : List (List Char)) :
    Doing Int := do
  match fuel with
  | 0 => return 0
  | fuel + 1 =>
    match ownCommand name with
    | some action => action arguments
    | none =>
      match name with
      | "eval" =>
        let reach := (← theRunner).reach
        let text := joinWith [' '] arguments
        let status ← runText fuel ⟨false, stance.tested⟩ 0 (scriptTokens text)
        onRunner fun r => { r with reach := reach }
        return status
      | "exec" =>
        match (← optionsOf "" "" arguments).operands with
        | [] => return 0
        | fields => do
          let r ← get
          let name := fields.headD []
          let paths := if name.contains '/' then [name] else candidates r.runner.searchPath name
          becomeProgram fuel fields paths
          return 0
      | "." =>
        match (← optionsOf "" "" arguments).operands with
        | [] => return 0
        | file :: _ => do
          let r ← get
          let isFile := fun (path : List Char) => nodeIs r.machine path fun
            | .file _ _ | .program _ => true
            | _ => false
          let path ←
            if file.contains '/' then pure file
            else
              match (candidates r.runner.searchPath file).find? isFile with
              | some path => pure path
              | none => fail (file ++ ": not found".toList)
          match ← onMachine (contentOf path) with
          | .error e =>
            if e = Errno.isDirectory then return 0
            else fail ("cannot open ".toList ++ path ++ ": ".toList ++ reasonOr "No such file" e)
          | .ok bytes => do
            onRunner fun r => { r with command := some path }
            match ← attempt (runText fuel ⟨false, false⟩ 0 (scriptTokens (scriptText bytes))) with
            | .ok status => do
              onRunner fun s => { s with reach := r.runner.reach }
              return status
            | .error .back => do
              onRunner fun s => { s with reach := r.runner.reach }
              return (← theRunner).status
            | .error j => throw j
      | name => tellingCommand name arguments

end

/-- The fuel of a program: more than any script needs that ends. -/
def programFuel : Nat := 4000000

/-- The descriptors that a program is given by the session: the standard ones. -/
def standardDescriptors : List Nat := [0, 1, 2]

/-- The acting process, a child of the session, becomes the program of an argument vector and runs to
its end.  The session's own descriptors are closed in it. -/
def start (vector : ArgumentVector) : Act State Errno Unit := fun m =>
  startProgram programFuel vector.program.bytes (vector.all.map CString.bytes)
    (m.modifyProcess fun p =>
      { p with descriptors := p.descriptors.filter (standardDescriptors.contains ·.1) })

end LineShell.Machine
