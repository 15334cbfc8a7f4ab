/-
**Commands of the script interpreter.**

Some commands are carried out by the interpreter itself: they print, read a line, test a condition,
send a signal, wait, change the working directory, the variables or the options, or leave a loop, a
function or the script.  A complaint names the script, its line and the command.

A command answers with its status.  Of those that are left early, some leave the whole script when
something is wrong: these are the special ones.

Main definitions:

* `LineShell.Machine.Script.readCommand`, `LineShell.Machine.Script.cdCommand`,
  `LineShell.Machine.Script.killCommand`, … — the commands;
* `LineShell.Machine.Script.ownCommand` — the command of a name.

Main results:

* `LineShell.Machine.Script.readOptions_operands` — arguments without a dash in front are no options.
-/

import LineShell.Machine.Script.Search
import LineShell.Machine.Script.Test

set_option autoImplicit false

namespace LineShell.Machine.Script

/-! ### Arguments -/

/-- The options at the front of some arguments, with `flags` that take no value and `valued` that take
one, and the other arguments; the complaint about an option. -/
def readOptions (flags valued : List Char) : List (List Char) → Except (List Char) Arguments
  | ['-', '-'] :: rest => .ok ⟨[], rest⟩
  | ('-' :: c :: cs) :: rest =>
    match cluster (c :: cs) with
    | .error text => .error text
    | .ok (found, none) =>
      (readOptions flags valued rest).map fun a => { a with options := found ++ a.options }
    | .ok (found, some d) =>
      match rest with
      | [] => .error ("No arg for -".toList ++ [d] ++ " option".toList)
      | value :: rest =>
        (readOptions flags valued rest).map fun a =>
          { a with options := found ++ (d, value) :: a.options }
  | arguments => .ok ⟨[], arguments⟩
where
  /-- The options in one argument; at its end the option whose value is the next argument. -/
  cluster : List Char → Except (List Char) (List (Char × List Char) × Option Char)
    | [] => .ok ([], none)
    | c :: cs =>
      if c ∈ valued then if cs = [] then .ok ([], some c) else .ok ([(c, cs)], none)
      else if c ∈ flags then (cluster cs).map fun (found, last) => ((c, []) :: found, last)
      else .error ("Illegal option -".toList ++ [c])

/-- Arguments without a dash in front are no options. -/
theorem readOptions_operands {flags valued : List Char} {arguments : List (List Char)}
    (h : ∀ a ∈ arguments.head?, a.head? ≠ some '-') :
    readOptions flags valued arguments = .ok ⟨[], arguments⟩ := by
  unfold readOptions
  split
  · simp at h
  · simp at h
  · rfl

/-- The options and the other arguments of a command; a wrong option is an error. -/
def optionsOf (flags valued : String) (arguments : List (List Char)) : Doing Arguments := do
  match readOptions flags.toList valued.toList arguments with
  | .ok a => return a
  | .error text => fail text

/-- The complaint about a number. -/
def illegalNumber (cs : List Char) : List Char := "Illegal number: ".toList ++ cs

/-- The number that a command is given; anything else is an error. -/
def demandCount (cs : List Char) : Doing Nat := do
  match count? cs with
  | some n => return n
  | none => fail (illegalNumber cs)

/-- A text between single quotes; single quotes in it stand between double ones. -/
def quotedValue (cs : List Char) : List Char :=
  '\'' :: body cs
where
  /-- The rest of the text behind an opened single quote. -/
  body : List Char → List Char
    | [] => ['\'']
    | '\'' :: rest => '\'' :: '"' :: '\'' :: inDouble rest
    | c :: rest => c :: body rest
  /-- The rest of the text behind a single quote between double ones. -/
  inDouble : List Char → List Char
    | [] => ['"']
    | '\'' :: rest => '\'' :: inDouble rest
    | c :: rest => '"' :: '\'' :: c :: body rest

/-! ### Printing -/

/-- Prints its arguments on one line, with escapes carried out. -/
def echoCommand (arguments : List (List Char)) : Doing Int := do
  let (newline, words) :=
    match arguments with
    | ['-', 'n'] :: rest => (false, rest)
    | rest => (true, rest)
  let (text, ending) := EscapeRules.ownArgument.apply (words.intersperse [' ']).flatten
  print (if newline && ending == .complete then text ++ ['\n'] else text)
  return 0

/-- The wording of what is wrong with a format or an argument; whether it is an error. -/
def FormatFault.message : FormatFault → List Char × Bool
  | .noNumber text => (text ++ ": expected numeric value".toList, false)
  | .unconverted text => (text ++ ": not completely converted".toList, false)
  | .outOfRange text => (text ++ ": Numerical result out of range".toList, false)
  | .ignored text => (text, false)
  | .invalid directive => (directive ++ ": invalid directive".toList, true)
  | .noLetter _ | .noDigits => ("missing format character".toList, true)

/-- Prints its arguments by a format. -/
def printfCommand (arguments : List (List Char)) : Doing Int := do
  match (← optionsOf "" "" arguments).operands with
  | [] => fail "usage: printf format [arg ...]".toList
  | format :: rest =>
    let p := printed false format rest
    for fault in p.faults do
      if !fault.message.2 then warn fault.message.1
    match p.faults.find? fun fault => fault.message.2 with
    | some fault =>
      warn fault.message.1
      print p.text
      return 2
    | none =>
      print p.text
      return if p.faults.isEmpty then 0 else 1

/-! ### Reading -/

/-- Reads a line byte by byte, at most so many bytes: the characters, each with whether it was
quoted by a backslash, and whether the line was ended.  NUL bytes are passed over. -/
def readChars (raw : Bool) : Nat → Bool → State → (List (Char × Bool) × Bool) × State
  | 0, _, m => (([], false), m)
  | fuel + 1, escaped, m =>
    match read 0 1 m with
    | (.error _, m') | (.ok [], m') => (([], false), m')
    | (.ok (b :: _), m') =>
      if b = 0 then readChars raw fuel escaped m'
      else if escaped then
        if b = lineFeed then readChars raw fuel false m'
        else
          match readChars raw fuel false m' with
          | ((cs, done), m'') => (((Char.ofNat b.toNat, true) :: cs, done), m'')
      else if b = lineFeed then (([], true), m')
      else if b = 92 ∧ raw = false then readChars raw fuel true m'
      else
        match readChars raw fuel false m' with
        | ((cs, done), m'') => (((Char.ofNat b.toNat, false) :: cs, done), m'')

/-- What was read, divided among names: each takes one field, the last all that is left. -/
def divide (separators : List Char) : List (List Char) → List (Char × Bool) →
    List (List Char × List Char)
  | [], _ => []
  | name :: names, cs =>
    let isBlank := fun c : Char × Bool =>
      !c.2 && separators.contains c.1 && defaultSeparators.contains c.1
    let isSeparator := fun c : Char × Bool => !c.2 && separators.contains c.1
    let cs := cs.dropWhile isBlank
    match names with
    | [] => [(name, ((cs.reverse.dropWhile isBlank).reverse).map (·.1))]
    | _ :: _ =>
      let field := cs.takeWhile (!isSeparator ·)
      let rest := (cs.dropWhile (!isSeparator ·)).dropWhile isBlank
      let rest := match rest with
        | c :: r => if isSeparator c then r else c :: r
        | [] => []
      (name, field.map (·.1)) :: divide separators names rest

/-- The most bytes of a line that is read. -/
def readLimit : Nat := 1000000

/-- Reads a line into variables. -/
def readCommand (arguments : List (List Char)) : Doing Int := do
  let a ← optionsOf "r" "p" arguments
  match a.options.reverse.lookup 'p' with
  | some prompt => if (← get).machine.isTerminal 0 then onMachine (say 2 prompt)
  | none => pure ()
  if a.operands.isEmpty then fail "arg count".toList
  let (cs, done) ← onMachine (readChars (a.has 'r') readLimit false)
  for (name, value) in divide (← theRunner).separators a.operands cs do
    assign name value
  return if done then 0 else 1

/-! ### Signals -/

/-- The names of the signals from number 1 on, those of the real-time signals included. -/
def signalNames : List String :=
  Signal.names.map (fun name => if name = "STKFLT" then "16" else name) ++ ["32", "33", "RTMIN"] ++
    (List.range 15).map (fun n => "RTMIN+" ++ toString (n + 1)) ++
    (List.range 14).reverse.map (fun n => "RTMAX-" ++ toString (n + 1)) ++ ["RTMAX"]

/-- The name of a signal; number zero stands for the end of the script. -/
def signalName (number : Nat) : String :=
  if number = 0 then "EXIT" else signalNames.getD (number - 1) ""

/-- The number of a signal by its number in digits. -/
def signalDigits? (cs : List Char) : Option Nat := (natural? cs).filter (decide <| · ≤ 64)

/-- The number of a signal by its name or number. -/
def signalNumber? (cs : List Char) : Option Nat :=
  signalDigits? cs <|>
    (signalNames.findIdx? fun s => s.toList == cs.map Char.toUpper).map (· + 1)

/-- What is said of a process that a signal killed. -/
def signalText (number : Nat) : String :=
  ["Hangup", "Interrupt", "Quit", "Illegal instruction", "Trace/breakpoint trap", "Aborted",
    "Bus error", "Floating point exception", "Killed", "User defined signal 1", "Segmentation fault",
    "User defined signal 2", "Broken pipe", "Alarm clock", "Terminated", "Stack fault",
    "Child exited", "Continued", "Stopped (signal)", "Stopped", "Stopped (tty input)",
    "Stopped (tty output)", "Urgent I/O condition", "CPU time limit exceeded",
    "File size limit exceeded", "Virtual timer expired", "Profiling timer expired",
    "Window changed", "I/O possible", "Power failure", "Bad system call"].getD (number - 1)
    (if 34 ≤ number ∧ number ≤ 64 then "Real-time signal " ++ toString (number - 34)
      else "Unknown signal " ++ toString number)

/-- The use of the command that sends signals. -/
def killUsage : String :=
  "Usage: kill [-s sigspec | -signum | -sigspec] [pid | job]... or\nkill -l [exitstatus]"

/-- The process that an argument names, or the current one. -/
def jobOf (name : Option (List Char)) : Doing Job := do
  let jobs := (← theRunner).jobs
  let demand := fun (job : Option Job) (text : List Char) =>
    match job with
    | some job => return job
    | none => fail text
  let unknown := fun (name : List Char) => "No such job: ".toList ++ name
  match name with
  | none | some ['%'] | some ['%', '+'] | some ['%', '%'] =>
    demand jobs.head? "No current job".toList
  | some ['%', '-'] => demand jobs[1]? "No previous job".toList
  | some ['%', '?'] =>
    if 1 < jobs.length then fail "%?: ambiguous".toList else demand jobs.head? (unknown ['%', '?'])
  | some ('%' :: digits) =>
    demand (jobs.find? fun job => natural? digits == some job.slot) (unknown ('%' :: digits))
  | some name => fail (unknown name)

/-- Sends a signal to processes. -/
def sendSignal (number : Nat) (status : Int) : List (List Char) → Doing Int
  | [] => return status
  | target :: rest => do
    let (group, digits) :=
      match target with
      | '-' :: digits => (true, digits)
      | digits => (false, digits)
    let named := target.head? == some '%'
    let id ← if named then Job.id <$> jobOf (some target) else demandCount digits
    let answer ←
      if named || (group && id != 0) then pure (.error ⟨3, .inr rfl⟩)
      else onMachine (fun m => (kill id number m : Except Errno Unit × State))
    checkLife
    match answer with
    | .ok () => sendSignal number status rest
    | .error e => do
      warn (reason e ++ ['\n'])
      sendSignal number 1 rest

/-- Prints the names of the signals, or that of the one that an exit status or a number stands for. -/
def sayNames : List (List Char) → Doing Int
  | [] => do
    print ((List.range 65).flatMap fun n =>
      (if n = 0 then ['0'] else (signalName n).toList) ++ ['\n'])
    return 0
  | target :: _ => do
    let n ← demandCount target
    let number := if 128 < n then n - 128 else n
    if 0 < number ∧ number ≤ 64 then
      print ((signalName number).toList ++ ['\n'])
      return 0
    else fail ("invalid signal number or exit status: ".toList ++ target)

/-- Sends a signal, the first argument's or the usual one, to processes. -/
def killCommand (arguments : List (List Char)) : Doing Int := do
  let usage : Doing Int := fail killUsage.toList
  let send := fun (number : Nat) (targets : List (List Char)) =>
    if targets.isEmpty then usage else sendSignal number 0 targets
  match arguments with
  | ('-' :: name) :: targets =>
    match signalNumber? name with
    | some number => send number targets
    | none =>
      let a ← optionsOf "l" "s" arguments
      let number ← match a.options.find? fun o => o.1 == 's' && (signalNumber? o.2).isNone with
        | some (_, name) => fail ("invalid signal number or name: ".toList ++ name)
        | none => pure ((a.options.reverse.lookup 's').bind signalNumber?)
      if a.has 'l' then
        if number.isSome && !a.operands.isEmpty then usage else sayNames a.operands
      else send (number.getD 15) a.operands
  | targets => send 15 targets

/-- The traps, written so that they could be read back. -/
def trapsText (r : Runner) : List Char :=
  ((List.range 65).filterMap fun n => (r.traps.lookup n).map fun action => (n, action)).flatMap
    fun (n, action) =>
      "trap -- ".toList ++ quotedValue action ++ [' '] ++ (signalName n).toList ++ ['\n']

/-- A signal gets an action, or loses it. -/
def setTrap (number : Nat) (action : Option (List Char)) : Doing Unit := do
  onRunner fun r =>
    { r with traps := (action.map fun text => (number, text)).toList ++
        r.traps.filter fun t => t.1 != number }
  let r ← theRunner
  if number != 0 && !r.deaf.contains number then
    onMachine (modify fun m => m.modifyProcess fun p =>
      { p with
        caught := (if (action.map (· != [])).getD false then [number] else []) ++
          p.caught.filter (· != number)
        ignored := (if action = some [] then [number] else []) ++ p.ignored.filter (· != number) })

/-- Signals get an action; what is no signal is complained of. -/
def setTraps (action : Option (List Char)) : List (List Char) → Doing Int
  | [] => return 0
  | name :: rest => do
    match if name.map Char.toUpper = "EXIT".toList then some 0 else signalNumber? name with
    | some number => do
      setTrap number action
      setTraps action rest
    | none => do
      onMachine (say 2 ("trap: ".toList ++ name ++ ": bad trap\n".toList))
      return 1

/-- Sets what is done when a signal comes, or shows it. -/
def trapCommand (arguments : List (List Char)) : Doing Int := do
  match (← optionsOf "" "" arguments).operands with
  | [] => do
    print (trapsText (← theRunner))
    return 0
  | [name] => setTraps none [name]
  | first :: rest =>
    if (signalDigits? first).isSome then setTraps none (first :: rest)
    else setTraps (if first = ['-'] then none else some first) rest

/-- The status that tells how a process ended. -/
def statusOf (fate : Fate) : Int :=
  match fate with
  | .exited n => n
  | .killed n => 128 + n

/-- Notes that a process was waited for. -/
def noteAwaited (job : Job) : Doing Unit :=
  onRunner fun r =>
    { r with jobs := r.jobs.map fun j => if j.slot == job.slot then { j with awaited := true } else j }

/-- Waits for processes that were left to themselves. -/
def waitCommand (arguments : List (List Char)) : Doing Int := do
  let targets := (← optionsOf "" "" arguments).operands
  let mut status : Int := 0
  if targets.isEmpty then
    for job in (← theRunner).jobs do
      noteAwaited job
  for target in targets do
    let found ←
      if target.head? = some '%' then (some ·) <$> jobOf (some target)
      else do
        let id ← demandCount target
        (fun r => r.jobs.find? fun job => job.id == id) <$> theRunner
    match found with
    | none => status := 127
    | some job => do
      status := statusOf job.fate
      match job.fate with
      | .killed n =>
        if !job.awaited && n != Signal.interrupt.number && n != Signal.pipe.number then
          onMachine (say 2 ((signalText n).toList ++ ['\n']))
      | .exited _ => pure ()
      noteAwaited job
  return status

/-- A process as it is shown, with its number if `numbered`. -/
def Job.text (job : Job) (current numbered : Bool) : List Char :=
  let digits := fun (n : Int) => (toString n).toList
  let front := ['['] ++ digits job.slot ++ "] ".toList ++ (if current then ['+'] else ['-']) ++ [' '] ++
    (if numbered then digits job.id ++ [' '] else [])
  let ending := match job.fate with
    | .exited 0 => "Done".toList
    | .exited n => "Done(".toList ++ digits n ++ [')']
    | .killed n => (signalText n).toList
  let line := front ++ ending
  line ++ List.replicate (max 1 (33 - line.length)) ' ' ++ ['\n']

/-- Shows a process that was left to itself, which is then forgotten, or only its number. -/
def showJob (style : Option Char) (job : Job) : Doing Unit := do
  if style = some 'p' then print ((toString job.id).toList ++ ['\n'])
  else do
    let current := (← theRunner).jobs.head?.map Job.slot == some job.slot
    print (job.text current (style == some 'l'))
    onRunner fun r => { r with jobs := r.jobs.filter (·.slot != job.slot) }

/-- Shows processes that were left to themselves. -/
def jobsCommand (arguments : List (List Char)) : Doing Int := do
  let a ← optionsOf "lp" "" arguments
  let style := a.options.getLast?.map (·.1)
  if a.operands.isEmpty then
    let jobs := (← theRunner).jobs
    for job in jobs do
      showJob style job
  for name in a.operands do
    showJob style (← jobOf (some name))
  return 0

/-- Processes that were left to themselves cannot be taken back. -/
def resumeCommand (arguments : List (List Char)) : Doing Int := do
  let name := (← optionsOf "" "" arguments).operands.head?
  let _ ← jobOf name
  fail ("job ".toList ++ name.getD "(null)".toList ++ " not created under job control".toList)

/-! ### The working directory -/

/-- The names of a path between its slashes. -/
def namesOf (path : List Char) : List (List Char) := (Path.pieces (bytesOf path)).map charsOf

/-- The path that a path leads to from a directory, without names that only go back; `none` if it is
not known where the directory is.  Exactly two slashes at the front are kept. -/
def pathBehind (directory target : List Char) : Option (List Char) :=
  let absolute := target.head? == some '/'
  let isDouble := fun (path : List Char) =>
    ['/', '/'].isPrefixOf path && (path.drop 2).head? != some '/'
  let front := if isDouble (if absolute then target else directory) then ['/', '/'] else ['/']
  if directory = [] ∧ absolute = false then none
  else
    let walked := (namesOf target).foldl
      (fun (front : List (List Char)) name =>
        if name = ['.'] then front else if name = ['.', '.'] then front.dropLast else front ++ [name])
      (if absolute then [] else namesOf directory)
    some (front ++ joinNames walked)
where
  /-- Names with slashes between them. -/
  joinNames (names : List (List Char)) : List Char := (names.intersperse ['/']).flatten

/-- The path of the working directory that its place in the tree gives; it may have none. -/
def physicalDirectory : Doing (List Char) := do
  let m := (← get).machine
  match m.tree.pathOf m.process.directory with
  | .ok path => return charsOf path
  | .error e => do
    warn ("getcwd() failed: ".toList ++ reason e)
    return []

/-- The script takes note of its working directory. -/
def noteDirectory (path : Option (List Char)) (old : Bool) : Doing Unit := do
  if old then setVariable "OLDPWD".toList (some (← theRunner).directory) true false
  let path ← match path with
    | some path => pure path
    | none => physicalDirectory
  onRunner fun r => { r with directory := path }
  setVariable "PWD".toList (some path) true false

/-- Whether a path leads to a directory. -/
def isDirectoryAt (m : State) (path : List Char) : Bool :=
  match m.locate (bytesOf path) with
  | .ok n => m.tree.isDirectory n
  | .error _ => false

/-- Changes the working directory. -/
def cdCommand (arguments : List (List Char)) : Doing Int := do
  let a ← optionsOf "LP" "" arguments
  let physical := (a.options.getLast?.map (·.1)) == some 'P'
  let r ← get
  let (given, back) :=
    match a.operands.head? with
    | none => ((r.runner.value? "HOME".toList).getD [], false)
    | some ['-'] => ((r.runner.value? "OLDPWD".toList).getD [], true)
    | some path => (path, false)
  let front := (namesOf given).headD []
  let direct := given.head? == some '/' || front == ['.'] || front == ['.', '.']
  let given' := if given = [] then ['.'] else given
  let search := if direct then [] else
    (colonPieces ((r.runner.value? "CDPATH".toList).getD [])).map fun d =>
      (if d = [] then given' else d ++ ['/'] ++ given', d != [])
  let (target, far) :=
    (search.find? fun p => isDirectoryAt r.machine p.1).getD (given, false)
  let logical := if physical then none else pathBehind r.runner.directory target
  let path := logical.getD target
  match r.machine.locate (bytesOf path) with
  | .ok n =>
    if r.machine.tree.isDirectory n then do
      onMachine (modify fun m => m.modifyProcess ({ · with directory := n }))
      onRunner Runner.doubtFound
      noteDirectory logical true
      if back || far then print ((← theRunner).directory ++ ['\n'])
      return 0
    else fail ("can't cd to ".toList ++ given)
  | .error _ => fail ("can't cd to ".toList ++ given)

/-- Prints the path of the working directory. -/
def pwdCommand (arguments : List (List Char)) : Doing Int := do
  let a ← optionsOf "LP" "" arguments
  let path ←
    if (a.options.getLast?.map (·.1)) == some 'P' then physicalDirectory
    else pure (← theRunner).directory
  print (path ++ ['\n'])
  return 0

/-! ### Variables -/

/-- A definition cut at its first equals sign. -/
def definition (cs : List Char) : List Char × Option (List Char) :=
  let name := cs.takeWhile (· != '=')
  (name, if name.length < cs.length then some (cs.drop (name.length + 1)) else none)

/-- The variables of a kind by name, written so that they could be read back. -/
def variablesText (front : List Char) (wanted : Variable → Bool) (r : Runner) : List Char :=
  ((r.bindings.filter wanted).mergeSort fun v w => isAtMost v.name w.name).flatMap fun v =>
    front ++ v.name ++ ((v.value.map fun value => '=' :: quotedValue value).getD []) ++ ['\n']

/-- Hands variables on to programs, or keeps them from being changed. -/
def exportCommand (constant : Bool) (arguments : List (List Char)) : Doing Int := do
  let a ← optionsOf "p" "" arguments
  if a.has 'p' || a.operands.isEmpty then
    print (variablesText (if constant then "readonly " else "export ").toList
      (fun v => if constant then v.constant else v.exported) (← theRunner))
    return 0
  for operand in a.operands do
    let (name, value) := definition operand
    match value, (← theRunner).binding? name with
    | none, some v =>
      onRunner fun r => r.put { v with
        exported := v.exported || !constant
        constant := v.constant || constant }
    | _, _ => setVariable name value (!constant) constant
  return 0

/-- Gives the running function variables of its own. -/
def localCommand (arguments : List (List Char)) : Doing Int := do
  if (← theRunner).frames.isEmpty then fail "not in a function".toList
  for argument in arguments do
    if argument != ['-'] then
      let (name, value) := definition argument
      makeLocal name value false
  return 0

/-- Takes variables or functions away. -/
def unsetCommand (arguments : List (List Char)) : Doing Int := do
  let a ← optionsOf "vf" "" arguments
  for name in a.operands do
    if (a.options.getLast?.map (·.1)) == some 'f' then
      onRunner fun r => { r with functions := r.functions.filter fun f => f.1 != name }
    else setVariable name none false false
  return 0

/-- Drops the first arguments. -/
def shiftCommand (arguments : List (List Char)) : Doing Int := do
  let n ← match arguments with
    | [] => pure 1
    | count :: _ => demandCount count
  if (← theRunner).arguments.length < n then fail "can't shift that many".toList
  onRunner fun r => { r with arguments := r.arguments.drop n, place := ⟨1, none⟩ }
  return 0

/-- The options of the interpreter by name, with the letters of those that have one. -/
def optionNames : List (String × Option Char) :=
  [("errexit", some 'e'), ("noglob", some 'f'), ("ignoreeof", some 'I'), ("interactive", some 'i'),
   ("monitor", some 'm'), ("noexec", some 'n'), ("stdin", some 's'), ("xtrace", some 'x'),
   ("verbose", some 'v'), ("vi", some 'V'), ("emacs", some 'E'), ("noclobber", some 'C'),
   ("allexport", some 'a'), ("notify", some 'b'), ("nounset", some 'u'), ("privileged", some 'p'),
   ("nolog", none), ("debug", none)]

/-- The options, one on each line. -/
def optionsText (on : Bool) (r : Runner) : List Char :=
  let isOn := fun letter : Option Char => (letter.map r.has).getD false
  if on then
    "Current option settings\n".toList ++ optionNames.flatMap fun (name, letter) =>
      (name ++ "".pushn ' ' (16 - name.length) ++ (if isOn letter then "on\n" else "off\n")).toList
  else
    optionNames.flatMap fun (name, letter) =>
      ("set " ++ (if isOn letter then "-o " else "+o ") ++ name ++ "\n").toList

/-- An option is set or not. -/
def setOption (on : Bool) (letter : Char) : Doing Unit :=
  onRunner fun r =>
    { r with options := (if on then [letter] else []) ++ r.options.filter (· != letter) }

/-- The options in one argument behind its sign; the other arguments that are left.  At the start of a
script a further option says that its text follows, which is the answer. -/
def setLetters (on starting : Bool) : List Char → List (List Char) → Bool →
    Doing (List (List Char) × Bool)
  | [], rest, text => return (rest, text)
  | 'o' :: cs, rest, text => do
    match rest with
    | [] =>
      print (optionsText on (← theRunner))
      setLetters on starting cs [] text
    | name :: rest =>
      match optionNames.lookup (String.ofList name) with
      | some letter =>
        match letter with
        | some letter => setOption on letter
        | none => pure ()
        setLetters on starting cs rest text
      | none => fail ("Illegal option -o ".toList ++ name)
  | c :: cs, rest, text => do
    if starting && c == 'c' then setLetters on starting cs rest true
    else if starting && c == 'l' then setLetters on starting cs rest text
    else if optionNames.any fun o => o.2 == some c then
      setOption on c
      setLetters on starting cs rest text
    else fail ("Illegal option -".toList ++ [c])

/-- Sets the options at the front of some arguments.  The answer is what is left, whether the arguments
of the script are replaced even by none, and whether the text of a script follows. -/
def setOptions (starting : Bool) (fuel : Nat) (text : Bool) (arguments : List (List Char)) :
    Doing (List (List Char) × Bool × Bool) := do
  match fuel, arguments with
  | 0, rest => return (rest, false, text)
  | _, ['-'] :: rest => do
    if !starting then
      setOption false 'x'
      setOption false 'v'
    return (rest, false, text)
  | _, ['-', '-'] :: rest => return (rest, true, text)
  | fuel + 1, ('-' :: cs) :: rest => do
    let (rest, text) ← setLetters true starting cs rest text
    setOptions starting fuel text rest
  | fuel + 1, ('+' :: cs) :: rest => do
    let (rest, text) ← setLetters false starting cs rest text
    setOptions starting fuel text rest
  | _, rest => return (rest, false, text)

/-- The option by which processes get the terminal one by one needs a terminal; without one it is taken
back.  Only the process that began the script cares. -/
def demandTerminal : Doing Unit := do
  let r ← get
  let m := r.machine
  if r.runner.has 'm' && m.process.id == r.runner.root && m.terminal.isNone then
    warn "can't access tty; job control turned off".toList
    setOption false 'm'

/-- Sets options and the arguments of the script, or shows the variables. -/
def setCommand (arguments : List (List Char)) : Doing Int := do
  if arguments.isEmpty then
    print (variablesText [] (fun v => v.value.isSome) (← theRunner))
    return 0
  let (rest, replaced, _) ← setOptions false arguments.length false arguments
  demandTerminal
  if replaced || !rest.isEmpty then
    onRunner fun r => { r with arguments := rest, place := ⟨1, none⟩ }
  return 0

/-- What the next option of some arguments is. -/
inductive NextOption where
  /-- There is none. -/
  | ended
  /-- A letter with a value, if it takes one. -/
  | letter (c : Char) (value : Option (List Char))
  /-- A letter that is no option. -/
  | illegal (c : Char)
  /-- A letter without the value that it takes. -/
  | incomplete (c : Char)

/-- The next option at a place in some arguments, and the place behind it. -/
def nextOption (known : List Char) (arguments : List (List Char)) (place : OptionPlace) :
    NextOption × OptionPlace :=
  let current := match place.offset with
    | some offset => ((arguments[place.index - 2]?).getD []).drop offset
    | none => []
  let start : Option (List Char × Nat) :=
    if current ≠ [] then some (current, place.index)
    else
      match arguments[place.index - 1]? with
      | some ('-' :: c :: cs) => some (c :: cs, place.index + 1)
      | _ => none
  match start with
  | none => (.ended, ⟨place.index, none⟩)
  | some (['-'], index) => if current = [] then (.ended, ⟨index, none⟩) else
      (.illegal '-', ⟨index, none⟩)
  | some ([], index) => (.ended, ⟨index, none⟩)
  | some (c :: cs, index) =>
    let whole := (arguments[index - 2]?).getD []
    let behind : OptionPlace := ⟨index, if cs = [] then none else some (whole.length - cs.length)⟩
    match if c = ':' then [] else known.dropWhile (· != c) with
    | [] => (.illegal c, behind)
    | _ :: ':' :: _ =>
      if cs ≠ [] then (.letter c (some cs), ⟨index, none⟩)
      else
        match arguments[index - 1]? with
        | some value => (.letter c (some value), ⟨index + 1, none⟩)
        | none => (.incomplete c, ⟨index, none⟩)
    | _ => (.letter c none, behind)

/-- Takes the next option from the arguments of the script, or from others. -/
def getoptsCommand (arguments : List (List Char)) : Doing Int := do
  match (← optionsOf "" "" arguments).operands with
  | known :: name :: others =>
    let r ← theRunner
    let source := if others.isEmpty then r.arguments else others
    let place := if source.length + 1 < r.place.index then ⟨1, none⟩ else r.place
    let (next, behind) := nextOption known source place
    let quiet := known.head? == some ':'
    let argument := "OPTARG".toList
    let letter ← match next with
      | .ended => pure '?'
      | .letter c value => do
        assign argument (value.getD [])
        pure c
      | .illegal c => do
        if quiet then assign argument [c]
        else
          onMachine (say 2 ("Illegal option -".toList ++ [c, '\n']))
          setVariable argument none false false
        pure '?'
      | .incomplete c => do
        if quiet then
          assign argument [c]
          pure ':'
        else
          onMachine (say 2 ("No arg for -".toList ++ [c] ++ " option\n".toList))
          setVariable argument none false false
          pure '?'
    assign "OPTIND".toList (toString behind.index).toList
    onRunner fun r => { r with place := behind }
    assign name [letter]
    return match next with | .ended => 1 | _ => 0
  | _ => fail "Usage: getopts optstring var [arg...]".toList

/-! ### Leaving -/

/-- Ends the script with a status, the last command's if none is given. -/
def exitCommand (arguments : List (List Char)) : Doing Int := do
  match arguments with
  | [] => pure ()
  | value :: _ => do
    let n ← demandCount value
    onRunner fun r => { r with kept := some n }
  throw .exit

/-- Leaves the function, or the script that was read in. -/
def returnCommand (arguments : List (List Char)) : Doing Int := do
  match arguments with
  | [] => pure ()
  | value :: _ => setStatus (← demandCount value)
  throw .back

/-- Leaves loops, or goes on with the next round of one. -/
def breakCommand (again : Bool) (arguments : List (List Char)) : Doing Int := do
  let n ← match arguments with
    | [] => pure 1
    | value :: _ => do
      let n ← demandCount value
      if n = 0 then fail (illegalNumber value) else pure n
  match min n (← theRunner).loops with
  | 0 => return 0
  | n => do
    setStatus 0
    throw (if again then .nextRound n else .leaveLoops n)

/-! ### What commands are -/

/-- The commands whose errors end the script. -/
def isSpecialCommand (name : List Char) : Bool := specialCommands.contains (String.ofList name)

/-- Tests a condition; in brackets the closing one must come last. -/
def testCommand (brackets : Bool) (arguments : List (List Char)) : Doing Int := do
  if brackets && arguments.getLast? != some [']'] then fail "missing ]".toList
  match holds (← get).machine (if brackets then arguments.dropLast else arguments) with
  | .ok true => return 0
  | .ok false => return 1
  | .error misuse => fail misuse.message

/-- The permission bits in octal digits, four at least. -/
def maskText (n : Nat) : List Char :=
  let digits := Nat.toDigits 8 n
  List.replicate (4 - digits.length) '0' ++ digits

/-- The permission bits that are given, in letters. -/
def maskLetters (n : Nat) : List Char :=
  let given := 0o777 - n % 0o1000
  let letters := fun (shift : Nat) =>
    ([('r', 4), ('w', 2), ('x', 1)].filter fun p => given >>> shift &&& p.2 != 0).map (·.1)
  "u=".toList ++ letters 6 ++ ",g=".toList ++ letters 3 ++ ",o=".toList ++ letters 0

/-- The bits of a change in letters, such as `u=rw`; the bits that are given afterwards. -/
def changedBits (given : Nat) (cs : List Char) : Option Nat :=
  let who := cs.takeWhile ("ugoa".toList.contains ·)
  let classes := [('u', 6), ('g', 3), ('o', 0)].filter fun p =>
    who.isEmpty || who.contains 'a' || who.contains p.1
  match cs.drop who.length with
  | operator :: letters =>
    if letters.all fun c => "rwx".toList.contains c then
      let bits := (if letters.contains 'r' then 4 else 0) + (if letters.contains 'w' then 2 else 0) +
        (if letters.contains 'x' then 1 else 0)
      let mask := classes.foldl (fun n p => n + bits <<< p.2) 0
      let all := classes.foldl (fun n p => n + 7 <<< p.2) 0
      if operator = '=' then some (given - (given &&& all) + mask)
      else if operator = '+' then some (given ||| mask)
      else if operator = '-' then some (given - (given &&& mask))
      else none
    else none
  | [] => none

/-- Sets the permission bits that are kept from new files, or shows them. -/
def umaskCommand (arguments : List (List Char)) : Doing Int := do
  let a ← optionsOf "S" "" arguments
  let withheld := (← get).machine.process.withheld
  let set := fun (n : Nat) =>
    onMachine (modify fun m => m.modifyProcess ({ · with withheld := n }))
  match a.operands with
  | [] =>
    print ((if a.has 'S' then maskLetters withheld else maskText withheld) ++ ['\n'])
    return 0
  | mode :: _ =>
    if (mode.head?.map Char.isDigit).getD false then
      if (digitsAt 8 mode).2 = mode.length then
        set ((digitsAt 8 mode).1 % 0o1000)
        return 0
      else fail (illegalNumber mode)
    else
      let pieces := (String.ofList mode).splitOn ","
      match pieces.foldl (fun n piece => n.bind (changedBits · piece.toList))
        (some (0o777 - withheld % 0o1000)) with
      | some given =>
        set (0o777 - given)
        return 0
      | none => fail ("Illegal mode: ".toList ++ mode)

/-- Prints a limit of the process. -/
def ulimitCommand (arguments : List (List Char)) : Doing Int := do
  let a ← optionsOf "HSatfdscmlpnvwr" "" arguments
  let which := ((a.options.map (·.1)).filter fun c => c != 'H' && c != 'S').getLast?.getD 'f'
  if a.operands.isEmpty then
    print ((if which = 'c' then "0\n" else if which = 's' then "8192\n" else "unlimited\n").toList)
  return 0

/-- Takes short names away, of which there are none. -/
def unaliasCommand (arguments : List (List Char)) : Doing Int := do
  let a ← optionsOf "a" "" arguments
  if a.has 'a' then return 0
  for name in a.operands do
    onMachine (say 2 ("unalias: ".toList ++ name ++ " not found\n".toList))
  return if a.operands.isEmpty then 0 else 1

/-- A command that the interpreter carries out itself, by its name; its status is the answer.  The
ones that carry out other commands are not among these. -/
def ownCommand (name : String) : Option (List (List Char) → Doing Int) :=
  match name with
  | ":" | "true" => some fun _ => return 0
  | "false" => some fun _ => return 1
  | "exit" => some exitCommand
  | "return" => some returnCommand
  | "break" => some (breakCommand false)
  | "continue" => some (breakCommand true)
  | "printf" => some printfCommand
  | "echo" => some echoCommand
  | "read" => some readCommand
  | "kill" => some killCommand
  | "trap" => some trapCommand
  | "wait" => some waitCommand
  | "cd" | "chdir" => some cdCommand
  | "pwd" => some pwdCommand
  | "[" => some (testCommand true)
  | "test" => some (testCommand false)
  | "export" => some (exportCommand false)
  | "readonly" => some (exportCommand true)
  | "local" => some localCommand
  | "unset" => some unsetCommand
  | "shift" => some shiftCommand
  | "set" => some setCommand
  | "getopts" => some getoptsCommand
  | "umask" => some umaskCommand
  | "ulimit" => some ulimitCommand
  | "times" => some fun _ => do
    print "0m0.000000s 0m0.000000s\n0m0.000000s 0m0.000000s\n".toList
    return 0
  | "jobs" => some jobsCommand
  | "fg" | "bg" => some resumeCommand
  | "unalias" => some unaliasCommand
  | _ => none

/-- The commands that carry out other commands or tell of them. -/
def guidingCommands : List String := [".", "command", "eval", "exec", "hash", "type", "alias"]

/-- Whether a name is that of a command of the interpreter's own. -/
def isOwnCommand (name : List Char) : Bool :=
  (ownCommand (String.ofList name)).isSome || guidingCommands.contains (String.ofList name)

/-- What a name means as a command: a line for people, or one for scripts.  Programs are looked for in
the directories of `path`, or in those of the script. -/
def described (path : Option (List Char)) (talking : Bool) (name : List Char) :
    Doing (Option (List Char)) := do
  let r ← get
  let line := fun (text : String) => some (if talking then name ++ text.toList else name)
  if reserved.contains (String.ofList name) then return line " is a shell keyword"
  else if name.contains '/' then
    if (r.machine.locate (bytesOf name)).isOk then
      return some (if talking then name ++ " is ".toList ++ name else name)
    else return none
  else if isSpecialCommand name then return line " is a special shell builtin"
  else if (r.runner.functions.lookup name).isSome then return line " is a shell function"
  else if isOwnCommand name then return line " is a shell builtin"
  else
    let known := r.runner.found.find? (·.name == name)
    let found ← match known, path with
      | some f, _ => pure (some f.path)
      | none, some path => pure ((programPaths r.machine path name).toOption.bind List.head?)
      | none, none => do
        let (paths, runner) := r.lookUp name
        onRunner fun _ => runner
        pure (paths.toOption.bind List.head?)
    return found.map fun p =>
      if talking then
        name ++ (if known.isSome then " is a tracked alias for " else " is ").toList ++ p
      else p

/-- Tells what names mean as commands. -/
def tell (path : Option (List Char)) (talking : Bool) (status : Int) : List (List Char) → Doing Int
  | [] => return status
  | name :: rest => do
    match ← described path talking name with
    | some text => do
      print (text ++ ['\n'])
      tell path talking status rest
    | none => do
      if talking then print (name ++ ": not found\n".toList)
      tell path talking 127 rest

end LineShell.Machine.Script
