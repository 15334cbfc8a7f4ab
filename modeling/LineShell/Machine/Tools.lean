/-
**Installed programs.**

The programs below act for the process that runs them: they read, write and change files through its
descriptors and its working directory, and end with a status.  Each knows the path it was started by
and puts it in front of its complaints.

Main definitions:

* `LineShell.Machine.say`, `LineShell.Machine.readAll` — output, and the whole of an input;
* `LineShell.Machine.Tool.run` — what a program does.
-/

import LineShell.Machine.Script.Format
import LineShell.Machine.Terminal
import LineShell.Machine.Tools.Display
import LineShell.Machine.Tools.Options

set_option autoImplicit false

namespace LineShell.Machine

open Script (charsOf bytesOf)

/-! ### Input and output -/

/-- Writes text to a descriptor; a failure goes unnoticed. -/
def say (descriptor : Nat) (cs : List Char) : StateM State Unit := fun m =>
  ((), (write descriptor (bytesOf cs) m).2)

/-- Complains on standard error. -/
def complain (name : List Char) (text : List Char) : StateM State Unit :=
  say 2 (name ++ [':', ' '] ++ text ++ ['\n'])

/-- A complaint about the arguments, with the advice that goes with it. -/
def adviseHelp (name text : List Char) : StateM State Unit := do
  complain name text
  say 2 ("Try '".toList ++ name ++ " --help' for more information.\n".toList)

/-- The number of bytes that one read asks for. -/
def readSize : Nat := 131072

/-- Everything up to the end of the input, in at most so many reads. -/
def readUpTo (descriptor : Nat) : Nat → State → Except Errno Bytes × State
  | 0, m => (.ok [], m)
  | fuel + 1, m =>
    match read descriptor readSize m with
    | (.error e, m') => (.error e, m')
    | (.ok [], m') => (.ok [], m')
    | (.ok (b :: bs), m') =>
      match readUpTo descriptor fuel m' with
      | (r, m'') => (r.map (b :: bs ++ ·), m'')

/-- Everything up to the end of the input. -/
def readAll (descriptor : Nat) : StateM State (Except Errno Bytes) := readUpTo descriptor 65536

/-- What a file holds, or standard input if the name is a dash. -/
def contentOf (name : List Char) : StateM State (Except Errno Bytes) := fun m =>
  if name = ['-'] then readAll 0 m
  else
    match openAt .toRead (bytesOf name) m with
    | (.error e, m') => (.error e, m')
    | (.ok descriptor, m') =>
      match readAll descriptor m' with
      | (r, m'') => (r, m''.modifyProcess (·.close descriptor))

/-- The text of an error. -/
def reason (e : Errno) : List Char := e.systemText.toList

/-! ### The programs -/

/-- Complains that standard output cannot be written. -/
def complainOfOutput (name : List Char) (e : Errno) : StateM State Unit :=
  complain name ("write error: ".toList ++ reason e)

/-- Prints all that a program prints; its status is `status` unless that fails. -/
def printAll (name : List Char) (status : Int) (cs : List Char) : StateM State Int := fun m =>
  if cs = [] then (status, m)
  else
    match write 1 (bytesOf cs) m with
    | (.ok (), m') => (status, m')
    | (.error e, m') => (1, (complainOfOutput name e m').2)

/-- Whether a descriptor reads a file, not at its end, that standard output writes. -/
def feedsItself (m : State) (descriptor : Nat) : Bool :=
  match m.openFile? descriptor, m.openFile? 1 with
  | some (_, input), some (_, output) =>
    match m.tree.node input.node with
    | .file content _ => input.node == output.node && decide (input.position < content.length)
    | _ => false
  | _, _ => false

/-- Copies files, or standard input, to standard output; `progress` is how far they were shown. -/
def copyFiles (name : List Char) (style : DisplayStyle) (progress : DisplayState) :
    List (List Char) → StateM State Int
  | [] => return 0
  | file :: rest => do
    let m ← get
    let refuse := fun (text : List Char) => do
      complain name (shown file ++ [':', ' '] ++ text)
      let _ ← copyFiles name style progress rest
      return 1
    match if file = ['-'] then (.ok 0, m) else openAt .toRead (bytesOf file) m with
    | (.error e, _) => refuse (reason e)
    | (.ok descriptor, m') => do
      set m'
      let closing := modify fun m =>
        if file = ['-'] then m else m.modifyProcess (·.close descriptor)
      if feedsItself m' descriptor then do
        closing
        refuse "input file is output file".toList
      else
        let content ← readAll descriptor
        closing
        match content with
        | .error e => refuse (reason e)
        | .ok bytes =>
          let (visible, progress) :=
            if style = .plain then (bytes, progress) else style.display progress bytes
          if (← printAll name 0 (charsOf visible)) = 0 then copyFiles name style progress rest
          else return 1

/-- The style that options ask for. -/
def displayStyle (a : Arguments) : DisplayStyle :=
  let has := fun (letters : String) => letters.toList.any a.has
  { numbering := if a.has 'b' then .filled else if a.has 'n' then .all else .none
    ends := has "AeE"
    tabs := has "AtT"
    invisible := has "Aetv"
    squeezed := a.has 's' }

/-- Copies files, unless standard output is closed. -/
def copyAll (name : List Char) (style : DisplayStyle) (files : List (List Char)) :
    StateM State Int := do
  match (← get).openFile? 1 with
  | some _ => copyFiles name style .start files
  | none => do
    complain name ("standard output: ".toList ++ reason Errno.badDescriptor)
    return 1

/-- The options of a program that prints its arguments: whether a line is ended, whether escapes are
carried out, and the arguments. -/
def echoOptions (newline escapes : Bool) : List (List Char) → Bool × Bool × List (List Char)
  | ('-' :: c :: cs) :: rest =>
    if (c :: cs).all (fun d => d == 'n' || d == 'e' || d == 'E') then
      echoOptions (newline && !(c :: cs).contains 'n')
        ((c :: cs).foldl (fun e d => if d = 'e' then true else if d = 'E' then false else e) escapes)
        rest
    else (newline, escapes, ('-' :: c :: cs) :: rest)
  | arguments => (newline, escapes, arguments)

/-- Prints its arguments on one line. -/
def printArguments (name : List Char) (arguments : List (List Char)) : StateM State Int :=
  let (newline, escapes, words) := echoOptions true false arguments
  let text := words.intersperse [' '] |>.flatten
  let (text, ending) :=
    if escapes then Script.EscapeRules.installedEcho.apply text else (text, .complete)
  printAll name 0 (if newline && ending == .complete then text ++ ['\n'] else text)

/-- The wording of what is wrong with a format or an argument; whether it is only a warning. -/
def formatComplaint : Script.FormatFault → List Char × Bool
  | .noNumber text => (escapedInQuotes text ++ ": expected a numeric value".toList, false)
  | .unconverted text => (escapedInQuotes text ++ ": value not completely converted".toList, false)
  | .outOfRange text => (escapedInQuotes text ++ ": Numerical result out of range".toList, false)
  | .ignored text =>
    ("warning: ".toList ++ text ++
      ": character(s) following character constant have been ignored".toList, true)
  | .invalid directive | .noLetter directive =>
    (directive ++ ": invalid conversion specification".toList, false)
  | .noDigits => ("missing hexadecimal number in escape".toList, false)

/-- Prints its arguments by a format. -/
def printFormatted (name : List Char) : List (List Char) → StateM State Int
  | [] => do
    adviseHelp name "missing operand".toList
    return 1
  | format :: arguments => do
    let p := Script.printed true format arguments
    for fault in p.faults do
      complain name (formatComplaint fault).1
    match p.finished, p.arguments with
    | false, argument :: _ =>
      complain name ("warning: ignoring excess arguments, starting with ".toList ++
        escapedInQuotes argument)
    | _, _ => pure ()
    printAll name (if p.faults.all fun fault => (formatComplaint fault).2 then 0 else 1) p.text

/-- The first so many lines. -/
def firstLines (n : Nat) (bs : Bytes) : Bytes := ((rawLines bs).take n).flatten

/-- The number of bytes that a program asks for which needs only the first part of an input. -/
def blockSize : Nat := 8192

/-- The machine after some bytes that were read last are put back; only a regular file takes them. -/
def putBack (descriptor count : Nat) (m : State) : State :=
  match m.openFile? descriptor with
  | some (n, f) =>
    match m.tree.node f.node with
    | .file _ _ => m.seek n (f.position - count)
    | _ => m
  | none => m

/-- The first so many bytes of an input, in at most so many reads; no byte more is read. -/
def readBytes (descriptor : Nat) : Nat → Nat → State → Except Errno Bytes × State
  | 0, _, m => (.ok [], m)
  | _ + 1, 0, m => (.ok [], m)
  | fuel + 1, wanted + 1, m =>
    match read descriptor (min blockSize (wanted + 1)) m with
    | (.error e, m') => (.error e, m')
    | (.ok [], m') => (.ok [], m')
    | (.ok (b :: bs), m') =>
      match readBytes descriptor fuel (wanted - bs.length) m' with
      | (r, m'') => (r.map (b :: bs ++ ·), m'')

/-- The first so many lines of an input, in at most so many reads; what the last block holds after
them is put back. -/
def readLines (descriptor : Nat) : Nat → Nat → State → Except Errno Bytes × State
  | 0, _, m => (.ok [], m)
  | _ + 1, 0, m => (.ok [], m)
  | fuel + 1, wanted + 1, m =>
    match read descriptor blockSize m with
    | (.error e, m') => (.error e, m')
    | (.ok [], m') => (.ok [], m')
    | (.ok (b :: bs), m') =>
      let lines := firstLines (wanted + 1) (b :: bs)
      let m' := putBack descriptor ((b :: bs).length - lines.length) m'
      match readLines descriptor fuel (wanted + 1 - lines.count 10) m' with
      | (r, m'') => (r.map (lines ++ ·), m'')

/-- A part at the front of an input. -/
structure FirstPart where
  /-- Whether lines are counted, or bytes. -/
  lines : Bool
  /-- Whether the count is that of what is left out at the end. -/
  left : Bool
  /-- The count. -/
  count : Nat

/-- The factors that letters behind a count stand for. -/
def countUnits : List (String × Nat) :=
  [("", 1), ("b", 512)] ++
    ([("k", 1), ("K", 1), ("m", 2), ("M", 2), ("G", 3), ("T", 4), ("P", 5), ("E", 6)].flatMap
      fun (letter, power) =>
        [(letter, Nat.pow 1024 power), (letter ++ "iB", Nat.pow 1024 power),
          (letter ++ "B", Nat.pow 1000 power)])

/-- The number in front of a unit. -/
def countOf? (cs : List Char) : Option Nat :=
  let digits := cs.takeWhile Char.isDigit
  match Script.natural? digits, countUnits.lookup (String.ofList (cs.drop digits.length)) with
  | some n, some factor => some (n * factor)
  | _, _ => none

/-- The part that options ask for; a count that is none, and whether it counts lines. -/
def firstPartOf (part : FirstPart) :
    List (Char × List Char) → Except (Bool × List Char) FirstPart
  | [] => .ok part
  | (letter, value) :: rest =>
    let lines := letter == 'n'
    let (left, digits) := match value with
      | '-' :: digits => (true, digits)
      | digits => (false, digits)
    match countOf? (if digits.head? = some '+' then digits.tail else digits) with
    | some n => firstPartOf ⟨lines, left, n⟩ rest
    | none => .error (lines, digits)

/-- Arguments whose first may be a dash, a number and letters; a letter that has no meaning there. -/
def withLineCount : List (List Char) → Except Char (List (List Char))
  | ('-' :: c :: cs) :: rest =>
    if c.isDigit then
      let digits := (c :: cs).takeWhile Char.isDigit
      let letters := (c :: cs).drop digits.length
      match letters.find? fun d => !"clqvz".toList.contains d with
      | some d => .error d
      | none =>
        let last := letters.reverse.find? fun d => d == 'c' || d == 'l'
        let unit := if last = some 'c' then 'c' else 'n'
        .ok (['-', unit] :: digits ::
          (letters.filter fun d => d != 'c' && d != 'l').map (fun d => ['-', d]) ++ rest)
    else .ok (('-' :: c :: cs) :: rest)
  | arguments => .ok arguments

/-- A part at the front of what a descriptor reads. -/
def readPart (part : FirstPart) (descriptor : Nat) : StateM State (Except Errno Bytes) := do
  if part.left then
    match ← readAll descriptor with
    | .error e => return .error e
    | .ok bytes =>
      let lines := rawLines bytes
      return .ok (if part.lines then (lines.take (lines.length - part.count)).flatten
        else bytes.take (bytes.length - part.count))
  else fun m => (if part.lines then readLines else readBytes) descriptor 65536 part.count m

/-- The first parts of files, each under its name if there are several, and the status. -/
def firstParts (name : List Char) (part : FirstPart) (several first : Bool) :
    List (List Char) → StateM State (Int × List Char)
  | [] => return (0, [])
  | file :: rest => do
    let m ← get
    let title := if file = ['-'] then "standard input".toList else file
    let opened := if file = ['-'] then (.ok 0, m) else openAt .toRead (bytesOf file) m
    let (status, text) ← match opened with
      | (.error e, _) => do
        complain name
          ("cannot open ".toList ++ inQuotes file ++ " for reading: ".toList ++ reason e)
        pure (1, none)
      | (.ok descriptor, m') => do
        set m'
        let header := if several then
          (if first then [] else ['\n']) ++ "==> ".toList ++ title ++ " <==\n".toList else []
        let content ← readPart part descriptor
        if file ≠ ['-'] then modify (State.modifyProcess (·.close descriptor))
        match content with
        | .ok bytes => pure (0, some (header ++ charsOf bytes))
        | .error e => do
          complain name ("error reading ".toList ++ inQuotes title ++ ": ".toList ++ reason e)
          pure (1, some header)
    let (others, behind) ← firstParts name part several (first && text.isNone) rest
    return (max status others, text.getD [] ++ behind)

/-- Creates the files that are missing. -/
def createFiles (name : List Char) : List (List Char) → StateM State Int
  | [] => return 0
  | file :: rest => do
    let m ← get
    let exists_ := file == ['-'] || (m.tree.resolve m.process.directory (bytesOf file)).isOk
    let status ←
      if exists_ then pure 0
      else
        match openAt ⟨false, true, some 0o666, false, false⟩ (bytesOf file) m with
        | (.ok descriptor, m') => do
          set (m'.modifyProcess (·.close descriptor))
          pure 0
        | (.error e, _) => do
          if e = Errno.isDirectory then
            complain name
              ("setting times of ".toList ++ inQuotes file ++ ": ".toList ++ reason Errno.noEntry)
          else complain name ("cannot touch ".toList ++ inQuotes file ++ ": ".toList ++ reason e)
          pure 1
    return max status (← createFiles name rest)

/-- Makes a directory at a path. -/
def makeDirectory (path : Bytes) (m : State) : Except Errno State :=
  match m.tree.parentOf m.process.directory path with
  | .error e => .error e
  | .ok (parent, name) =>
    if name = dot ∨ name = dotDot ∨ (m.tree.child parent name).isSome = true then
      .error Errno.exists_
    else if m.tree.isLinked parent then
      .ok { m with tree := (m.tree.create parent name (.directory [] parent)).2 }
    else .error Errno.noEntry

/-- The paths to the directories on the way to a path, and the path itself. -/
def pathsTo (path : List Char) : List (List Char) :=
  let ends := (List.range (path.length + 1)).filter fun n =>
    0 < n && path[n - 1]? != some '/' && (path[n]?.getD '/') == '/'
  let fronts := ends.map path.take
  fronts.dropLast ++ [path]

/-- Makes the missing directories among some paths, each of which leads on from the one before it; the
status and what is told of each. -/
def makeMissing (name : List Char) : List (List Char) → StateM State (Int × List Char)
  | [] => return (0, [])
  | path :: rest => do
    let m ← get
    let refuse := fun (e : Errno) => do
      complain name
        ("cannot create directory ".toList ++ escapedInQuotes path ++ ": ".toList ++ reason e)
      return (1, [])
    match m.tree.resolve m.process.directory (bytesOf path) with
    | .ok n =>
      if m.tree.isDirectory n then makeMissing name rest
      else refuse (if rest = [] then Errno.exists_ else Errno.notDirectory)
    | .error _ =>
      match makeDirectory (bytesOf path) m with
      | .error e => refuse e
      | .ok m' => do
        set m'
        let (status, told) ← makeMissing name rest
        return (status, name ++ ": created directory ".toList ++ inQuotes path ++ ['\n'] ++ told)

/-- Makes directories, with those on the way to them if `parents`; the status and what is told. -/
def makeDirectories (name : List Char) (parents : Bool) :
    List (List Char) → StateM State (Int × List Char)
  | [] => return (0, [])
  | directory :: rest => do
    let m ← get
    let (status, told) ←
      if parents then makeMissing name (pathsTo directory)
      else
        match makeDirectory (bytesOf directory) m with
        | .ok m' => do
          set m'
          pure (0, name ++ ": created directory ".toList ++ inQuotes directory ++ ['\n'])
        | .error e => do
          complain name ("cannot create directory ".toList ++ escapedInQuotes directory ++
            ": ".toList ++ reason e)
          pure (1, [])
    let (others, behind) ← makeDirectories name parents rest
    return (max status others, told ++ behind)

/-- Removes an empty directory at a path. -/
def removeDirectory (path : Bytes) (m : State) : Except Errno State :=
  match m.tree.parentOf m.process.directory path with
  | .error e => .error e
  | .ok (parent, name) =>
    if name = dot then .error (if path.all (· == slash) then Errno.busy else Errno.invalid)
    else if name = dotDot then .error Errno.notEmpty
    else
      match m.tree.child parent name with
      | none => .error Errno.noEntry
      | some n =>
        match m.tree.node n with
        | .directory [] _ => .ok { m with tree := m.tree.erase parent name }
        | .directory _ _ => .error Errno.notEmpty
        | _ => .error Errno.notDirectory

/-- Removes an empty directory, then those that lead to it; the status and what is told.  A directory
that is not empty is no failure if `lenient`. -/
def removeChain (name : List Char) (lenient first : Bool) :
    List (List Char) → StateM State (Int × List Char)
  | [] => return (0, [])
  | path :: rest => do
    let told := name ++ ": removing directory, ".toList ++ inQuotes path ++ ['\n']
    match removeDirectory (bytesOf path) (← get) with
    | .ok m' => do
      set m'
      let (status, behind) ← removeChain name lenient false rest
      return (status, told ++ behind)
    | .error e =>
      if lenient && e == Errno.notEmpty then return (0, told)
      else do
        complain name ("failed to remove ".toList ++ (if first then [] else "directory ".toList) ++
          inQuotes path ++ ": ".toList ++ reason e)
        return (1, told)

/-- Removes empty directories; the status and what is told. -/
def removeDirectories (name : List Char) (parents lenient : Bool) :
    List (List Char) → StateM State (Int × List Char)
  | [] => return (0, [])
  | directory :: rest => do
    let chain := if parents then (pathsTo directory).reverse else [directory]
    let (status, told) ← removeChain name lenient true chain
    let (others, behind) ← removeDirectories name parents lenient rest
    return (max status others, told ++ behind)

/-- A number in octal digits. -/
def octal (n : Nat) : List Char := Nat.toDigits 8 n

/-- A fact about a file, by its letter. -/
def fact (file : List Char) (node : Node) (letter : Char) : List Char :=
  match letter, node with
  | 'n', _ => file
  | 'a', .file _ mode => octal mode
  | 'a', .directory _ _ => octal 0o755
  | 'a', .link _ => octal 0o777
  | 'a', .fifo _ => octal 0o644
  | 'a', .null => octal 0o666
  | 'a', .terminal => octal 0o620
  | 'a', .program _ => octal 0o755
  | 's', .file content _ => (toString content.length).toList
  | 's', .link target => (toString target.length).toList
  | 's', _ => ['0']
  | 'F', .file [] _ => "regular empty file".toList
  | 'F', .file _ _ => "regular file".toList
  | 'F', .directory _ _ => "directory".toList
  | 'F', .link _ => "symbolic link".toList
  | 'F', .fifo _ => "fifo".toList
  | 'F', _ => "character special file".toList
  | c, _ => ['%', c]

/-- A format with facts about a file put in. -/
def facts (file : List Char) (node : Node) : List Char → List Char
  | '%' :: '%' :: rest => '%' :: facts file node rest
  | '%' :: c :: rest => fact file node c ++ facts file node rest
  | c :: rest => c :: facts file node rest
  | [] => []

/-- The node that a path leads to; a link at its end is not followed. -/
def linkNode (path : Bytes) (m : State) : Except Errno Node :=
  match m.tree.parentOf m.process.directory path with
  | .error e => .error e
  | .ok (parent, name) =>
    match (if name = dot ∨ name = dotDot ∨ (Path.ofBytes path).trailing = true then none
      else m.tree.child parent name) with
    | some n => .ok (m.tree.node n)
    | none => (m.tree.resolve m.process.directory path).map m.tree.node

/-- Facts about files by a format, and the status. -/
def factsOfAll (name : List Char) (following : Bool) (format : List Char) :
    List (List Char) → StateM State (Int × List Char)
  | [] => return (0, [])
  | file :: rest => do
    let m ← get
    let node :=
      if following then (m.tree.resolve m.process.directory (bytesOf file)).map m.tree.node
      else linkNode (bytesOf file) m
    let (status, text) ← match node with
      | .ok n => pure (0, facts file n format ++ ['\n'])
      | .error e => do
        complain name ("cannot statx ".toList ++ inQuotes file ++ ": ".toList ++ reason e)
        pure (1, [])
    let (others, behind) ← factsOfAll name following format rest
    return (max status others, text ++ behind)

/-- Changes the modes of the terminal on standard input, or tells of them. -/
def changeModes (name : List Char) (settings : List (List Char)) : StateM State Int := do
  let m ← get
  match m.terminal, m.isTerminal 0 with
  | some t, true =>
    match settings.map String.ofList with
    | [] =>
      say 1 t.modes.summary.toList
      return 0
    | ["size"] =>
      say 1 "0 0\n".toList
      return 0
    | ["speed"] =>
      say 1 "38400\n".toList
      return 0
    | words =>
      match t.modes.set words with
      | .ok modes =>
        set { m with terminal := some { t with modes := modes } }
        return 0
      | .error (.unknown word) =>
        adviseHelp name ("invalid argument ".toList ++ escapedInQuotes word.toList)
        return 1
      | .error (.incomplete word) =>
        adviseHelp name ("missing argument to ".toList ++ escapedInQuotes word.toList)
        return 1
      | .error (.noCharacter value) =>
        complain name ("invalid integer argument: ".toList ++ escapedInQuotes value.toList)
        return 1
  | _, _ =>
    complain name ("'standard input': ".toList ++ reason Errno.notTerminal)
    return 1

/-- Runs a program with its options and operands, or complains about them; `missing` is the
complaint about operands that are needed. -/
def withArguments (name : List Char) (flags valued : String) (names : List (String × Char))
    (missing : Option String) (arguments : List (List Char)) (run : Arguments → StateM State Int) :
    StateM State Int := do
  match Arguments.parse flags.toList valued.toList names arguments with
  | .error text =>
    adviseHelp name text.toList
    return 1
  | .ok a =>
    match missing, a.operands with
    | some text, [] =>
      adviseHelp name text.toList
      return 1
    | _, _ => run a

/-- What an installed program does with its arguments, given the path it was started by.  The two
that run other programs are not among these. -/
def Tool.run (tool : Tool) (name : List Char) (arguments : List (List Char)) : StateM State Int :=
  let files := fun operands : List (List Char) => if operands.isEmpty then [['-']] else operands
  match tool with
  | .cat =>
    let names := [("number-nonblank", 'b'), ("number", 'n'), ("squeeze-blank", 's'),
      ("show-nonprinting", 'v'), ("show-ends", 'E'), ("show-tabs", 'T'), ("show-all", 'A')]
    withArguments name "AbeEnstTuv" "" names none arguments fun a =>
      copyAll name (displayStyle a) (files a.operands)
  | .echo => printArguments name arguments
  | .printf =>
    printFormatted name (if arguments.head? = some ['-', '-'] then arguments.tail else arguments)
  | .succeed => return 0
  | .fail => return 1
  | .head =>
    let names := [("bytes", 'c'), ("lines", 'n'), ("quiet", 'q'), ("silent", 'q'), ("verbose", 'v'),
      ("zero-terminated", 'z')]
    match withLineCount arguments with
    | .error c => do
      adviseHelp name ("invalid trailing option -- ".toList ++ [c])
      return 1
    | .ok arguments => withArguments name "qvz0123456789" "nc" names none arguments fun a =>
      match a.options.find? fun o => o.1.isDigit with
      | some (digit, _) => do
        adviseHelp name ("invalid trailing option -- ".toList ++ [digit])
        return 1
      | none =>
      match firstPartOf ⟨true, false, 10⟩ (a.options.filter fun o => o.1 == 'n' || o.1 == 'c') with
      | .ok part => do
        let titles := match (a.options.filter fun o => o.1 == 'q' || o.1 == 'v').getLast? with
          | some (letter, _) => letter == 'v'
          | none => decide (1 < a.operands.length)
        let (status, text) ← firstParts name part titles true (files a.operands)
        printAll name status text
      | .error (lines, value) => do
        complain name ((if lines then "invalid number of lines: " else
          "invalid number of bytes: ").toList ++ escapedInQuotes value)
        return 1
  | .touch =>
    let names := [("time", 't'), ("no-create", 'c'), ("date", 'd'), ("reference", 'r'),
      ("no-dereference", 'h')]
    withArguments name "acfhm" "drt" names (some "missing file operand") arguments fun a =>
      if a.has 'c' then return 0 else createFiles name a.operands
  | .mkdir =>
    let names := [("mode", 'm'), ("parents", 'p'), ("verbose", 'v')]
    withArguments name "pv" "m" names (some "missing operand") arguments fun a => do
      let (status, told) ← makeDirectories name (a.has 'p') a.operands
      printAll name status (if a.has 'v' then told else [])
  | .rmdir =>
    let names := [("ignore-fail-on-non-empty", 'i'), ("parents", 'p'), ("verbose", 'v')]
    withArguments name "pv" "" names (some "missing operand") arguments fun a => do
      let (status, told) ← removeDirectories name (a.has 'p') (a.has 'i') a.operands
      printAll name status (if a.has 'v' then told else [])
  | .stat =>
    let names := [("dereference", 'L'), ("file-system", 'f'), ("format", 'c'), ("terse", 't')]
    withArguments name "Lft" "c" names (some "missing operand") arguments fun a => do
      let format := (a.options.reverse.lookup 'c').getD ['%', 'n']
      let (status, text) ← factsOfAll name (a.has 'L') format a.operands
      printAll name status text
  | .stty => changeModes name arguments
  | .interpreter | .env => return 0

end LineShell.Machine
