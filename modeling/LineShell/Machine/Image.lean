/-
**Loading programs.**

A path leads to an installed program or to a file.  A file may be run if some permission allows it and
nobody has it open for writing; its first line must name an interpreter, which is then run with the
file's path in front of the arguments.  Anything else has no format that can be run.

Main definitions:

* `LineShell.Machine.interpreterLine` — the interpreter that a file names;
* `LineShell.Machine.imageAt` — what a path leads to when it is to be run;
* `LineShell.Machine.loadProgram` — the installed program behind a path;
* `LineShell.Machine.envOptions` — the environment and the program that options ask for.

Main results:

* `LineShell.Machine.interpreterLine_nil` — an empty file names no interpreter.
-/

import LineShell.Machine.Tools

set_option autoImplicit false

namespace LineShell.Machine

open Script (charsOf bytesOf)

/-! ### Formats of programs -/

/-- The most bytes at the start of a file that tell its format. -/
def formatSize : Nat := 256

/-- Whether a byte is a space or a tab. -/
def isSpaceByte (b : UInt8) : Bool := b == 32 || b == 9

/-- A byte string without the spaces at its end. -/
def trimEnd (bs : Bytes) : Bytes := (bs.reverse.dropWhile isSpaceByte).reverse

/-- The name of an interpreter and what stands behind the spaces after it; `none` if there are no
such spaces. -/
def interpreterParts (line : Bytes) : Bytes × Option Bytes :=
  let line := line.dropWhile isSpaceByte
  (line.takeWhile (!isSpaceByte ·),
    match line.dropWhile (!isSpaceByte ·) with
    | [] => none
    | rest => some (rest.dropWhile isSpaceByte))

/-- The interpreter that a complete line names, whose spaces at the end do not count. -/
def completeLine (line : Bytes) : Option (Bytes × Option Bytes) :=
  match trimEnd line with
  | [] => none
  | trimmed => some (interpreterParts trimmed)

/-- The interpreter that a file names in its first line, and the argument given there.

A line is complete if it ends in a line feed, or if it fills all the bytes that are looked at but
the last one or two; one that is longer is cut off, which must not hit the interpreter's name.  A
shorter line that ends with the file or at a NUL is taken as it is: its name may be empty, and
spaces at its end start an empty argument. -/
def interpreterLine (content : Bytes) : Option (Bytes × Option Bytes) :=
  match content.take formatSize with
  | 35 :: 33 :: rest =>
    let line := rest.takeWhile fun b => b != lineFeed && b != 0
    if (rest.drop line.length).head? = some lineFeed then completeLine line
    else if line.length + 3 < formatSize then some (interpreterParts line)
    else if line.length + 3 = formatSize ∨ (line.dropWhile isSpaceByte).any isSpaceByte then
      completeLine (line.take (formatSize - 3))
    else none
  | _ => none

theorem interpreterLine_nil : interpreterLine [] = none := rfl

/-! ### Images -/

/-- What a path leads to when it is to be run. -/
inductive Image where
  /-- An installed program. -/
  | tool (tool : Tool)
  /-- A file and its bytes. -/
  | file (content : Bytes)

/-- What a path leads to when the acting process is to run it. -/
def imageAt (path : Bytes) (m : State) : Except Errno Image :=
  match m.locate path with
  | .error e => .error e
  | .ok n =>
    match m.tree.node n with
    | .program tool => .ok (.tool tool)
    | .file content mode =>
      if mode &&& 0o111 = 0 then .error Errno.accessDenied
      else if m.isBeingWritten n then .error Errno.beingWritten
      else .ok (.file content)
    | _ => .error Errno.accessDenied

/-- The most interpreters between a path and an installed program. -/
def maxInterpreters : Nat := 5

/-- The installed program behind a path, and the arguments that it is given; at most so many
interpreters lie between.  An empty name of an interpreter stands for the working directory, which
cannot be run. -/
def loadProgram (m : State) (interpreters : Nat) (path : Bytes) (arguments : List Bytes) :
    Except Errno (Tool × List Bytes) :=
  match imageAt path m with
  | .error e => .error e
  | .ok (.tool tool) => .ok (tool, arguments)
  | .ok (.file content) =>
    match interpreterLine content with
    | none => .error Errno.notExecutable
    | some ([], _) => .error Errno.accessDenied
    | some (interpreter, argument) =>
      let arguments := interpreter :: argument.toList ++ path :: arguments.tail
      match interpreters with
      | 0 =>
        match imageAt interpreter m with
        | .error e => .error e
        | .ok _ => .error Errno.tooManyLinks
      | interpreters + 1 => loadProgram m interpreters interpreter arguments

/-- The most bytes of an argument. -/
def maxArgumentLength : Nat := 131071

/-! ### Environments -/

/-- Some variables set, the rest of the arguments. -/
def settingsOf (environment : List (Bytes × Bytes)) :
    List (List Char) → List (Bytes × Bytes) × List (List Char)
  | argument :: rest =>
    if argument.contains '=' then
      let name := bytesOf (argument.takeWhile (· != '='))
      settingsOf (environment.filter (·.1 != name) ++
        [(name, bytesOf ((argument.dropWhile (· != '=')).drop 1))]) rest
    else (environment, argument :: rest)
  | [] => (environment, [])

/-- The changed environment that a program is given, and the program with its arguments; the
complaint if an option is none.  The options come first. -/
def envOptions (environment : List (Bytes × Bytes)) :
    List (List Char) → Except String (List (Bytes × Bytes) × List (List Char))
  | ['-'] :: rest => .ok (settingsOf [] rest)
  | ['-', '-'] :: rest => .ok (settingsOf environment rest)
  | ['-', 'i'] :: rest => envOptions [] rest
  | ['-', 'u'] :: name :: rest => envOptions (environment.filter (·.1 != bytesOf name)) rest
  | ['-', 'u'] :: [] => .error "option requires an argument -- 'u'"
  | ('-' :: '-' :: name) :: _ => .error ("unrecognized option '--" ++ String.ofList name ++ "'")
  | ('-' :: 'u' :: name) :: rest => envOptions (environment.filter (·.1 != bytesOf name)) rest
  | ('-' :: c :: _) :: _ => .error ("invalid option -- '" ++ c.toString ++ "'")
  | arguments => .ok (settingsOf environment arguments)

end LineShell.Machine
