/-
**Looking for programs.**

A name with a slash is the path of a program.  Any other name is looked for in the directories of the
search path; the first file there that may be run is meant.  If there is none, what says most about
why is remembered.

Main definitions:

* `LineShell.Machine.Script.candidates` — the paths at which a name is looked for;
* `LineShell.Machine.Script.programPaths` — the paths that are tried for a name;
* `LineShell.Machine.Script.Running.lookUp` — the same for a script that remembers them.

Main results:

* `LineShell.Machine.Script.colonPieces_ne_nil` — a text has at least one piece.
-/

import LineShell.Machine.Script.Runner

set_option autoImplicit false

namespace LineShell.Machine.Script

/-- The directories that are searched if no variable names any. -/
def standardPath : List Char := "/usr/local/sbin:/usr/local/bin:/usr/sbin:/usr/bin:/sbin:/bin".toList

/-- The pieces of a text between its colons. -/
def colonPieces : List Char → List (List Char)
  | [] => [[]]
  | c :: rest =>
    if c = ':' then [] :: colonPieces rest
    else
      match colonPieces rest with
      | [] => [[c]]
      | piece :: pieces => (c :: piece) :: pieces

/-- A text has at least one piece. -/
theorem colonPieces_ne_nil (cs : List Char) : colonPieces cs ≠ [] := by
  cases cs with
  | nil => simp [colonPieces]
  | cons c rest =>
    unfold colonPieces
    split
    · simp
    · split <;> simp

/-- The paths at which a name is looked for. -/
def candidates (path name : List Char) : List (List Char) :=
  (colonPieces path).map fun d => if d = [] then name else d ++ ['/'] ++ name

/-- The first of some paths that leads to a program that may be run, and those behind it.  If none
does, the error says why: `cause`, unless a later path is more than missing. -/
def firstProgram (m : State) (cause : Errno) : List (List Char) → Except Errno (List (List Char))
  | [] => .error cause
  | path :: rest =>
    match m.locate (bytesOf path) with
    | .error e =>
      firstProgram m (if e = Errno.noEntry ∨ e = Errno.notDirectory then cause else e) rest
    | .ok n =>
      match m.tree.node n with
      | .program _ => .ok (path :: rest)
      | .file _ mode =>
        if mode &&& 0o111 ≠ 0 then .ok (path :: rest) else firstProgram m Errno.accessDenied rest
      | _ => firstProgram m Errno.accessDenied rest

/-- The paths that are tried for a name, the first one first. -/
def programPaths (m : State) (path name : List Char) : Except Errno (List (List Char)) :=
  if name.contains '/' then .ok [name] else firstProgram m Errno.noEntry (candidates path name)

/-- Whether an error says that a path leads nowhere. -/
def leadsNowhere (e : Errno) : Bool :=
  e == Errno.noEntry || e == Errno.notDirectory || e == Errno.tooManyLinks || e == Errno.nameTooLong

/-- The wording of an error, with one for what is missing. -/
def reasonOr (missing : String) (e : Errno) : List Char :=
  if e = Errno.noEntry ∨ e = Errno.notDirectory then missing.toList else reason e

/-- What a script says of a program that cannot be run. -/
def whyNotFound (e : Errno) : List Char := reasonOr "not found" e

namespace Runner

/-- The directories in which the script looks for programs. -/
def searchPath (r : Runner) : List Char := (r.value? "PATH".toList).getD []

end Runner

/-- The paths that are tried for a name, and the script, which remembers the first one.  What it
remembers is not looked for again unless there are doubts. -/
def Running.lookUp (r : Running) (name : List Char) : Except Errno (List (List Char)) × Runner :=
  if name.contains '/' then (.ok [name], r.runner)
  else
    match r.runner.found.find? fun f => f.name == name && !f.doubted with
    | some f => (.ok ((candidates r.runner.searchPath name).dropWhile (· != f.path)), r.runner)
    | none =>
      match programPaths r.machine r.runner.searchPath name with
      | .ok paths => (.ok paths, r.runner.note ⟨name, paths.headD [], false⟩)
      | .error e => (.error e, r.runner.forget name)

end LineShell.Machine.Script
