/-
**What is handed to the launcher.**

An external command becomes the path of its program, the arguments after the command's name, and
perhaps a redirection.  A marker in the second position, together with the token after it, is the
redirection; everywhere else a marker is an argument.  The name itself plays no part: the program
is told its path instead.

Main definitions:

* `LineShell.ArgumentVector` — the program's path and its arguments;
* `LineShell.ArgumentVector.pointers` — the array that the program reads, ended by a null pointer;
* `LineShell.Invocation`, `LineShell.Invocation.build` — argument vector and redirection, built from
  a path and the tokens of the line.

Main results:

* `LineShell.ArgumentVector.pointers_length`, `LineShell.ArgumentVector.read_pointers` — the array
  has one null pointer, at its end, and holds the arguments before it.
-/

import LineShell.Redirection
import LineShell.Text.Quoted

set_option autoImplicit false

namespace LineShell

/-- Why no argument vector can be built. -/
inductive BuildError where
  /-- The text holds a NUL byte. -/
  | nul (text : String)
  /-- A marker without a path after it. -/
  | missingTarget (stream : Stream)
deriving DecidableEq

/-- The wording of the error. -/
def BuildError.message : BuildError → String
  | .nul text => "argument contains a NUL byte: " ++ Text.quoted text
  | .missingTarget stream => stream.marker ++ ": missing redirection target"

/-- A program's path, which it finds as its argument number zero, and the arguments after it. -/
structure ArgumentVector where
  /-- The path of the program. -/
  program : CString
  /-- The arguments after the path. -/
  arguments : List CString
deriving DecidableEq

namespace ArgumentVector

/-- The path and the arguments in one list. -/
def all (v : ArgumentVector) : List CString := v.program :: v.arguments

/-- The number of arguments, the path included. -/
def size (v : ArgumentVector) : Nat := v.all.length

theorem size_pos (v : ArgumentVector) : 0 < v.size := Nat.succ_pos _

/-- The arguments as text. -/
def toStrings (v : ArgumentVector) : List String := v.all.map CString.toStringLossy

/-- The array of pointers that the program reads: for each argument the memory its pointer leads to,
and `none`, the null pointer, after the last. -/
def pointers (v : ArgumentVector) : List (Option Bytes) :=
  v.all.map (fun c => some c.memory) ++ [none]

/-- The place of the first null pointer. -/
def nullIndex (v : ArgumentVector) : Nat := v.pointers.findIdx Option.isNone

@[simp] theorem pointers_length (v : ArgumentVector) : v.pointers.length = v.size + 1 := by
  simp [pointers, size]

/-- Following the pointers up to the null pointer finds the bytes of every argument. -/
theorem read_pointers (v : ArgumentVector) :
    v.pointers.filterMap (Option.map CString.read) = v.all.map CString.bytes := by
  have h : ∀ l : List CString,
      (l.map fun c => some c.memory).filterMap (Option.map CString.read) = l.map CString.bytes := by
    intro l
    induction l with
    | nil => rfl
    | cons c cs ih => simp [CString.read_memory, ih]
  simp [pointers, h]

end ArgumentVector

/-- All that the launcher needs for one external command. -/
structure Invocation where
  /-- The program and its arguments. -/
  vector : ArgumentVector
  /-- The stream to replace, if any. -/
  redirection : Option Redirection
deriving DecidableEq

namespace Invocation

/-- The redirection that the tokens after the name begin with, and the arguments behind it. -/
def directive (afterName : List String) :
    Except BuildError (Option Redirection × List String) :=
  match afterName with
  | [] => .ok (none, [])
  | token :: rest =>
    match Stream.ofMarker? token, rest with
    | none, _ => .ok (none, token :: rest)
    | some stream, [] => .error (.missingTarget stream)
    | some stream, target :: rest' =>
      match Redirection.ofText stream target with
      | .ok redirection => .ok (some redirection, rest')
      | .error _ => .error (.nul target)

/-- The arguments as C strings; the first that holds a NUL is named. -/
def arguments : List String → Except BuildError (List CString)
  | [] => .ok []
  | token :: rest =>
    match CString.ofString token with
    | .error _ => .error (.nul token)
    | .ok c => (arguments rest).map (c :: ·)

/-- The invocation of the program at `path` for the tokens of a line.  Of several faults the first
counts, in the order: no target, a NUL in the target, in the path, in an argument. -/
def build (path : Bytes) (tokens : List String) : Except BuildError Invocation := do
  let (redirection, rest) ← directive tokens.tail
  match CString.ofBytes path with
  | .error _ => .error (.nul (Utf8.decodeLossy path))
  | .ok program => return ⟨⟨program, ← arguments rest⟩, redirection⟩

end Invocation

end LineShell
