/-
**The program.**

The program runs on a furnished machine that stands in the user's home directory.  Its arguments, its
standard input and the variables `PATH`, `HOME` and `TERM` are those it is given; of the files outside
the machine it sees the one that it is asked to run.  What the run prints is passed on when it has
ended, and a signal that ended it counts 128 more than its number.

Main definitions:

* `LineShell.Machine.machineFor` — the machine of a run;
* `LineShell.Machine.exitCode` — what the run ends with;
* `main` — the program.
-/

import LineShell.Machine.Boot
import LineShell.Machine.Program

set_option autoImplicit false

namespace LineShell.Machine

/-- The names of the variables that the program takes over. -/
def inheritedNames : List String := ["PATH", "HOME", "TERM"]

/-- The machine of a run: the usual tree with some files, in the home directory. -/
def machineFor (environment : List (String × String)) (input : Bytes)
    (files : List (String × Bytes)) : State :=
  let home := (environment.lookup "HOME").getD "/"
  let (directory, tree) :=
    furnished.makeDirectories FileTree.root (Path.ofBytes (Utf8.encode home)).names
  let tree := files.foldl
    (fun t (path, content) => t.plant directory (Utf8.encode path) (.file content 0o644)) tree
  boot tree (.file input) (environment.map fun v => (Utf8.encode v.1, Utf8.encode v.2)) directory

/-- What a run ends with. -/
def exitCode : Fate → UInt32
  | .exited status => UInt32.ofNat (exitByte status).toNat
  | .killed signal => UInt32.ofNat (128 + signal)

/-! ### Outside the machine -/

/-- All that a stream still holds, after what was read of it. -/
partial def drain (stream : IO.FS.Stream) (start : ByteArray) : IO ByteArray := do
  let more ← stream.read 65536
  if more.isEmpty then return start
  drain stream (start ++ more)

/-- The variables that are set. -/
def inherited : IO (List (String × String)) :=
  inheritedNames.filterMapM fun name => return (← IO.getEnv name).map (name, ·)

/-- The file that a request is about, if it can be read. -/
def scriptFile (request : Request) : IO (List (String × Bytes)) := do
  match request with
  | .script path =>
    match ← (IO.FS.readBinFile path).toBaseIO with
    | .ok content => return [(path, content.toList)]
    | .error _ => return []
  | _ => return []

end LineShell.Machine

open LineShell LineShell.Machine in
/-- Runs the program with its arguments. -/
def main (arguments : List String) : IO UInt32 := do
  let files ← scriptFile (Options.parse arguments).request
  let content ← drain (← IO.getStdin) .empty
  let (fate, m) := runProgram arguments (machineFor (← inherited) content.toList files)
  (← IO.getStdout).write ⟨m.output.toArray⟩
  (← IO.getStderr).write ⟨m.errors.toArray⟩
  return exitCode fate
