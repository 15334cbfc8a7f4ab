/-
**A furnished machine.**

A machine starts with one process, its three standard descriptors and a tree with the usual
directories, devices and programs.  What the process writes to its standard output and error is kept
in two files outside the tree.

Main definitions:

* `LineShell.Machine.furnished` — the usual tree;
* `LineShell.Machine.boot` — a machine with one process;
* `LineShell.Machine.State.output`, `LineShell.Machine.State.errors` — what was written so far.
-/

import LineShell.Machine.Terminal

set_option autoImplicit false

namespace LineShell.Machine

/-- The installed programs and their names. -/
def installed : List (String × Tool) :=
  [("sh", .interpreter), ("dash", .interpreter), ("cat", .cat), ("echo", .echo), ("printf", .printf),
   ("true", .succeed), ("false", .fail), ("head", .head), ("touch", .touch), ("mkdir", .mkdir),
   ("rmdir", .rmdir), ("stat", .stat), ("env", .env), ("stty", .stty)]

/-- The usual tree. -/
def furnished : FileTree :=
  let put := fun (t : FileTree) (path : String) (node : Node) =>
    t.plant FileTree.root (Utf8.encode path) node
  let t := ["/usr/bin", "/usr/local", "/usr/sbin", "/usr/lib", "/tmp", "/etc", "/dev", "/home", "/root",
    "/var/tmp", "/opt", "/mnt", "/media", "/proc/self/fd", "/sys", "/run", "/srv", "/boot"].foldl
    (fun t path => put t path (.directory [] 0)) FileTree.bare
  let t := ["bin", "sbin", "lib"].foldl
    (fun t name => put t ("/" ++ name) (.link (Utf8.encode ("usr/" ++ name)))) t
  let t := put t "/dev/null" .null
  let t := put t "/dev/zero" .zeros
  let t := put t "/dev/full" .full
  let t := put t "/dev/tty" .absent
  installed.foldl (fun t (name, tool) => put t ("/usr/bin/" ++ name) (.program tool)) t

/-- What standard input is. -/
inductive Input where
  /-- A file. -/
  | file (content : Bytes)
  /-- The device that is always empty. -/
  | null
  /-- A terminal. -/
  | terminal (t : Terminal)

/-- The node of a standard input. -/
def Input.node : Input → Node
  | .file content => .file content 0o644
  | .null => .null
  | .terminal _ => .terminal

/-- The terminal of a standard input. -/
def Input.terminal? : Input → Option Terminal
  | .terminal t => some t
  | _ => none

/-- The number of the first process. -/
def firstProcess : Nat := 100

/-- A machine with one process, which stands in a directory. -/
def boot (tree : FileTree) (input : Input) (environment : List (Bytes × Bytes)) (directory : Nat) :
    State :=
  let tree :=
    match input with
    | .terminal t =>
      if t.controlling then tree.plant FileTree.root (Utf8.encode "/dev/tty") .terminal else tree
    | _ => tree
  let (stdin, tree) := tree.addNode input.node
  let (stdout, tree) := tree.addNode (.file [] 0o644)
  let (stderr, tree) := tree.addNode (.file [] 0o644)
  { tree := tree
    files := #[⟨stdin, 0, true, false, false, false⟩, ⟨stdout, 0, false, true, false, false⟩,
      ⟨stderr, 0, false, true, false, false⟩]
    process :=
      { id := firstProcess
        parent := 1
        descriptors := [(0, 0), (1, 1), (2, 2)]
        directory := directory
        environment := environment
        withheld := 0
        caught := []
        ignored := [Signal.pipe.number]
        pending := []
        fate := none }
    waiting := []
    terminal := input.terminal?
    report := []
    nextProcess := firstProcess + 1 }

/-- The content of the file that was opened as number `n`. -/
def State.recorded (m : State) (n : Nat) : Bytes :=
  match m.files[n]? with
  | some f =>
    match m.tree.node f.node with
    | .file content _ => content
    | _ => []
  | none => []

/-- What was written to standard output so far. -/
def State.output (m : State) : Bytes := m.recorded 1

/-- What was written to standard error so far. -/
def State.errors (m : State) : Bytes := m.recorded 2

end LineShell.Machine
