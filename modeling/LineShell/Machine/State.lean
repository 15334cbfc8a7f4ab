/-
**A machine in memory.**

A machine has a tree of files, a table of open files, at most one terminal and a stack of processes:
the acting one, and below it those that wait for it, each for the one above.  Only the process at the
bottom is the session.  A signal ends a process, or is ignored, or is caught and noted until the
process looks at it.

A descriptor of a process names an open file; descriptors of several processes may name the same one
and then share its position.

Main definitions:

* `LineShell.Machine.OpenFile`, `LineShell.Machine.Process`, `LineShell.Machine.State` — the state;
* `LineShell.Machine.Terminal` — what was typed, and the modes;
* `LineShell.Machine.read`, `LineShell.Machine.write` — input and output of the acting process;
* `LineShell.Machine.fork`, `LineShell.Machine.leave`, `LineShell.Machine.reap` — a process more, its
  end, and its removal;
* `LineShell.Machine.signal` — a signal to one process or to all.

Main results:

* `LineShell.Machine.lowestFree_not_mem` — a new descriptor was free.
-/

import LineShell.Launch
import LineShell.Machine.FileTree

set_option autoImplicit false

namespace LineShell.Machine

/-! ### The parts -/

/-- An open file. -/
structure OpenFile where
  /-- The file's node. -/
  node : Nat
  /-- The position of the next read or write. -/
  position : Nat
  /-- Whether it may be read. -/
  readable : Bool
  /-- Whether it may be written. -/
  writable : Bool
  /-- Whether a call that would have to wait fails instead. -/
  nonblocking : Bool
  /-- Whether everything is written behind the end. -/
  appending : Bool

/-- A process. -/
structure Process where
  /-- Its number. -/
  id : Nat
  /-- The number of the process that made it. -/
  parent : Nat
  /-- The open file of each of its descriptors. -/
  descriptors : List (Nat × Nat)
  /-- Its working directory. -/
  directory : Nat
  /-- Its environment. -/
  environment : List (Bytes × Bytes)
  /-- The permission bits that it does not give to what it creates. -/
  withheld : Nat
  /-- The signals that it catches. -/
  caught : List Nat
  /-- The signals that it ignores. -/
  ignored : List Nat
  /-- The signals that were caught and not looked at yet. -/
  pending : List Nat
  /-- How it ended, if it has. -/
  fate : Option Fate

/-- The modes of a terminal that are set, each by its name, and the values of its special
characters. -/
structure Modes where
  /-- The names of the modes that are set. -/
  flags : List String
  /-- The values of the special characters. -/
  characters : List (String × String)
deriving DecidableEq

/-- A terminal. -/
structure Terminal where
  /-- Whether it is the controlling terminal of the session. -/
  controlling : Bool
  /-- What was typed, one piece for each read; an empty piece says that the input has ended. -/
  typed : List Bytes
  /-- The modes. -/
  modes : Modes

/-- A machine. -/
structure State where
  /-- The files. -/
  tree : FileTree
  /-- The open files. -/
  files : Array OpenFile
  /-- The acting process. -/
  process : Process
  /-- The processes that wait, the nearest first. -/
  waiting : List Process
  /-- The terminal, if there is one. -/
  terminal : Option Terminal
  /-- What the pipe for the report holds. -/
  report : Bytes
  /-- The number of the next process. -/
  nextProcess : Nat

/-- The session, which is the process at the bottom. -/
def State.session (m : State) : Process := m.waiting.getLast?.getD m.process

/-- Whether the session is alive. -/
def State.isAlive (m : State) : Bool := m.session.fate.isNone

/-- Whether the acting process goes on, which does not take the session to be alive. -/
def State.isRunning (m : State) : Bool := m.process.fate.isNone

/-! ### Descriptors -/

/-- The lowest number from `n` on that is not in use. -/
def lowestFrom (used : List Nat) : Nat → Nat → Nat
  | 0, n => n
  | fuel + 1, n => if n ∈ used then lowestFrom used fuel (n + 1) else n

/-- The lowest number that is not in use. -/
def lowestFree (used : List Nat) : Nat := lowestFrom used (used.foldl max 0 + 1) 0

theorem le_foldl_max {used : List Nat} {a n : Nat} (h : n ∈ used ∨ n ≤ a) :
    n ≤ used.foldl max a := by
  induction used generalizing a with
  | nil => simpa using h
  | cons b bs ih =>
    simp only [List.foldl_cons]
    apply ih
    rcases h with h | h
    · rcases List.mem_cons.1 h with rfl | h
      · exact .inr (Nat.le_max_right ..)
      · exact .inl h
    · exact .inr (Nat.le_trans h (Nat.le_max_left ..))

theorem lowestFrom_not_mem {used : List Nat} {fuel n : Nat}
    (h : used.foldl max 0 < n + fuel) : lowestFrom used fuel n ∉ used := by
  induction fuel generalizing n with
  | zero =>
    intro hmem
    have := le_foldl_max (a := 0) (.inl hmem)
    simp only [lowestFrom] at this
    omega
  | succ fuel ih =>
    rw [lowestFrom]
    split
    · exact ih (by omega)
    · next hn => exact hn

/-- The lowest free number is free. -/
theorem lowestFree_not_mem (used : List Nat) : lowestFree used ∉ used :=
  lowestFrom_not_mem (by omega)

namespace Process

/-- The open file of a descriptor. -/
def openFile (p : Process) (descriptor : Nat) : Option Nat := p.descriptors.lookup descriptor

/-- The process without a descriptor. -/
def close (p : Process) (descriptor : Nat) : Process :=
  { p with descriptors := p.descriptors.filter (·.1 != descriptor) }

/-- The process whose descriptor names an open file. -/
def bind (p : Process) (descriptor file : Nat) : Process :=
  { p with descriptors := (descriptor, file) :: (p.close descriptor).descriptors }

/-- A descriptor that is not in use. -/
def freeDescriptor (p : Process) : Nat := lowestFree (p.descriptors.map (·.1))

/-- The process one of whose free descriptors names an open file. -/
def bindFree (p : Process) (file : Nat) : Process := p.bind p.freeDescriptor file

/-- The value of a variable of the environment. -/
def environmentValue (p : Process) (name : String) : Option Bytes :=
  p.environment.lookup (Utf8.encode name)

end Process

namespace State

/-- The machine after a change of the acting process. -/
def modifyProcess (f : Process → Process) (m : State) : State := { m with process := f m.process }

/-- The number and the state of the open file of a descriptor. -/
def openFile? (m : State) (descriptor : Nat) : Option (Nat × OpenFile) :=
  match m.process.openFile descriptor with
  | none => none
  | some n => m.files[n]?.map (n, ·)

/-- The node of a descriptor. -/
def nodeOf? (m : State) (descriptor : Nat) : Option Node :=
  (m.openFile? descriptor).map fun f => m.tree.node f.2.node

/-- Whether some process has a node open in a way. -/
def isOpen (m : State) (node : Nat) (way : OpenFile → Bool) : Bool :=
  (m.process :: m.waiting).any fun p => p.descriptors.any fun d =>
    (m.files[d.2]?.map fun f => way f && f.node == node).getD false

/-- Whether some process has a node open for writing. -/
def isBeingWritten (m : State) (node : Nat) : Bool := m.isOpen node (·.writable)

/-- Whether some process has a node open for reading. -/
def isBeingRead (m : State) (node : Nat) : Bool := m.isOpen node (·.readable)

/-- Whether a descriptor is the terminal. -/
def isTerminal (m : State) (descriptor : Nat) : Bool := m.nodeOf? descriptor == some .terminal

/-- The machine with one open file more, at a free descriptor. -/
def addOpenFile (m : State) (file : OpenFile) : Nat × State :=
  let descriptor := m.process.freeDescriptor
  (descriptor, { m with
    files := m.files.push file
    process := m.process.bind descriptor m.files.size })

/-- The machine after another position of an open file. -/
def seek (m : State) (n position : Nat) : State :=
  { m with files := m.files.modify n fun f => { f with position := position } }

/-- The machine where a descriptor that is closed names the empty device. -/
def fill (m : State) (descriptor : Nat) : State :=
  match m.process.openFile descriptor with
  | some _ => m
  | none =>
    let (n, tree) := m.tree.addNode .null
    { m with
      tree := tree
      files := m.files.push ⟨n, 0, true, true, false, false⟩
      process := m.process.bind descriptor m.files.size }

end State

/-! ### Opening -/

variable {ε : Type}

/-- The permission bits of a file that a redirection creates. -/
def createdMode : Nat := 0o644

/-- How a file is opened. -/
structure Access where
  /-- Whether it may be read. -/
  readable : Bool
  /-- Whether it may be written. -/
  writable : Bool
  /-- The permission bits of a file that is created if it is missing; without them a missing file is
  an error. -/
  created : Option Nat
  /-- Whether an existing file is emptied. -/
  emptied : Bool
  /-- Whether everything is written behind the end. -/
  appending : Bool

/-- A file is read. -/
def Access.toRead : Access := ⟨true, false, none, false, false⟩

/-- A file is written from empty on, and created with given permission bits. -/
def Access.toReplace (mode : Nat) : Access := ⟨false, true, some mode, true, false⟩

/-- A file is written behind its end, and created with given permission bits. -/
def Access.toExtend (mode : Nat) : Access := ⟨false, true, some mode, false, true⟩

/-- A file is read and written as it is, and created with given permission bits. -/
def Access.toChange (mode : Nat) : Access := ⟨true, true, some mode, false, false⟩

namespace State

/-- The machine where a named pipe that nobody has open holds nothing. -/
def emptyPipe (m : State) (node : Nat) : State :=
  match m.tree.node node with
  | .fifo _ =>
    if m.isOpen node (fun _ => true) then m else { m with tree := m.tree.setNode node (.fifo []) }
  | _ => m

/-- The paths that stand for the acting process's own descriptors, in front of the number. -/
def descriptorDirectories : List String := ["/dev/fd/", "/proc/self/fd/"]

/-- The paths of the standard descriptors. -/
def standardPaths : List (String × Nat) := [("/dev/stdin", 0), ("/dev/stdout", 1), ("/dev/stderr", 2)]

/-- The descriptor of the acting process that a path stands for. -/
def descriptorOf (path : Bytes) : Option Nat :=
  (standardPaths.find? fun p => Utf8.encode p.1 == path).map (·.2) <|>
    descriptorDirectories.findSome? fun directory =>
      if (Utf8.encode directory).isPrefixOf path then
        match path.drop (Utf8.encode directory).length with
        | [d] => if 48 ≤ d ∧ d ≤ 57 then some (d.toNat - 48) else none
        | _ => none
      else none

/-- The node that a path leads to for the acting process. -/
def locate (m : State) (path : Bytes) : Except Errno Nat :=
  match descriptorOf path with
  | some descriptor =>
    match m.openFile? descriptor with
    | some (_, f) => .ok f.node
    | none => .error Errno.noEntry
  | none => m.tree.resolve m.process.directory path

/-- The place that a path leads to for the acting process. -/
def locatePlace (m : State) (path : Bytes) : Except Errno Place :=
  if (descriptorOf path).isSome then (m.locate path).map .existing
  else m.tree.placeFor m.process.directory path

/-- Opens a node.  A directory cannot be written, nor a pipe that nobody reads. -/
def openNode (a : Access) (n : Nat) : Act State Errno Nat := fun m =>
  let opened := fun (m : State) =>
    match m.addOpenFile ⟨n, 0, a.readable, a.writable, true, a.appending⟩ with
    | (descriptor, m') => (.ok descriptor, m')
  match m.tree.node n with
  | .directory _ _ => if a.writable then (.error Errno.isDirectory, m) else opened m
  | .absent => (.error Errno.noDevice, m)
  | .fifo _ =>
    if a.readable then opened (m.emptyPipe n)
    else if m.isBeingRead n then opened m
    else (.error Errno.noDevice, m)
  | .file _ mode =>
    opened (if a.emptied then { m with tree := m.tree.setNode n (.file [] mode) } else m)
  | _ => opened m

end State

/-- Opens a file at a free descriptor of the acting process, without waiting for a partner. -/
def openAt (a : Access) (path : Bytes) : Act State Errno Nat := fun m =>
  match a.created with
  | none =>
    match m.locate path with
    | .error e => (.error e, m)
    | .ok n => State.openNode a n m
  | some mode =>
    match m.locatePlace path with
    | .error e => (.error e, m)
    | .ok (.existing n) => State.openNode a n m
    | .ok (.vacant directory name) =>
      if m.tree.isLinked directory then
        match m.tree.create directory name (.file [] (mode - (mode &&& m.process.withheld))) with
        | (n, tree) => State.openNode a n { m with tree := tree }
      else (.error Errno.noEntry, m)

/-- The calls on descriptors of the acting process. -/
def descriptorCalls : DescriptorCalls State where
  openTarget redirection :=
    openAt (match redirection.stream with
      | .input => .toRead
      | .output => .toReplace createdMode) redirection.target.bytes
  statusFlags descriptor := fun m =>
    match m.openFile? descriptor with
    | some (_, f) => (.ok ⟨f.nonblocking⟩, m)
    | none => (.error Errno.badDescriptor, m)
  setStatusFlags descriptor flags := fun m =>
    match m.openFile? descriptor with
    | some (n, _) =>
      let files := m.files.modify n fun f => { f with nonblocking := flags.nonblocking }
      (.ok (), { m with files := files })
    | none => (.error Errno.badDescriptor, m)
  duplicate source target := fun m =>
    match m.process.openFile source with
    | some n => (.ok (), m.modifyProcess (·.bind target n))
    | none => (.error Errno.badDescriptor, m)
  close descriptor m := m.modifyProcess (·.close descriptor)

/-! ### Reading and writing -/

/-- Reads at most `count` bytes from a descriptor; no bytes mean that the input has ended. -/
def read (descriptor count : Nat) : Act State Errno Bytes := fun m =>
  match m.openFile? descriptor with
  | none => (.error Errno.badDescriptor, m)
  | some (n, f) =>
    if !f.readable then (.error Errno.badDescriptor, m)
    else
      match m.tree.node f.node with
      | .file content _ =>
        let bytes := (content.drop f.position).take count
        (.ok bytes, m.seek n (f.position + bytes.length))
      | .directory _ _ => (.error Errno.isDirectory, m)
      | .fifo held =>
        (.ok (held.take count), { m with tree := m.tree.setNode f.node (.fifo (held.drop count)) })
      | .terminal =>
        match m.terminal with
        | none => (.ok [], m)
        | some t =>
          match t.typed with
          | [] => (.ok [], m)
          | piece :: rest =>
            let left := piece.drop count
            let typed := if left = [] then rest else left :: rest
            (.ok (piece.take count), { m with terminal := some { t with typed := typed } })
      | .zeros => (.ok (List.replicate count 0), m)
      | _ => (.ok [], m)

/-- A byte string with some bytes written from a position on; a gap is filled with NUL. -/
def overwrite (content : Bytes) (position : Nat) (bytes : Bytes) : Bytes :=
  if position = content.length then content ++ bytes
  else
    (content.take position ++ List.replicate (position - content.length) 0) ++ bytes ++
      content.drop (position + bytes.length)

/-- Writes bytes to a descriptor. -/
def write (descriptor : Nat) (bytes : Bytes) : Act State Errno Unit := fun m =>
  match m.openFile? descriptor with
  | none => (.error Errno.badDescriptor, m)
  | some (n, f) =>
    if !f.writable then (.error Errno.badDescriptor, m)
    else
      match m.tree.node f.node with
      | .file content mode =>
        let position := if f.appending then content.length else f.position
        let tree := m.tree.setNode f.node (.file (overwrite content position bytes) mode)
        (.ok (), { m with tree := tree }.seek n (position + bytes.length))
      | .fifo held =>
        if m.isBeingRead f.node then
          (.ok (), { m with tree := m.tree.setNode f.node (.fifo (held ++ bytes)) })
        else (.error Errno.brokenPipe, m)
      | .full => (if bytes = [] then .ok () else .error Errno.noSpace, m)
      | _ => (.ok (), m)

/-! ### Processes -/

/-- A child of the acting process, which becomes the acting process.  It ignores what its parent
ignores and catches nothing. -/
def fork (m : State) : State :=
  { m with
    process := { m.process with
      id := m.nextProcess
      parent := m.process.id
      caught := []
      pending := [] }
    waiting := m.process :: m.waiting
    nextProcess := m.nextProcess + 1 }

/-- The acting process ends, unless it has. -/
def finish (fate : Fate) (m : State) : State :=
  m.modifyProcess fun p => { p with fate := p.fate <|> some fate }

/-- The acting process leaves with a status, of which eight bits count. -/
def leave (status : Int) (m : State) : State := finish (.exited (status % 256)) m

/-- The acting process is removed; the one that waits for it acts again and learns how it ended. -/
def reap (m : State) : Fate × State :=
  match m.waiting with
  | [] => (m.process.fate.getD (.exited 0), m)
  | p :: rest => (m.process.fate.getD (.exited 0), { m with process := p, waiting := rest })

/-- The process that has noted a signal. -/
def Process.note (p : Process) (number : Nat) : Process :=
  if p.pending.contains number then p else { p with pending := p.pending ++ [number] }

/-- What a signal does to a process: one that is caught is noted, a deadly one ends it. -/
def Process.receive (p : Process) (number : Nat) : Process :=
  if p.ignored.contains number then p
  else if p.caught.contains number then p.note number
  else
    match Signal.defaultEffect number with
    | .ignored => p
    | .ends => { p with fate := p.fate <|> some (.killed number) }

/-- A signal to the processes that are meant. -/
def signal (number : Nat) (meant : Process → Bool) (m : State) : State :=
  let deliver := fun p : Process => if meant p then p.receive number else p
  { m with process := deliver m.process, waiting := m.waiting.map deliver }

/-- A signal to the process of a number, or with the number zero to all processes. -/
def kill (id number : Nat) : Act State Errno Unit := fun m =>
  if id = 0 then (.ok (), signal number (fun _ => true) m)
  else if (m.process :: m.waiting).any fun p => p.id == id then
    (.ok (), signal number (fun p => p.id == id) m)
  else (.error ⟨3, .inr rfl⟩, m)

end LineShell.Machine
