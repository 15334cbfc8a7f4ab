/-
**Sessions on a machine.**

A machine offers what a session needs: its files are probed, its working directory is asked for and
changed, programs run in children of the session's process, and the session's output and diagnostics
go to its descriptors.  Once a signal has ended the session nothing it does has any effect.

A session reads its lines from a descriptor.  What a reader has read and not handed on yet is held in
a buffer; programs that share the descriptor go on behind that.

Main definitions:

* `LineShell.Machine.kernel`, `LineShell.Machine.host` — the calls of a launch, and the host;
* `LineShell.Machine.pendingReads` — what the reads of a descriptor would deliver;
* `LineShell.Machine.scriptLines`, `LineShell.Machine.typedLines` — the lines of a descriptor, and
  those of the editor;
* `LineShell.Machine.historyContent`, `LineShell.Machine.saveHistory` — the file of the history;
* `LineShell.Machine.editAll` — a session of the editor alone.
-/

import LineShell.Input.Edited
import LineShell.Machine.Execution
import LineShell.Session

set_option autoImplicit false

namespace LineShell.Machine

/-! ### The host -/

/-- The calls of a launch. -/
def kernel : Kernel State where
  descriptors := descriptorCalls
  makePipe := Act.change fun m => { m with report := [] }
  fork := Act.change fork
  start := start
  sendReport bytes m := { m with report := bytes }
  leave := leave
  readReport m := (some m.report, m)
  wait m := (.ended (reap m).1, (reap m).2)

/-- What looking at a path shows. -/
def probe (m : State) (path : String) : Probe :=
  if 0 ∈ Utf8.encode path then .unreadable
  else
    match m.locate (Utf8.encode path) with
    | .ok _ => .found
    | .error e => if e = Errno.noEntry then .missing else .unreadable

/-- A directory becomes the working directory of the acting process. -/
def changeDirectory (path : CString) : Act State IoError Unit := fun m =>
  match m.locate path.bytes with
  | .error e => (.error (.system e), m)
  | .ok n =>
    if m.tree.isDirectory n then (.ok (), m.modifyProcess ({ · with directory := n }))
    else (.error (.system Errno.notDirectory), m)

/-- An action that has no effect once the session has ended. -/
def whileAlive {ε α : Type} (otherwise : α) (a : Act State ε α) : Act State ε α := fun m =>
  if m.isAlive then a m else (.ok otherwise, m)

/-- What a machine offers a session. -/
def host : Host State where
  probe := probe
  workingDirectory m := (m.tree.pathOf m.process.directory).mapError .system
  changeDirectory path := whileAlive () (changeDirectory path)
  write bytes := whileAlive () ((write 1 bytes).mapError .system)
  flush := pure ()
  flushStandardOutput := pure ()
  diagnose text m := (whileAlive () (write 2 (Utf8.encode text)) m).2
  launch invocation := whileAlive (.exited 0) (kernel.launch invocation)
  takeInterrupt m := (!m.process.pending.isEmpty, m.modifyProcess ({ · with pending := [] }))

/-! ### Lines -/

/-- The number of bytes that a reader of lines asks for at once. -/
def lineReadSize : Nat := 8192

/-- What the reads of a descriptor would deliver, and what they fail with. -/
def pendingReads (descriptor : Nat) (m : State) : List Bytes × Option IoError :=
  if !m.isAlive then ([], none)
  else
    match m.openFile? descriptor with
    | none => ([], none)
    | some (_, f) =>
      match m.tree.node f.node with
      | .file content _ => (Feed.cut lineReadSize (content.drop f.position), none)
      | .directory _ _ => ([], some (.system Errno.isDirectory))
      | .terminal => ((m.terminal.map Terminal.typed).getD [], none)
      | _ => ([], none)

/-- The machine after so many reads of a descriptor. -/
def afterReads (descriptor : Nat) : Nat → State → State
  | 0, m => m
  | n + 1, m => afterReads descriptor n (read descriptor lineReadSize m).2

/-- The feed of a descriptor, behind what is held in a buffer. -/
def feedOf (descriptor : Nat) (buffer : Bytes) (m : State) : Feed :=
  ⟨buffer, (pendingReads descriptor m).1, (pendingReads descriptor m).2⟩

/-- The machine after a reader has gone from one feed of a descriptor to another. -/
def advance (descriptor : Nat) (before after : Feed) (m : State) : State :=
  afterReads descriptor (before.reads.length - after.reads.length) m

/-- More lines than any session takes. -/
def lineBound : Nat := 0x4000000000000000

/-- The lines of a descriptor; the reader's state is its buffer. -/
def scriptLines (descriptor : Nat) (limit : UInt64) : LineSource (Nat × Bytes) State :=
  .counted false fun _ buffer m =>
    let before := feedOf descriptor buffer m
    match boundedLine limit before with
    | (item, after) => (item, after.buffer, advance descriptor before after m)

/-- The kinds of terminal on which the editor shows the prompt and takes lines as they are. -/
def plainTerminals : List String := ["dumb", "cons25", "emacs"]

/-- Whether the acting process is told of a plain terminal. -/
def hasPlainTerminal (m : State) : Bool :=
  match (m.process.environmentValue "TERM").bind Utf8.decode? with
  | some kind => plainTerminals.contains (String.ofList (kind.toList.map Char.toLower))
  | none => false

/-- The machine after the editor has shown a prompt; of an empty one nothing is written. -/
def showEditorPrompt (prompt : String) (m : State) : State :=
  if prompt ≠ "" ∧ hasPlainTerminal m = true then (host.write (Utf8.encode prompt) m).2 else m

/-- The lines of the editor on standard input; its state is its buffer and the history. -/
def typedLines (limit : UInt64) : LineSource (Nat × Bytes × History) State :=
  .counted true fun prompt s m =>
    let m := showEditorPrompt prompt m
    let before := feedOf 0 s.1 m
    match (Typist.mk before s.2).nextLine limit with
    | (item, after) => (item, (after.feed.buffer, after.history), advance 0 before after.feed m)

/-! ### The history -/

/-- The path of the history, in the home directory; there is none without a home. -/
def historyPath (m : State) : Option Bytes :=
  (m.process.environmentValue "HOME").map fun home =>
    let name := Utf8.encode History.fileName
    if home = [] ∨ home.getLast? = some slash then home ++ name else home ++ slash :: name

/-- What the file of the history holds; nothing if there is none that can be read. -/
def historyContent (m : State) : Bytes :=
  match historyPath m with
  | none => []
  | some path =>
    match m.locate path with
    | .error _ => []
    | .ok n =>
      match m.tree.node n with
      | .file content _ => content
      | _ => []

/-- The history that was saved; empty if there is none that can be read. -/
def loadHistory (m : State) : History := .load (historyContent m)

/-- The permission bits of a history that is saved, whatever they were before. -/
def historyMode : Nat := 0o600

/-- The machine after a file that is open was given permission bits. -/
def setMode (descriptor mode : Nat) (m : State) : State :=
  match m.openFile? descriptor with
  | none => m
  | some (_, f) =>
    match m.tree.node f.node with
    | .file content _ => { m with tree := m.tree.setNode f.node (.file content mode) }
    | _ => m

/-- The machine after the history was saved; one that has nothing new is not. -/
def saveHistory (h : History) (m : State) : State :=
  match historyPath m with
  | none => m
  | some path =>
    if h.unsaved && m.isAlive then
      match openAt (.toReplace historyMode) path m with
      | (.error _, m') => m'
      | (.ok descriptor, m') =>
        (write descriptor h.save (setMode descriptor historyMode m')).2.modifyProcess
          (·.close descriptor)
    else m

/-- All answers of the editor up to the last one, with the history loaded before, and the history
then.  Each answer but the last takes something off the input, so there are no more than that many. -/
def editLines (limit : UInt64) (m : State) : List InputItem × History × State :=
  match (typedLines limit).items ((feedOf 0 [] m).size + 1, [], loadHistory m) m with
  | (items, s, m') => (items, s.2.2, m')

/-- All answers of the editor up to the last one, with the history loaded before and saved after. -/
def editAll (limit : UInt64) (m : State) : List InputItem × State :=
  match editLines limit m with
  | (items, h, m') => (items, saveHistory h m')

end LineShell.Machine
