/-
**What a session leaves in its history.**

A session with the editor starts with the history that the file in its home holds, and when its input
has ended it saves the history there.  What is in the history then can be said from the file and from
the text that was typed: what was loaded, and behind it the accepted lines, each unless it repeats what
is last before it; of all these the newest hundred.

The history is saved if it holds something that is not in the file yet, and otherwise the files of the
machine are left alone.  A line that was added is not in the file yet.  But what was loaded may count as
new as well: if loading broke off at a line that is not UTF-8, then a session saves what it had loaded
until there even if it adds nothing, and what stood behind is gone.

Main definitions:

* `LineShell.Machine.FileTree.Writable`, `LineShell.Machine.FileTree.Written` — a place for a regular
  file, and a tree where a file at that place holds some bytes.

Main results:

* `LineShell.Machine.tree_saveHistory` — what saving does;
* `LineShell.Machine.history_editLines` — the history at the end of the input;
* `LineShell.Machine.history_of_session` — **what a session adds to the history**.
-/

import LineShell.Proofs.Input.History
import LineShell.Proofs.Machine.Descriptors
import LineShell.Proofs.Machine.Editor

set_option autoImplicit false

namespace LineShell.Machine

/-! ### A file in the tree -/

namespace FileTree

variable (t : FileTree)

/-- A place for a regular file: there is one, or it can be made in a directory of the tree. -/
inductive Writable : Place → Prop
  /-- The file is there. -/
  | existing {n : Nat} {content : Bytes} {mode : Nat} (hnode : t.node n = .file content mode) :
      Writable (.existing n)
  /-- The file is missing, and its directory is not. -/
  | vacant {directory : Nat} (name : Bytes) (hlinked : t.isLinked directory = true) :
      Writable (.vacant directory name)

/-- A tree that is the first but for a regular file at a place, which holds some bytes; with what
permission bits is left open. -/
inductive Written (bytes : Bytes) : Place → FileTree → Prop
  /-- The file was there. -/
  | existing (n mode : Nat) : Written bytes (.existing n) (t.setNode n (.file bytes mode))
  /-- The file was missing, and is entered in its directory. -/
  | created (directory : Nat) (name : Bytes) (mode : Nat) :
      Written bytes (.vacant directory name) (t.create directory name (.file bytes mode)).2

theorem Written.exists_setNode {t t' : FileTree} {bytes : Bytes} {n : Nat}
    (h : t.Written bytes (.existing n) t') : ∃ mode, t' = t.setNode n (.file bytes mode) := by
  cases h with
  | existing _ mode => exact ⟨mode, rfl⟩

/-- The last of two writes to a node is what it holds. -/
theorem setNode_setNode (n : Nat) (a b : Node) : (t.setNode n a).setNode n b = t.setNode n b := by
  simp [setNode]

/-- What is not the empty device is one of the nodes. -/
theorem lt_size_of_node {t : FileTree} {n : Nat} (h : t.node n ≠ .null) : n < t.nodes.size := by
  refine Decidable.byContradiction fun hle => h ?_
  rw [node, Array.getElem?_eq_none (Nat.le_of_not_lt hle), Option.getD_none]

theorem node_setNode {t : FileTree} {n : Nat} {content : Bytes} {mode : Nat}
    (h : t.node n = .file content mode) (a : Node) : (t.setNode n a).node n = a := by
  have hlt : n < t.nodes.size := lt_size_of_node (by simp [h])
  simp [node, setNode, hlt]

/-- A file that is made stands behind the other nodes, among which the directory may have changed. -/
theorem exists_create_file (directory : Nat) (name : Bytes) :
    ∃ nodes : Array Node, nodes.size = t.nodes.size ∧ ∀ content mode,
      (t.create directory name (.file content mode)).2 = ⟨nodes.push (.file content mode)⟩ := by
  have hnode : ∀ content mode, FileTree.node ⟨t.nodes.push (.file content mode)⟩ directory =
      if directory = t.nodes.size then .file content mode else t.node directory := by
    intro content mode
    rw [node, Array.getElem?_push]
    split
    · rfl
    · rfl
  cases hdirectory : t.node directory with
  | directory entries parent =>
      have hlt : directory < t.nodes.size := lt_size_of_node (by simp [hdirectory])
      refine ⟨t.nodes.setIfInBounds directory
        (.directory (entries ++ [(name, t.nodes.size)]) parent), Array.size_setIfInBounds, ?_⟩
      intro content mode
      simp only [create, addNode, enter, hnode, hdirectory, if_neg (Nat.ne_of_lt hlt), setNode]
      simp [Array.setIfInBounds, Array.set_push, hlt, Nat.lt_succ_of_lt hlt]
  | _ =>
      refine ⟨t.nodes, rfl, fun content mode => ?_⟩
      simp only [create, addNode, enter, hnode, hdirectory]
      split
      · next heq =>
        -- the file itself is no directory
        split at heq
        · cases heq
        · cases heq
      · rfl

/-- Making a file in a directory and then changing it is making it as it is changed. -/
theorem setNode_create (directory : Nat) (name content bytes : Bytes) (mode mode' : Nat) :
    (t.create directory name (.file content mode)).2.setNode t.nodes.size (.file bytes mode') =
      (t.create directory name (.file bytes mode')).2 := by
  obtain ⟨nodes, hsize, hcreate⟩ := t.exists_create_file directory name
  rw [hcreate, hcreate, ← hsize]
  simp [setNode, Array.setIfInBounds, Array.set_push]

theorem node_create (directory : Nat) (name content : Bytes) (mode : Nat) :
    (t.create directory name (.file content mode)).2.node t.nodes.size = .file content mode := by
  obtain ⟨nodes, hsize, hcreate⟩ := t.exists_create_file directory name
  rw [hcreate, ← hsize]
  simp [node]

end FileTree

section

variable {m : State}

/-! ### Saving the history -/

/-- The path of the history ends with the name of its file. -/
theorem getLast?_historyPath {path : Bytes} (h : historyPath m = some path) :
    path.getLast? = some 121 := by
  obtain ⟨home, -, rfl⟩ := Option.map_eq_some_iff.1 h
  have hname : (Utf8.encode History.fileName).getLast? = some 121 := by decide
  dsimp only
  split
  · rw [List.getLast?_append, hname, Option.some_or]
  · rw [List.getLast?_append, List.getLast?_cons, hname, Option.getD_some, Option.some_or]

/-- So it is none that stands for a descriptor. -/
theorem descriptorOf_historyPath {path : Bytes} (h : historyPath m = some path) :
    State.descriptorOf path = none := by
  have hlast := getLast?_historyPath h
  have hstandard : State.standardPaths.find? (fun p => Utf8.encode p.1 == path) = none := by
    have hends : ∀ p ∈ State.standardPaths, (Utf8.encode p.1).getLast? ≠ some 121 := by decide
    refine List.find?_eq_none.2 fun p hp heq => hends p hp ?_
    rw [eq_of_beq heq, hlast]
  rw [State.descriptorOf, hstandard, Option.map_none, Option.orElse_eq_orElse, Option.orElse_eq_or,
    Option.none_or, List.findSome?_eq_none_iff]
  intro directory _
  split
  · split
    · next d hdigit =>
      have hpath : path.getLast? = some d := by
        rw [← List.take_append_drop (Utf8.encode directory).length path, hdigit,
          List.getLast?_concat]
      obtain rfl : 121 = d := Option.some.inj (hlast.symm.trans hpath)
      rfl
    · rfl
  · rfl

/-- A history with nothing new is not saved. -/
theorem saveHistory_of_saved {history : History} (h : history.unsaved = false) (m : State) :
    saveHistory history m = m := by
  unfold saveHistory
  split
  · rfl
  · rw [h, Bool.false_and, if_neg Bool.false_ne_true]

/-- Nor is any without a home. -/
theorem saveHistory_of_homeless (h : historyPath m = none) (history : History) :
    saveHistory history m = m := by
  rw [saveHistory, h]

theorem State.openFile?_addOpenFile (m : State) (file : OpenFile) :
    (m.addOpenFile file).2.openFile? m.process.freeDescriptor = some (m.files.size, file) := by
  have hfile : (m.addOpenFile file).2.process.openFile m.process.freeDescriptor =
      some m.files.size := by
    show (m.process.bind _ _).openFile _ = _
    rw [Process.openFile_bind, Function.update_self]
  simp only [State.openFile?, hfile]
  simp [State.addOpenFile]

/-- Permission bits are changed, and nothing else. -/
theorem setMode_of_file {descriptor index mode : Nat} {f : OpenFile} {content : Bytes}
    (hopen : m.openFile? descriptor = some (index, f))
    (hnode : m.tree.node f.node = .file content mode) (mode' : Nat) :
    setMode descriptor mode' m =
      { m with tree := m.tree.setNode f.node (.file content mode') } := by
  simp only [setMode, hopen, hnode]

/-- What is written to an empty file is what it holds. -/
theorem tree_write_of_empty {descriptor index n mode : Nat}
    (hopen : m.openFile? descriptor = some (index, ⟨n, 0, false, true, true, false⟩))
    (hnode : m.tree.node n = .file [] mode) (bytes : Bytes) :
    (write descriptor bytes m).2.tree = m.tree.setNode n (.file bytes mode) := by
  simp only [write, hopen, Bool.not_true, Bool.false_eq_true, if_false, hnode]
  rfl

/-- A file that is opened to be replaced, and then given permission bits and written, has those bits
and holds what was written. -/
theorem exists_openNode_toReplace {content : Bytes} {n mode created : Nat}
    (hnode : m.tree.node n = .file content mode) :
    ∃ m', State.openNode (.toReplace created) n m = (.ok m.process.freeDescriptor, m') ∧
      ∀ bytes mode', (write m.process.freeDescriptor bytes
        (setMode m.process.freeDescriptor mode' m')).2.tree =
          m.tree.setNode n (.file bytes mode') := by
  let emptied : State := { m with tree := m.tree.setNode n (.file [] mode) }
  let file : OpenFile := ⟨n, 0, false, true, true, false⟩
  refine ⟨(emptied.addOpenFile file).2, ?_, fun bytes mode' => ?_⟩
  · simp only [State.openNode, Access.toReplace, hnode, if_true]
    rfl
  · have hopen := State.openFile?_addOpenFile emptied file
    have hempty : (emptied.addOpenFile file).2.tree.node n = .file [] mode :=
      FileTree.node_setNode hnode _
    have hset := setMode_of_file hopen hempty mode'
    have hgiven : (emptied.tree.setNode n (.file [] mode')).node n = .file [] mode' :=
      FileTree.node_setNode hempty _
    have hwrite := @tree_write_of_empty
      { (emptied.addOpenFile file).2 with tree := emptied.tree.setNode n (.file [] mode') }
      _ _ _ _ hopen hgiven bytes
    refine (congrArg (fun m' => (write _ bytes m').2.tree) hset).trans (hwrite.trans ?_)
    show ((m.tree.setNode n _).setNode n _).setNode n _ = _
    rw [FileTree.setNode_setNode, FileTree.setNode_setNode]

/-- **What saving does**: the file of the history holds the history, and nothing else changes. -/
theorem tree_saveHistory {history : History} {path : Bytes} {place : Place}
    (halive : m.isAlive = true) (hunsaved : history.unsaved = true)
    (hpath : historyPath m = some path)
    (hplace : m.tree.placeFor m.process.directory path = .ok place)
    (hwritable : m.tree.Writable place) :
    m.tree.Written history.save place (saveHistory history m).tree := by
  have hlocated : m.locatePlace path = .ok place := by
    rw [State.locatePlace, descriptorOf_historyPath hpath, Option.isSome_none,
      if_neg Bool.false_ne_true, hplace]
  have hsaved : ∀ {m' : State}, openAt (.toReplace historyMode) path m =
      (.ok m.process.freeDescriptor, m') → (saveHistory history m).tree =
        (write m.process.freeDescriptor history.save
          (setMode m.process.freeDescriptor historyMode m')).2.tree := by
    intro m' hopen
    simp only [saveHistory, hpath, hunsaved, halive, Bool.and_self, if_true, hopen]
    rfl
  cases hwritable with
  | @existing n content mode hnode =>
      obtain ⟨m', hopen, hwrite⟩ := @exists_openNode_toReplace m content n mode historyMode hnode
      have hopened : openAt (.toReplace historyMode) path m =
          (.ok m.process.freeDescriptor, m') := by
        rw [← hopen]
        simp only [openAt, Access.toReplace, hlocated]
      rw [hsaved hopened, hwrite]
      exact .existing _ _
  | @vacant directory name hlinked =>
      -- the file is made first, and then opened like any other
      obtain ⟨m', hopen, hwrite⟩ := @exists_openNode_toReplace
        { m with tree := (m.tree.create directory name
          (.file [] (historyMode - (historyMode &&& m.process.withheld)))).2 }
        [] m.tree.nodes.size _ historyMode (FileTree.node_create ..)
      have hopened : openAt (.toReplace historyMode) path m =
          (.ok m.process.freeDescriptor, m') := by
        refine Eq.trans ?_ hopen
        simp only [openAt, Access.toReplace, hlocated, hlinked, if_true]
        rfl
      have hcreated := (hwrite history.save historyMode).trans (FileTree.setNode_create ..)
      rw [hsaved hopened]
      exact hcreated ▸ .created directory name historyMode

end

/-! ### A home -/

/-- A machine whose root is a home with a history; something is typed. -/
def homeWith (history typed : Bytes) : State :=
  boot ⟨#[.directory [(Utf8.encode History.fileName, 1)] FileTree.root, .file history 0o644]⟩
    (.file typed) [(Utf8.encode "HOME", [slash])] FileTree.root

section

variable (history typed : Bytes)

theorem supplies_homeWith : (homeWith history typed).Supplies typed :=
  ⟨rfl, 0, ⟨2, 0, true, false, false, false⟩, typed, 0o644, rfl, rfl, rfl, rfl⟩

theorem node_root_homeWith : (homeWith history typed).tree.node FileTree.root =
    .directory [(Utf8.encode History.fileName, 1)] FileTree.root := rfl

theorem node_homeWith : (homeWith history typed).tree.node 1 = .file history 0o644 := rfl

theorem historyPath_homeWith :
    historyPath (homeWith history typed) = some (slash :: Utf8.encode History.fileName) := rfl

theorem check_historyPath : Path.check (slash :: Utf8.encode History.fileName) =
    .ok ⟨true, [Utf8.encode History.fileName], false⟩ := rfl

theorem placeFor_homeWith :
    (homeWith history typed).tree.placeFor FileTree.root (slash :: Utf8.encode History.fileName) =
      .ok (.existing 1) := by
  rw [FileTree.placeFor, check_historyPath]
  show FileTree.placeAt _ _ FileTree.root [Utf8.encode History.fileName] false = _
  rw [FileTree.placeAt, node_root_homeWith]
  dsimp only
  rw [if_neg (by decide), if_neg (by decide), if_neg (by decide), if_neg (by decide),
    List.lookup_cons_self]
  dsimp only
  rw [node_homeWith, FileTree.placeAt]

theorem historyContent_homeWith : historyContent (homeWith history typed) = history := by
  have hlocate : (homeWith history typed).locate (slash :: Utf8.encode History.fileName) =
      .ok 1 := by
    rw [State.locate, descriptorOf_historyPath (historyPath_homeWith history typed)]
    dsimp only
    rw [FileTree.resolve, check_historyPath]
    show FileTree.follow _ _ FileTree.root [Utf8.encode History.fileName] = _
    rw [FileTree.follow, node_root_homeWith]
    dsimp only
    rw [if_neg (by decide), if_neg (by decide), if_neg (by decide), List.lookup_cons_self]
    dsimp only
    rw [node_homeWith, FileTree.follow]
  simp only [historyContent, historyPath_homeWith, hlocate, node_homeWith]

end

/-! ### A session -/

section

variable {m : State} {limit : UInt64} {text : String}

/-- The history at the end of the input: what was loaded and what was added, as much of it as is
kept; it is to be saved if loading broke off or something was added. -/
theorem history_editLines (h : m.Supplies (Utf8.encode text)) (limit : UInt64) :
    (editLines limit m).2.1 =
      let loaded := History.load (historyContent m)
      let added := History.changes loaded.entries.getLast?
        ((Typist.typedTexts text.toList).filter (Typist.isAccepted limit))
      ⟨(loaded.entries ++ added).rtake History.capacity, loaded.unsaved || !added.isEmpty⟩ := by
  obtain ⟨files, hlines⟩ := editLines_eq h limit
  rw [hlines, Typist.foldl_historyAfter]
  refine History.foldl_add (History.length_entries_load_le _) fun line hline => ?_
  exact Typist.ne_empty_of_isAccepted (List.mem_filter.1 hline).2

/-- The files at the end of a session. -/
theorem exists_editAll (h : m.Supplies (Utf8.encode text)) (limit : UInt64) :
    ∃ files, editAll limit m =
      ((Typist.typedTexts text.toList).map (Typist.lineAnswer limit) ++ [.ok none],
        saveHistory (editLines limit m).2.1 { m with files := files }) := by
  obtain ⟨files, hlines⟩ := editLines_eq h limit
  refine ⟨files, ?_⟩
  rw [editAll, hlines]

/-- It is to be saved if something was added, or if loading broke off. -/
theorem unsaved_editLines_iff (h : m.Supplies (Utf8.encode text)) (limit : UInt64) :
    (editLines limit m).2.1.unsaved = true ↔
      History.changes (History.load (historyContent m)).entries.getLast?
          ((Typist.typedTexts text.toList).filter (Typist.isAccepted limit)) ≠ [] ∨
        History.BreaksOff (historyContent m) := by
  rw [history_editLines h, ← History.unsaved_load_iff]
  simp [or_comm]

/-- **What a session adds to the history**, whatever the text and the file: behind what was loaded the
lines that were accepted, each unless it repeats what is last before it, and of all these the newest.
What was answered with an error, and what is blank, is not among them.  If nothing was added no file
changes, unless loading broke off; without a home none changes at all.  Otherwise the file of the
history holds it, if it is there or can be made, and no other file changes. -/
theorem history_of_session (h : m.Supplies (Utf8.encode text)) (limit : UInt64) :
    let lines := Typist.typedTexts text.toList
    let loaded := (History.load (historyContent m)).entries
    let added := History.changes loaded.getLast? (lines.filter (Typist.isAccepted limit))
    let final := (editLines limit m).2.1
    (editAll limit m).1 = lines.map (Typist.lineAnswer limit) ++ [.ok none] ∧
    final.entries = (loaded ++ added).rtake History.capacity ∧
    (∀ line ∈ final.entries, line ∈ loaded ∨
      line ∈ lines ∧ Typist.lineAnswer limit line = .ok (some line) ∧
        Text.isAllWhitespace line.toList = false) ∧
    (added = [] ∧ ¬ History.BreaksOff (historyContent m) ∨
        m.process.environmentValue "HOME" = none →
      (editAll limit m).2.tree = m.tree) ∧
    (added ≠ [] ∨ History.BreaksOff (historyContent m) →
      ∀ path place, historyPath m = some path →
        m.tree.placeFor m.process.directory path = .ok place → m.tree.Writable place →
          m.tree.Written final.save place (editAll limit m).2.tree) := by
  intro lines loaded added final
  obtain ⟨files, hsession⟩ := exists_editAll h limit
  have hentries : final.entries = (loaded ++ added).rtake History.capacity :=
    congrArg History.entries (history_editLines h limit)
  have hunsaved : final.unsaved = true ↔ added ≠ [] ∨ History.BreaksOff (historyContent m) :=
    unsaved_editLines_iff h limit
  rw [hsession]
  refine ⟨rfl, hentries, fun line hline => ?_, ?_, ?_⟩
  · rw [hentries] at hline
    rcases List.mem_append.1 (List.mem_of_mem_drop hline) with hloaded | hadded
    · exact .inl hloaded
    · obtain ⟨htyped, haccepted⟩ := List.mem_filter.1 (History.mem_of_mem_changes hadded)
      exact .inr ⟨htyped, Typist.isAccepted_iff.1 haccepted⟩
  · rintro (⟨hnothing, hread⟩ | hhome)
    · have hsaved : final.unsaved = false := by
        rw [← Bool.not_eq_true, hunsaved]
        exact not_or.2 ⟨not_not.2 hnothing, hread⟩
      rw [saveHistory_of_saved hsaved]
    · have hpath : historyPath { m with files := files } = none := by
        rw [historyPath, hhome, Option.map_none]
      rw [saveHistory_of_homeless hpath]
  · intro hnew path place hpath hplace hwritable
    exact tree_saveHistory (m := { m with files := files }) h.alive (hunsaved.2 hnew) hpath hplace
      hwritable

/-- A line that repeats what was loaded, a blank one, one that is too long, and one that is typed twice;
and a session in the same home that adds nothing. -/
theorem history_of_session_homeWith :
    let typed := "old\r\n \nlonger\nnew\nnew"
    let home := homeWith (Utf8.encode "#V2\nold\n") (Utf8.encode typed)
    let idle := homeWith (Utf8.encode "#V2\nold\n") (Utf8.encode "old\n")
    home.Supplies (Utf8.encode typed) ∧ idle.Supplies (Utf8.encode "old\n") ∧
      (editAll 3 home).1 = [.ok (some "old"), .ok (some " "), .error (.tooLong 3), .ok (some "new"),
        .ok (some "new"), .ok none] ∧
      (editLines 3 home).2.1.entries = ["old", "new"] ∧
      (∃ mode, (editAll 3 home).2.tree =
        home.tree.setNode 1 (.file (Utf8.encode "#V2\nold\nnew\n") mode)) ∧
      (editAll 3 idle).2.tree = idle.tree := by
  intro typed home idle
  have hloaded : ∀ bs, (History.load (historyContent
      (homeWith (Utf8.encode "#V2\nold\n") bs))).entries = ["old"] := by
    intro bs
    rw [historyContent_homeWith]
    decide +kernel
  have hlines : Typist.typedTexts typed.toList = ["old", " ", "longer", "new", "new"] := by
    decide +kernel
  have hsupplies : home.Supplies (Utf8.encode typed) := supplies_homeWith _ _
  have hidle : idle.Supplies (Utf8.encode "old\n") := supplies_homeWith _ _
  obtain ⟨hanswers, hentries, -, -, hsaved⟩ := history_of_session hsupplies 3
  obtain ⟨-, -, -, hsame, -⟩ := history_of_session hidle 3
  rw [hlines] at hanswers
  rw [hloaded, hlines] at hentries hsaved
  rw [hloaded] at hsame
  have hkept : (editLines 3 home).2.1.entries = ["old", "new"] := by
    rw [hentries]
    decide +kernel
  have hfile : (editLines 3 home).2.1.save = Utf8.encode "#V2\nold\nnew\n" := by
    rw [History.save, hkept]
    decide +kernel
  rw [hfile] at hsaved
  refine ⟨hsupplies, hidle, hanswers, hkept, ?_, hsame (.inl ⟨?_, ?_⟩)⟩
  · exact (hsaved (.inl (by decide +kernel)) _ _ (historyPath_homeWith _ _) (placeFor_homeWith _ _)
      (.existing (node_homeWith _ _))).exists_setNode
  · decide +kernel
  · rw [← History.unsaved_load_iff, historyContent_homeWith]
    decide +kernel

/-- A session that adds nothing, behind a file that holds one entry and then a byte that is not UTF-8:
what was loaded is saved, and that byte is gone. -/
theorem tree_of_idle_session :
    let home := homeWith [97, 10, 255] (Utf8.encode "\n")
    home.Supplies (Utf8.encode "\n") ∧
      History.changes (History.load (historyContent home)).entries.getLast?
        ((Typist.typedTexts "\n".toList).filter (Typist.isAccepted 4096)) = [] ∧
      (editAll 4096 home).2.tree ≠ home.tree := by
  intro home
  have hsupplies : home.Supplies (Utf8.encode "\n") := supplies_homeWith _ _
  have hnode : home.tree.node 1 = .file [97, 10, 255] 0o644 := node_homeWith _ _
  have hnothing : (Typist.typedTexts "\n".toList).filter (Typist.isAccepted 4096) = [] := by
    decide +kernel
  have hfinal : (editLines 4096 home).2.1 = ⟨["a"], true⟩ := by
    rw [history_editLines hsupplies, hnothing, historyContent_homeWith]
    decide +kernel
  obtain ⟨files, hsession⟩ := exists_editAll hsupplies 4096
  obtain ⟨mode, htree⟩ : ∃ mode, (editAll 4096 home).2.tree =
      home.tree.setNode 1 (.file (History.save ⟨["a"], true⟩) mode) := by
    rw [hsession, hfinal]
    exact (@tree_saveHistory { home with files := files } ⟨["a"], true⟩ _ _ hsupplies.alive rfl
      (historyPath_homeWith [97, 10, 255] (Utf8.encode "\n")) (placeFor_homeWith _ _)
      (.existing hnode)).exists_setNode
  refine ⟨hsupplies, by rw [hnothing]; rfl, fun hsame => ?_⟩
  have hsaved := FileTree.node_setNode hnode (.file (History.save ⟨["a"], true⟩) mode)
  rw [← htree, hsame, hnode, Node.file.injEq] at hsaved
  exact absurd hsaved.1 (by decide +kernel)

end

end LineShell.Machine
