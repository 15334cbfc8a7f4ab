/-
**The descriptors of a machine.**

The descriptors of a machine's acting process are a table, and its calls do to that table what such
calls do.  Opening may create a file, empty one or empty a pipe on the way; all of that happens to
the tree of files, and the open files that there were are left alone.

Main definitions:

* `LineShell.Machine.State.table` — the descriptors of the acting process;
* `LineShell.Machine.State.HasFiles` — every descriptor refers to a file that is open.

Main results:

* `LineShell.Machine.exists_openAt` — opening adds one open file, at a descriptor that was free, or
  none;
* `LineShell.Machine.descriptorCalls_workOn` — **the calls of a machine work on its table**.
-/

import LineShell.Machine.Boot
import LineShell.Proofs.Launch.Table

set_option autoImplicit false

namespace LineShell

namespace Machine

namespace Process

variable (p : Process)

theorem openFile_close (descriptor : Nat) :
    (p.close descriptor).openFile = Function.update p.openFile descriptor none := by
  funext d
  unfold openFile close
  dsimp only
  -- all entries of the descriptor are taken away, not only the one that is found first
  induction p.descriptors with
  | nil => simp [Function.update_apply]
  | cons entry rest ih =>
      obtain ⟨d', n⟩ := entry
      simp only [Function.update_apply] at ih ⊢
      grind

theorem openFile_bind (descriptor file : Nat) :
    (p.bind descriptor file).openFile = Function.update p.openFile descriptor (some file) := by
  funext d
  have hclose := congrFun (p.openFile_close descriptor) d
  rw [Function.update_apply] at hclose ⊢
  rw [openFile, bind, List.lookup_cons]
  by_cases hself : d = descriptor
  · rw [if_pos hself, beq_iff_eq.2 hself]
  · rw [if_neg hself] at hclose ⊢
    rw [beq_eq_false_iff_ne.2 hself]
    exact hclose

/-- The descriptor that a new file gets is free. -/
theorem openFile_freeDescriptor : p.openFile p.freeDescriptor = none := by
  rw [openFile, List.lookup_eq_none_iff]
  intro entry hmem
  have hused : entry.1 ∈ p.descriptors.map (·.1) := List.mem_map_of_mem hmem
  exact bne_iff_ne.2 fun heq => lowestFree_not_mem _ (heq ▸ hused)

end Process

/-- The settings of an open file, by its number. -/
def flagsIn (files : Array OpenFile) (n : Nat) : StatusFlags :=
  ⟨(files[n]?.map (·.nonblocking)).getD false⟩

theorem flagsIn_of_getElem? {files : Array OpenFile} {n : Nat} {f : OpenFile}
    (h : files[n]? = some f) : flagsIn files n = ⟨f.nonblocking⟩ := by
  rw [flagsIn, h]
  rfl

theorem flagsIn_push (files : Array OpenFile) (f : OpenFile) :
    flagsIn (files.push f) = Function.update (flagsIn files) files.size ⟨f.nonblocking⟩ := by
  funext k
  rw [Function.update_apply, flagsIn, Array.getElem?_push]
  split
  · rfl
  · rfl

theorem flagsIn_modify {files : Array OpenFile} {n : Nat} {f : OpenFile} (h : files[n]? = some f)
    (flags : StatusFlags) :
    flagsIn (files.modify n fun f => { f with nonblocking := flags.nonblocking }) =
      Function.update (flagsIn files) n flags := by
  funext k
  rw [Function.update_apply, flagsIn, Array.getElem?_modify]
  by_cases hself : k = n
  · subst hself
    rw [if_pos rfl, if_pos rfl, h]
    rfl
  · rw [if_neg (Ne.symm hself), if_neg hself]
    rfl

namespace State

/-- The descriptors of the acting process, with the settings of all open files. -/
def table (m : State) : DescriptorTable Nat := ⟨m.process.openFile, flagsIn m.files⟩

/-- The descriptors of the acting process refer to files that are open. -/
def HasFiles (m : State) : Prop := ∀ d n, m.process.openFile d = some n → n < m.files.size

theorem of_openFile? {m : State} {d n : Nat} {f : OpenFile} (h : m.openFile? d = some (n, f)) :
    m.process.openFile d = some n ∧ m.files[n]? = some f := by
  unfold openFile? at h
  split at h
  · cases h
  · next n' hfile =>
    obtain ⟨f', hf, heq⟩ := Option.map_eq_some_iff.1 h
    cases heq
    exact ⟨hfile, hf⟩

/-- One open file more is a new one, at a descriptor that was free. -/
theorem table_addOpenFile (m : State) (file : OpenFile) :
    (m.addOpenFile file).2.table =
      (m.table.setFlags m.files.size ⟨file.nonblocking⟩).bind m.process.freeDescriptor
        m.files.size :=
  congrArg₂ DescriptorTable.mk (m.process.openFile_bind _ _) (flagsIn_push m.files file)

theorem exists_emptyPipe (m : State) (n : Nat) :
    ∃ tree, m.emptyPipe n = { m with tree := tree } := by
  unfold emptyPipe
  split
  · split
    · exact ⟨m.tree, rfl⟩
    · exact ⟨_, rfl⟩
  · exact ⟨m.tree, rfl⟩

/-- A node is opened or not, and the descriptors that there were are left alone. -/
theorem exists_openNode (a : Access) (n : Nat) (m : State) :
    (∃ e, openNode a n m = (.error e, m)) ∨
      ∃ tree file, openNode a n m =
        (.ok m.process.freeDescriptor, ({ m with tree := tree }.addOpenFile file).2) := by
  unfold openNode
  dsimp only
  split
  · split
    · exact .inl ⟨_, rfl⟩
    · exact .inr ⟨m.tree, _, rfl⟩
  · exact .inl ⟨_, rfl⟩
  · split
    · obtain ⟨tree, hempty⟩ := m.exists_emptyPipe n
      rw [hempty]
      exact .inr ⟨tree, _, rfl⟩
    · split
      · exact .inr ⟨m.tree, _, rfl⟩
      · exact .inl ⟨_, rfl⟩
  · split
    · exact .inr ⟨_, _, rfl⟩
    · exact .inr ⟨m.tree, _, rfl⟩
  · exact .inr ⟨m.tree, _, rfl⟩

end State

/-- So is what a path leads to, which may be created before. -/
theorem exists_openAt (a : Access) (path : Bytes) (m : State) :
    (∃ e tree, openAt a path m = (.error e, { m with tree := tree })) ∨
      ∃ tree file, openAt a path m =
        (.ok m.process.freeDescriptor, ({ m with tree := tree }.addOpenFile file).2) := by
  have hnode : ∀ n tree,
      (∃ e tree', State.openNode a n { m with tree := tree } =
        (.error e, { m with tree := tree' })) ∨
      ∃ tree' file, State.openNode a n { m with tree := tree } =
        (.ok m.process.freeDescriptor, ({ m with tree := tree' }.addOpenFile file).2) := by
    intro n tree
    rcases State.exists_openNode a n { m with tree := tree } with ⟨e, h⟩ | ⟨tree', file, h⟩
    · exact .inl ⟨e, tree, h⟩
    · exact .inr ⟨tree', file, h⟩
  unfold openAt
  split
  · split
    · exact .inl ⟨_, m.tree, rfl⟩
    · next n _ => exact hnode n m.tree
  · split
    · exact .inl ⟨_, m.tree, rfl⟩
    · next n _ => exact hnode n m.tree
    · split
      · exact hnode _ _
      · exact .inl ⟨_, m.tree, rfl⟩

/-- A machine starts with three descriptors, and they refer to three files. -/
theorem hasFiles_boot (tree : FileTree) (input : Input) (environment : List (Bytes × Bytes))
    (directory : Nat) : (boot tree input environment directory).HasFiles := by
  intro d n hfile
  obtain ⟨before, after, hdescriptors, -⟩ := List.lookup_eq_some_iff.1 hfile
  have hmem : (d, n) ∈ [(0, 0), (1, 1), (2, 2)] := by
    show (d, n) ∈ (boot tree input environment directory).process.descriptors
    rw [hdescriptors]
    exact List.mem_append_right _ List.mem_cons_self
  have hpair : (d = 0 ∧ n = 0) ∨ (d = 1 ∧ n = 1) ∨ (d = 2 ∧ n = 2) := by simpa using hmem
  show n < 3
  omega

/-- **The calls of a machine work on the table of its acting process.** -/
theorem descriptorCalls_workOn : descriptorCalls.WorkOn State.table State.HasFiles where
  opened {redirection descriptor m m'} hfiles hopen := by
    rcases exists_openAt _ redirection.target.bytes m with ⟨e, tree, h⟩ | ⟨tree, file, h⟩
    · cases h.symm.trans hopen
    · cases h.symm.trans hopen
      refine ⟨m.files.size, ⟨file.nonblocking⟩, m.process.openFile_freeDescriptor, ?_, ?_⟩
      · -- no descriptor refers to a file that is not there yet
        intro d hd
        exact Nat.lt_irrefl _ (hfiles d _ hd)
      · exact State.table_addOpenFile _ file
  unopened {redirection e m m'} hopen := by
    rcases exists_openAt _ redirection.target.bytes m with ⟨e, tree, h⟩ | ⟨tree, file, h⟩
    · cases h.symm.trans hopen
      rfl
    · cases h.symm.trans hopen
  read hread := by
    simp only [descriptorCalls] at hread
    split at hread
    · next n f hopen =>
      cases hread
      obtain ⟨hfile, hflags⟩ := State.of_openFile? hopen
      refine ⟨rfl, fun n' hfile' => ?_⟩
      obtain rfl : n = n' := Option.some.inj (hfile.symm.trans hfile')
      exact flagsIn_of_getElem? hflags
    · cases hread
  unread hread := by
    simp only [descriptorCalls] at hread
    split at hread
    · cases hread
    · cases hread
      rfl
  set hset := by
    simp only [descriptorCalls] at hset
    split at hset
    · next n f hopen =>
      cases hset
      obtain ⟨hfile, hflags⟩ := State.of_openFile? hopen
      exact ⟨n, hfile, congrArg (DescriptorTable.mk _) (flagsIn_modify hflags _)⟩
    · cases hset
  unset hset := by
    simp only [descriptorCalls] at hset
    split at hset
    · cases hset
    · cases hset
      exact .inl rfl
  moved {descriptor target m m'} hmove := by
    simp only [descriptorCalls] at hmove
    split at hmove
    · next n hfile =>
      cases hmove
      exact ⟨n, hfile, congrArg (DescriptorTable.mk · _) (m.process.openFile_bind target n)⟩
    · cases hmove
  unmoved hmove := by
    simp only [descriptorCalls] at hmove
    split at hmove
    · cases hmove
    · cases hmove
      rfl
  closed descriptor m := congrArg (DescriptorTable.mk · _) (m.process.openFile_close descriptor)

end Machine

end LineShell
