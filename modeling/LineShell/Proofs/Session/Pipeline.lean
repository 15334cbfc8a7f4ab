/-
**What has to succeed before a program is launched.**

Between a line and the launch of its program stand five things that can fail: the line is cut into
tokens, the first of which must not name a built-in command; a path is found for it; the invocation
is built; the session's output is handed on; and so is what the process holds back.  Only if all of
them succeed is anything launched, and then it is launched once, under the path that was found.

The target of a redirection is known when the invocation is built, and the output is handed on
later.  Still nothing is opened before: opening is left to the child.  So a line that stops on the
way, for whatever reason, leaves no trace on the files, and neither does a built-in command, which
takes a marker and a target for arguments like any others.

The session runs on any host and launches with any kernel; the host's writer may fail at any time.
What is done to children and files is noted beside the surroundings.

Main definitions:

* `LineShell.Session.Cleared` — all that has to succeed before a launch has succeeded;
* `LineShell.Host.tracing` — the host that notes what is done.

Main results:

* `LineShell.Session.exists_cleared_iff` — such lines are those that come to launch a program;
* `LineShell.Session.exists_tryLine_tracing` — a line notes the deeds of its one launch, or nothing;
* `LineShell.Session.deeds_of_line` — **nothing is launched or opened unless all before it
  succeeded**.
-/

import LineShell.Machine.Boot
import LineShell.Machine.Host
import LineShell.Proofs.Launch.Deeds
import LineShell.Proofs.Session.Frame
import LineShell.Proofs.Token.Scan

set_option autoImplicit false

namespace LineShell

/-! ### The path of the program -/

/-- An invocation runs the program at the path that it was built for. -/
theorem Invocation.program_of_build {path : Bytes} {tokens : List String} {invocation : Invocation}
    (h : build path tokens = .ok invocation) : invocation.vector.program.bytes = path := by
  unfold build at h
  cases hdirective : directive tokens.tail with
  | error cause =>
      rw [hdirective] at h
      cases h
  | ok parts =>
      obtain ⟨redirection, rest⟩ := parts
      rw [hdirective] at h
      cases hprogram : CString.ofBytes path with
      | error e =>
          simp only [bind, Except.bind, hprogram] at h
          cases h
      | ok program =>
          simp only [bind, Except.bind, hprogram] at h
          cases harguments : arguments rest with
          | error cause =>
              rw [harguments] at h
              cases h
          | ok cs =>
              rw [harguments] at h
              cases h
              exact (CString.ofBytes_eq_ok_iff path program).1 hprogram

/-! ### Hosts that note what is done -/

section

variable {ω : Type} (host : Host ω) (kernel : Kernel ω)

/-- The host that launches with a kernel and notes, beside the surroundings, that a launch was asked
for and what it does.  All else happens in the surroundings as before. -/
def Host.tracing : Host (List Deed × ω) where
  probe s := host.probe s.2
  workingDirectory s := host.workingDirectory s.2
  changeDirectory path := (host.changeDirectory path).within
  write bytes := (host.write bytes).within
  flush := host.flush.within
  flushStandardOutput := host.flushStandardOutput.within
  diagnose text s := (s.1, host.diagnose text s.2)
  launch invocation := fun (seen, w) =>
    kernel.tracing.launch invocation (seen ++ [.execute invocation], w)
  takeInterrupt s := ((host.takeInterrupt s.2).1, s.1, (host.takeInterrupt s.2).2)

theorem Host.extends_tracing : (host.tracing kernel).Extends (host.withKernel kernel) where
  probe _ := rfl
  workingDirectory _ := rfl
  changeDirectory _ := rfl
  write _ := rfl
  flush := rfl
  flushStandardOutput := rfl

theorem Host.launch_tracing (invocation : Invocation) (seen : List Deed) (w : ω) :
    (host.tracing kernel).launch invocation (seen, w) =
      ((kernel.launch invocation w).1,
        seen ++ .execute invocation :: kernel.deeds invocation w,
        (kernel.launch invocation w).2) := by
  show kernel.tracing.launch invocation (seen ++ [.execute invocation], w) = _
  rw [kernel.launch_tracing, List.append_assoc, List.singleton_append]

end

namespace Session

variable {ω : Type} {host : Host ω} {kernel : Kernel ω} {line : String} {s : Session ω}

/-! ### Before a launch -/

/-- All that has to succeed before a launch has succeeded, and it comes to this path and this
invocation. -/
inductive Cleared (host : Host ω) (line : String) (s : Session ω) (path : String)
    (invocation : Invocation) : Prop where
  /-- The line has tokens and calls no built-in command; its name has a path; the invocation can be
  built; and all output is handed on. -/
  | intro {name : String} {rest : List String} {w w' : ω} (program : ProgramLine line name rest)
    (resolved : s.searchPath.resolve (host.probe s.world) name = .ok path)
    (built : Invocation.build (Utf8.encode path) (name :: rest) = .ok invocation)
    (flushed : host.flush s.world = (.ok (), w))
    (emptied : host.flushStandardOutput w = (.ok (), w')) :
    Cleared host line s path invocation

theorem Cleared.launches {path : String} {invocation : Invocation}
    (h : Cleared host line s path invocation) :
    ∃ w, Launches (host.withKernel kernel) line s invocation w := by
  obtain ⟨program, resolved, built, flushed, emptied⟩ := h
  rename_i name rest w w'
  have hfound : s.searchPath.resolve ((host.withKernel kernel).probe s.world) name = .ok path :=
    resolved
  have hprepared : prepare (host.withKernel kernel) name (name :: rest) s = .ok invocation := by
    rw [prepare, hfound]
    dsimp only
    rw [built]
  exact ⟨_, .intro program hprepared flushed emptied⟩

theorem Launches.exists_cleared {invocation : Invocation} {w : ω}
    (h : Launches (host.withKernel kernel) line s invocation w) :
    ∃ path, Cleared host line s path invocation := by
  obtain ⟨program, prepared, flushed, emptied⟩ := h
  unfold prepare at prepared
  split at prepared
  · cases prepared
  next path resolved =>
  split at prepared
  · cases prepared
  next built =>
  cases prepared
  exact ⟨path, .intro program resolved built flushed emptied⟩

/-- The lines that come to launch a program are those that got so far. -/
theorem exists_cleared_iff (kernel : Kernel ω) (invocation : Invocation) :
    (∃ path, Cleared host line s path invocation) ↔
      ∃ w, Launches (host.withKernel kernel) line s invocation w :=
  ⟨fun ⟨_, h⟩ => h.launches, fun ⟨_, h⟩ => h.exists_cleared⟩

/-- The program that is run is the one at the path that was found. -/
theorem Cleared.program_eq {path : String} {invocation : Invocation}
    (h : Cleared host line s path invocation) :
    invocation.vector.program.bytes = Utf8.encode path := by
  obtain ⟨-, -, built, -, -⟩ := h
  exact Invocation.program_of_build built

/-! ### What a line notes -/

theorem Launches.tracing {invocation : Invocation} {w : ω}
    (h : Launches (host.withKernel kernel) line s invocation w) (seen : List Deed) :
    Launches (host.tracing kernel) line (s.beside seen) invocation (seen, w) := by
  obtain ⟨program, prepared, flushed, emptied⟩ := h
  rename_i name rest w₁ w₂
  have hready : ready (host.tracing kernel) s.settings (seen, w₂) =
      (seen, ready (host.withKernel kernel) s.settings w₂) := by
    unfold ready
    split <;> rfl
  have hlaunches : Launches (host.tracing kernel) line (s.beside seen) invocation
      (ready (host.tracing kernel) s.settings (seen, w₂)) :=
    .intro program prepared (Act.within_of_eq flushed seen) (Act.within_of_eq emptied seen)
  rwa [hready] at hlaunches

/-- What is done after a program ran is no deed. -/
theorem settle_tracing (settings : Settings) :
    settle (host.tracing kernel) settings = (settle (host.withKernel kernel) settings).within := by
  funext ⟨seen, w⟩
  cases hs : settings.interactive with
  | false =>
      have hplain : settle (host.withKernel kernel) settings w = (.ok (), w) := by
        rw [settle, hs]
        rfl
      rw [Act.within_of_eq hplain, settle, hs]
      rfl
  | true =>
    cases hinterrupt : host.takeInterrupt w with
    | mk interrupted w' =>
      have htraced : (host.tracing kernel).takeInterrupt (seen, w) = (interrupted, seen, w') := by
        simp only [Host.tracing, hinterrupt]
      have huntraced : (host.withKernel kernel).takeInterrupt w = (interrupted, w') := hinterrupt
      cases interrupted with
      | false =>
          have hplain : settle (host.withKernel kernel) settings w = (.ok (), w') := by
            simp only [settle, hs, if_true, huntraced]
          rw [Act.within_of_eq hplain]
          simp only [settle, hs, if_true, htraced]
      | true =>
          have hplain : settle (host.withKernel kernel) settings w =
              (do host.write (Utf8.encode "\n"); host.flush : Act ω IoError Unit) w' := by
            simp only [settle, hs, if_true, huntraced]
            rfl
          rw [Act.within_of_eq hplain]
          simp only [settle, hs, if_true, htraced]
          exact congrFun (Act.within_bind _ _).symm (seen, w')

/-- A line that launches a program notes that launch and its deeds, and does what it does
untraced. -/
theorem tryLine_tracing_of_launches {invocation : Invocation} {w : ω}
    (h : Launches (host.withKernel kernel) line s invocation w) (seen : List Deed) :
    tryLine (host.tracing kernel) line (s.beside seen) =
      ((tryLine (host.withKernel kernel) line s).1,
        (tryLine (host.withKernel kernel) line s).2.beside
          (seen ++ .execute invocation :: kernel.deeds invocation w)) := by
  cases hlaunch : kernel.launch invocation w with
  | mk r w' =>
    have htraced : (host.tracing kernel).launch invocation (seen, w) =
        (r, seen ++ .execute invocation :: kernel.deeds invocation w, w') := by
      rw [Host.launch_tracing, hlaunch]
    have huntraced : (host.withKernel kernel).launch invocation w = (r, w') := hlaunch
    rw [tryLine_of_launches (h.tracing seen), tryLine_of_launches h, htraced, huntraced]
    cases r with
    | error cause => rfl
    | ok outcome =>
      cases hsettle : settle (host.withKernel kernel) s.settings w' with
      | mk settled w'' =>
        have htracedSettle : settle (host.tracing kernel) (s.beside seen).settings
            (seen ++ .execute invocation :: kernel.deeds invocation w, w') =
              (settled, seen ++ .execute invocation :: kernel.deeds invocation w, w'') := by
          rw [settle_tracing]
          exact Act.within_of_eq hsettle _
        simp only [htracedSettle, hsettle]
        cases settled with
        | error cause => rfl
        | ok _ => rfl

/-- **A line notes the deeds of its one launch, or nothing**, and does what it does untraced. -/
theorem exists_tryLine_tracing (host : Host ω) (kernel : Kernel ω) (line : String)
    (s : Session ω) :
    ∃ deeds,
      (∀ seen, tryLine (host.tracing kernel) line (s.beside seen) =
        ((tryLine (host.withKernel kernel) line s).1,
          (tryLine (host.withKernel kernel) line s).2.beside (seen ++ deeds))) ∧
      (∀ invocation w, Launches (host.withKernel kernel) line s invocation w →
        deeds = .execute invocation :: kernel.deeds invocation w) ∧
      ((∀ invocation w, ¬ Launches (host.withKernel kernel) line s invocation w) → deeds = []) := by
  by_cases hlaunches : ∃ invocation w, Launches (host.withKernel kernel) line s invocation w
  · obtain ⟨invocation, w, h⟩ := hlaunches
    refine ⟨_, tryLine_tracing_of_launches h, ?_, fun hnone => absurd h (hnone _ _)⟩
    intro invocation' w' h'
    obtain ⟨rfl, rfl⟩ := h.unique h'
    rfl
  · -- such a line does not reach what is beside the surroundings, so the notes stay as they are
    have hnone : ∀ invocation w, ¬ Launches (host.withKernel kernel) line s invocation w :=
      fun invocation w h => hlaunches ⟨invocation, w, h⟩
    refine ⟨[], fun seen => ?_, fun invocation w h => absurd h (hnone _ _), fun _ => rfl⟩
    have hcourse := (course_tryLine (host.withKernel kernel) line s).widen
      (host.extends_tracing kernel) hnone seen
    rw [List.append_nil]
    exact hcourse.tryLine_eq

/-- The report of a failure notes nothing. -/
theorem executeLine_tracing {deeds seen : List Deed}
    (h : tryLine (host.tracing kernel) line (s.beside seen) =
      ((tryLine (host.withKernel kernel) line s).1,
        (tryLine (host.withKernel kernel) line s).2.beside (seen ++ deeds))) :
    executeLine (host.tracing kernel) line (s.beside seen) =
      ((executeLine (host.withKernel kernel) line s).1,
        (executeLine (host.withKernel kernel) line s).2.beside (seen ++ deeds)) := by
  rw [executeLine, executeLine, h]
  cases tryLine (host.withKernel kernel) line s with
  | mk r s' =>
    cases r with
    | ok flow => rfl
    | error cause => rfl

/-! ### All lines -/

/-- **Nothing is launched or opened unless all before it succeeded.**  Whatever the line, the
session and its surroundings, the line does what it does without being traced, and notes some deeds.
If it was cut into tokens of which the first names no built-in command, a path was found, the
invocation was built and all output was handed on, one launch was asked for, of the program at that
path; what was done for it is at most one child, and after that the opening of the one target of its
redirection.  In all other cases no launch was asked for, no child was made and no target was
opened, and whatever only launches can change is as it was. -/
theorem deeds_of_line (host : Host ω) (kernel : Kernel ω) (line : String) (s : Session ω)
    (seen : List Deed) :
    let traced := host.tracing kernel
    let untraced := host.withKernel kernel
    ∃ deeds,
      (tryLine traced line (s.beside seen) =
          ((tryLine untraced line s).1, (tryLine untraced line s).2.beside (seen ++ deeds)) ∧
        executeLine traced line (s.beside seen) =
          ((executeLine untraced line s).1,
            (executeLine untraced line s).2.beside (seen ++ deeds))) ∧
      (∀ path invocation, Cleared host line s path invocation →
        invocation.vector.program.bytes = Utf8.encode path ∧
          ∃ done, deeds = .execute invocation :: done ∧
            done <+: .child :: Kernel.openings invocation) ∧
      ((¬ ∃ path invocation, Cleared host line s path invocation) →
        deeds = [] ∧ ∀ (δ : Type) (part : ω → δ), host.Quiet part →
          part (tryLine untraced line s).2.world = part s.world ∧
            part (executeLine untraced line s).2.world = part s.world) := by
  intro traced untraced
  obtain ⟨deeds, htry, hlaunched, hnothing⟩ := exists_tryLine_tracing host kernel line s
  refine ⟨deeds, ⟨htry seen, executeLine_tracing (htry seen)⟩, ?_, ?_⟩
  -- a line is cleared exactly if it comes to a launch, and what it notes is known for both cases
  · intro path invocation hcleared
    obtain ⟨w, hlaunches⟩ := @Cleared.launches _ _ kernel _ _ _ _ hcleared
    exact ⟨hcleared.program_eq, _, hlaunched invocation w hlaunches,
      kernel.deeds_prefix invocation w⟩
  · intro hstopped
    have hnone : ∀ invocation w, ¬ Launches (host.withKernel kernel) line s invocation w := by
      intro invocation w hlaunches
      obtain ⟨path, hcleared⟩ := hlaunches.exists_cleared
      exact hstopped ⟨path, invocation, hcleared⟩
    refine ⟨hnothing hnone, fun δ part hquiet => ?_⟩
    have huntraced : (host.withKernel kernel).Quiet part := hquiet.withKernel kernel
    exact ⟨(course_tryLine _ line s).part_eq huntraced hnone, part_executeLine huntraced hnone⟩

/-! ### Machines -/

theorem leaves_whileAlive {ε α δ : Type} {part : Machine.State → δ} {otherwise : α}
    {a : Act Machine.State ε α} (h : a.Leaves part) :
    (Machine.whileAlive otherwise a).Leaves part := by
  intro m
  unfold Machine.whileAlive
  split
  · exact h m
  · rfl

/-- On a machine only launches make files, open them or make processes. -/
theorem quiet_machine :
    Machine.host.Quiet fun m => (m.tree.nodes.size, m.files.size, m.nextProcess) := by
  have hwrite : ∀ descriptor bytes, (Machine.write descriptor bytes).Leaves
      fun m => (m.tree.nodes.size, m.files.size, m.nextProcess) := by
    intro descriptor bytes m
    unfold Machine.write
    split
    · rfl
    split
    · rfl
    split
    · simp [Machine.FileTree.setNode, Machine.State.seek]
    · split
      · simp [Machine.FileTree.setNode]
      · rfl
    · rfl
    · rfl
  have henter : ∀ path, (Machine.changeDirectory path).Leaves
      fun m => (m.tree.nodes.size, m.files.size, m.nextProcess) := by
    intro path m
    unfold Machine.changeDirectory
    split
    · rfl
    · split <;> rfl
  exact
    { changeDirectory := fun path => leaves_whileAlive (henter path)
      write := fun bytes => leaves_whileAlive ((hwrite 1 bytes).mapError _)
      flush := Act.leaves_pure ()
      flushStandardOutput := Act.leaves_pure ()
      diagnose := fun text m => leaves_whileAlive (hwrite 2 (Utf8.encode text)) m
      takeInterrupt := fun _ => rfl }

/-- A built-in command with a redirection leaves no trace, and a program with one is launched. -/
theorem deeds_of_line_redirected :
    let traced := Machine.host.tracing Machine.kernel
    let s := start {} (Machine.boot Machine.furnished .null [] Machine.FileTree.root)
    let listed := (executeLine traced "pwd > f" (s.beside [])).2.world
    let launched := (executeLine traced "/bin/sh > f" (s.beside [])).2.world
    listed.1 = [] ∧ listed.2.files.size = s.world.files.size ∧
      ∃ invocation done, launched.1 = .execute invocation :: done ∧
        invocation.vector.program.bytes = Utf8.encode "/bin/sh" := by
  intro traced s listed launched
  have hpwd : tokenize "pwd > f" = .ok ["pwd", ">", "f"] :=
    @tokenize_of_scan "pwd > f" ["pwd".toList, ">".toList, "f".toList] rfl
  have hsh : tokenize "/bin/sh > f" = .ok ["/bin/sh", ">", "f"] :=
    @tokenize_of_scan "/bin/sh > f" ["/bin/sh".toList, ">".toList, "f".toList] rfl
  have hbuiltin : ¬ ∃ path invocation, Cleared Machine.host "pwd > f" s path invocation := by
    rintro ⟨path, invocation, program, -, -, -, -⟩
    have htokens := hpwd.symm.trans program.tokens
    simp only [Except.ok.injEq, List.cons.injEq] at htokens
    have hfound := program.found
    rw [← htokens.1] at hfound
    exact absurd hfound (by decide)
  have hcleared : Cleared Machine.host "/bin/sh > f" s "/bin/sh" _ :=
    .intro ⟨hsh, by decide⟩ rfl rfl rfl rfl
  obtain ⟨none, ⟨-, hlisted⟩, -, hstopped⟩ :=
    deeds_of_line Machine.host Machine.kernel "pwd > f" s []
  obtain ⟨rfl, hleft⟩ := hstopped hbuiltin
  obtain ⟨deeds, ⟨-, hlaunched⟩, hpassed, -⟩ :=
    deeds_of_line Machine.host Machine.kernel "/bin/sh > f" s []
  obtain ⟨hprogram, done, rfl, -⟩ := hpassed _ _ hcleared
  refine ⟨?_, ?_, _, done, ?_, hprogram⟩
  · exact congrArg (fun r => r.2.world.1) hlisted
  · have hsame := (hleft _ _ quiet_machine).2
    have hworld : listed.2 =
        (executeLine (Machine.host.withKernel Machine.kernel) "pwd > f" s).2.world :=
      congrArg (fun r => r.2.world.2) hlisted
    rw [hworld]
    exact congrArg (fun counts => counts.2.1) hsame
  · exact congrArg (fun r => r.2.world.1) hlaunched

end Session

end LineShell
