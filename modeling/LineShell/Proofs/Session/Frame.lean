/-
**What a line does not reach.**

A line that launches no program does little to its surroundings: it writes, enters a directory, asks
for interrupts.  What none of these operations changes, such a line leaves as it was, however it
goes.

What is put beside the surroundings is out of reach for all of them.  A built-in command does there
what it does without, and so does a line that launches no program.  A launch alone may note
something beside the surroundings, which is how launches are followed elsewhere.

Main definitions:

* `LineShell.Host.withKernel` — the host that launches with a kernel;
* `LineShell.Host.Quiet` — a part of the surroundings that only launches change;
* `LineShell.Host.Extends` — surroundings with something beside them.

Main results:

* `LineShell.Builtin.leaves_invoke`, `LineShell.Session.part_executeLine` — **a line that launches
  no program leaves such a part as it was**;
* `LineShell.Host.Extends.invoke`, `LineShell.Session.Course.widen` — what is beside the
  surroundings plays no part in a built-in command, or in a line that launches no program.
-/

import LineShell.Launch
import LineShell.Proofs.Launch.Rebind
import LineShell.Proofs.Session.Course
import LineShell.Proofs.Session.Output

set_option autoImplicit false

namespace LineShell

/-! ### Actions that leave a part alone -/

namespace Act

variable {ω ε ε' α β δ : Type} {part : ω → δ}

theorem leaves_pure (x : α) : (pure x : Act ω ε α).Leaves part := fun _ => rfl

theorem leaves_throw (e : ε) : (throw e : Act ω ε α).Leaves part := fun _ => rfl

theorem Leaves.mapError {a : Act ω ε α} (h : a.Leaves part) (f : ε → ε') :
    (a.mapError f).Leaves part := by
  intro w
  cases hrun : a w with
  | mk r w' =>
    cases r with
    | error e =>
        rw [mapError_of_error hrun]
        exact h.eq hrun
    | ok x =>
        rw [mapError_of_ok hrun]
        exact h.eq hrun

theorem Leaves.bind {a : Act ω ε α} {f : α → Act ω ε β} (ha : a.Leaves part)
    (hf : ∀ x, (f x).Leaves part) : (a >>= f).Leaves part := by
  intro w
  cases hrun : a w with
  | mk r w' =>
    cases r with
    | error e =>
        rw [bind_of_error hrun]
        exact ha.eq hrun
    | ok x =>
        rw [bind_of_ok hrun]
        exact (hf x w').trans (ha.eq hrun)

end Act

/-! ### Parts that only launches change -/

/-- The host that launches with a kernel. -/
def Host.withKernel {ω : Type} (host : Host ω) (kernel : Kernel ω) : Host ω :=
  { host with launch := kernel.launch }

/-- No operation but a launch changes this part of the surroundings, whether it fails or not. -/
structure Host.Quiet {ω δ : Type} (host : Host ω) (part : ω → δ) : Prop where
  /-- Entering a directory does not. -/
  changeDirectory : ∀ path, (host.changeDirectory path).Leaves part
  /-- Writing does not. -/
  write : ∀ bytes, (host.write bytes).Leaves part
  /-- Handing on what was written does not. -/
  flush : host.flush.Leaves part
  /-- Neither does handing on what the process holds back. -/
  flushStandardOutput : host.flushStandardOutput.Leaves part
  /-- A diagnostic does not. -/
  diagnose : ∀ text w, part (host.diagnose text w) = part w
  /-- Asking for an interrupt does not. -/
  takeInterrupt : ∀ w, part (host.takeInterrupt w).2 = part w

section

variable {ω δ : Type} {host : Host ω} {part : ω → δ}

/-- It does not matter what a launch would do. -/
theorem Host.Quiet.withKernel (h : host.Quiet part) (kernel : Kernel ω) :
    (host.withKernel kernel).Quiet part :=
  ⟨h.changeDirectory, h.write, h.flush, h.flushStandardOutput, h.diagnose, h.takeInterrupt⟩

namespace Builtin

theorem leaves_writePieces (hwrite : ∀ bytes, (host.write bytes).Leaves part)
    (pieces : List String) : (writePieces host pieces).Leaves part := by
  induction pieces with
  | nil => exact Act.leaves_pure ()
  | cons piece rest ih => exact ((hwrite _).mapError _).bind fun _ => ih

theorem leaves_printDirectory (hwrite : ∀ bytes, (host.write bytes).Leaves part) :
    (printDirectory host).Leaves part := by
  have hget : (get : Act ω BuiltinError ω).Leaves part := fun _ => rfl
  refine hget.bind fun w => ?_
  cases host.workingDirectory w with
  | error cause => exact Act.leaves_throw _
  | ok path => exact leaves_writePieces hwrite _

/-- A built-in command leaves it alone. -/
theorem leaves_invoke (hquiet : host.Quiet part) (index : Nat) (tokens : List String) :
    (invoke host index tokens).Leaves part := by
  have henter : ∀ directory, (enterDirectory host directory).Leaves part := by
    intro directory
    unfold enterDirectory
    split
    · exact Act.leaves_throw _
    · exact (hquiet.changeDirectory _).mapError _
  unfold invoke
  split
  · exact Act.leaves_throw _
  split
  · exact Act.leaves_throw _
  unfold perform
  split
  · exact (leaves_writePieces hquiet.write _).bind fun _ => Act.leaves_pure _
  · exact (leaves_writePieces hquiet.write _).bind fun _ => Act.leaves_pure _
  · exact Act.leaves_pure _
  · exact (leaves_printDirectory hquiet.write).bind fun _ => Act.leaves_pure _
  · exact (henter _).bind fun _ => Act.leaves_pure _
  · exact Act.leaves_throw _

end Builtin

namespace Session

variable {line : String} {s s' : Session ω} {r : Except SessionError Flow}

/-- A line that launches no program leaves it alone, however it goes. -/
theorem Course.part_eq (h : Course host line s r s') (hquiet : host.Quiet part)
    (hnone : ∀ invocation w, ¬ Launches host line s invocation w) :
    part s'.world = part s.world := by
  have hinvoke : ∀ {index tokens answer w}, Builtin.invoke host index tokens s.world = (answer, w) →
      part w = part s.world := fun invoked => (Builtin.leaves_invoke hquiet _ _).eq invoked
  cases h with
  | unlexable tokens => rfl
  | blank tokens => rfl
  | builtin command invoked flushed => exact (hquiet.flush.eq flushed).trans (hinvoke invoked)
  | builtinFailed command invoked flushed =>
      exact (hquiet.flush.eq flushed).trans (hinvoke invoked)
  | builtinStuck command invoked flushed =>
      exact (hquiet.flush.eq flushed).trans (hinvoke invoked)
  | unprepared program prepared => rfl
  | unflushed program prepared flushed => exact hquiet.flush.eq flushed
  | unemptied program prepared flushed emptied =>
      exact (hquiet.flushStandardOutput.eq emptied).trans (hquiet.flush.eq flushed)
  | unlaunched launches launched => exact absurd launches (hnone _ _)
  | unsettled launches launched settled => exact absurd launches (hnone _ _)
  | ran launches launched settled => exact absurd launches (hnone _ _)

/-- **A line that launches no program leaves it as it was**, and so does the report of its
failure. -/
theorem part_executeLine (hquiet : host.Quiet part)
    (hnone : ∀ invocation w, ¬ Launches host line s invocation w) :
    part (executeLine host line s).2.world = part s.world := by
  have hleft := (course_tryLine host line s).part_eq hquiet hnone
  unfold executeLine
  cases htry : tryLine host line s with
  | mk r s' =>
    rw [htry] at hleft
    cases r with
    | ok flow => exact hleft
    | error cause => exact (hquiet.diagnose _ _).trans hleft

end Session

end

/-! ### Actions on one part of a state -/

namespace Act

variable {ω σ ε ε' α β : Type}

theorem within_bind (a : Act ω ε α) (f : α → Act ω ε β) :
    (a >>= f).within = ((a.within >>= fun x => (f x).within) : Act (σ × ω) ε β) := by
  funext ⟨s, w⟩
  cases h : a w with
  | mk r w' =>
    cases r with
    | error e =>
        rw [bind_of_error (within_of_eq h s)]
        exact within_of_eq (bind_of_error h) s
    | ok x =>
        rw [bind_of_ok (within_of_eq h s)]
        exact within_of_eq ((bind_of_ok h).trans rfl) s

theorem within_mapError (a : Act ω ε α) (f : ε → ε') :
    (a.mapError f).within = (a.within.mapError f : Act (σ × ω) ε' α) := by
  funext ⟨s, w⟩
  cases h : a w with
  | mk r w' =>
    cases r with
    | error e =>
        rw [mapError_of_error (within_of_eq h s)]
        exact within_of_eq (mapError_of_error h f) s
    | ok x =>
        rw [mapError_of_ok (within_of_eq h s)]
        exact within_of_eq (mapError_of_ok h f) s

end Act

/-! ### Something beside the surroundings -/

/-- The larger host has something beside the surroundings, which plays no part in what built-in
commands and the handing on of output do. -/
structure Host.Extends {σ ω : Type} (larger : Host (σ × ω)) (host : Host ω) : Prop where
  /-- It is not looked at when a path is. -/
  probe : ∀ s, larger.probe s = host.probe s.2
  /-- Nor when the working directory is asked for. -/
  workingDirectory : ∀ s, larger.workingDirectory s = host.workingDirectory s.2
  /-- Entering a directory does not reach it. -/
  changeDirectory : ∀ path, larger.changeDirectory path = (host.changeDirectory path).within
  /-- Writing does not. -/
  write : ∀ bytes, larger.write bytes = (host.write bytes).within
  /-- Handing on what was written does not. -/
  flush : larger.flush = host.flush.within
  /-- Neither does handing on what the process holds back. -/
  flushStandardOutput : larger.flushStandardOutput = host.flushStandardOutput.within

section

variable {σ ω : Type} {larger : Host (σ × ω)} {host : Host ω}

namespace Host.Extends

variable (h : larger.Extends host)

include h

theorem writePieces (pieces : List String) :
    Builtin.writePieces larger pieces = (Builtin.writePieces host pieces).within := by
  induction pieces with
  | nil => rfl
  | cons piece rest ih =>
      rw [Builtin.writePieces, Builtin.writePieces, ih, h.write, Act.within_bind,
        Act.within_mapError]

theorem printDirectory :
    Builtin.printDirectory larger = (Builtin.printDirectory host).within := by
  funext ⟨k, w⟩
  have hget : (get : Act ω BuiltinError ω) w = (.ok w, w) := rfl
  have hlarger : (get : Act (σ × ω) BuiltinError (σ × ω)) (k, w) = (.ok (k, w), k, w) := rfl
  rw [Builtin.printDirectory, Builtin.printDirectory, Act.within_bind, Act.bind_of_ok hlarger,
    Act.bind_of_ok (Act.within_of_eq hget k), h.workingDirectory]
  cases host.workingDirectory w with
  | error cause => rfl
  | ok path => exact congrFun (h.writePieces [Utf8.decodeLossy path, "\n"]) (k, w)

theorem enterDirectory (directory : String) :
    Builtin.enterDirectory larger directory = (Builtin.enterDirectory host directory).within := by
  unfold Builtin.enterDirectory
  cases CString.ofString directory with
  | error _ => rfl
  | ok path =>
      dsimp only
      rw [h.changeDirectory, Act.within_mapError]

theorem perform (command : Builtin) (tokens : List String) :
    Builtin.perform larger command tokens = (Builtin.perform host command tokens).within := by
  unfold Builtin.perform
  split
  · rw [h.writePieces, Act.within_bind]
    rfl
  · rw [h.writePieces, Act.within_bind]
    rfl
  · rfl
  · rw [h.printDirectory, Act.within_bind]
    rfl
  · rw [h.enterDirectory, Act.within_bind]
    rfl
  · rfl

/-- **A built-in command neither sees nor changes what is beside the surroundings.** -/
theorem invoke (index : Nat) (tokens : List String) :
    Builtin.invoke larger index tokens = (Builtin.invoke host index tokens).within := by
  unfold Builtin.invoke
  split
  · rfl
  · split
    · rfl
    · exact h.perform _ tokens

theorem invoke_of_eq {index : Nat} {tokens : List String} {answer : Except BuiltinError Flow}
    {w w' : ω} (hinvoke : Builtin.invoke host index tokens w = (answer, w')) (k : σ) :
    Builtin.invoke larger index tokens (k, w) = (answer, k, w') := by
  rw [h.invoke]
  exact Act.within_of_eq hinvoke k

theorem flush_of_eq {r : Except IoError Unit} {w w' : ω} (hflush : host.flush w = (r, w'))
    (k : σ) : larger.flush (k, w) = (r, k, w') := by
  rw [h.flush]
  exact Act.within_of_eq hflush k

theorem flushStandardOutput_of_eq {r : Except IoError Unit} {w w' : ω}
    (hflush : host.flushStandardOutput w = (r, w')) (k : σ) :
    larger.flushStandardOutput (k, w) = (r, k, w') := by
  rw [h.flushStandardOutput]
  exact Act.within_of_eq hflush k

theorem prepare (name : String) (tokens : List String) (s : Session ω) (k : σ) :
    Session.prepare larger name tokens (s.beside k) = Session.prepare host name tokens s := by
  unfold Session.prepare
  rw [h.probe]
  rfl

end Host.Extends

/-- A line that launches no program goes as it goes without. -/
theorem Session.Course.widen {line : String} {s s' : Session ω} {r : Except SessionError Flow}
    (hcourse : Course host line s r s') (h : larger.Extends host)
    (hnone : ∀ invocation w, ¬ Launches host line s invocation w) (k : σ) :
    Course larger line (s.beside k) r (s'.beside k) := by
  cases hcourse with
  | unlexable tokens => exact .unlexable tokens
  | blank tokens => exact .blank tokens
  | builtin command invoked flushed =>
      exact .builtin command (h.invoke_of_eq invoked k) (h.flush_of_eq flushed k)
  | builtinFailed command invoked flushed =>
      exact .builtinFailed command (h.invoke_of_eq invoked k) (h.flush_of_eq flushed k)
  | builtinStuck command invoked flushed =>
      exact .builtinStuck command (h.invoke_of_eq invoked k) (h.flush_of_eq flushed k)
  | unprepared program prepared =>
      exact .unprepared program ((h.prepare _ _ s k).trans prepared)
  | unflushed program prepared flushed =>
      exact .unflushed program ((h.prepare _ _ s k).trans prepared) (h.flush_of_eq flushed k)
  | unemptied program prepared flushed emptied =>
      exact .unemptied program ((h.prepare _ _ s k).trans prepared) (h.flush_of_eq flushed k)
        (h.flushStandardOutput_of_eq emptied k)
  | unlaunched launches launched => exact absurd launches (hnone _ _)
  | unsettled launches launched settled => exact absurd launches (hnone _ _)
  | ran launches launched settled => exact absurd launches (hnone _ _)

end

end LineShell
