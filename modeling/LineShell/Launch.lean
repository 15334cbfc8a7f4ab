/-
**Running a program.**

A command runs in a child.  The child carries out the redirection, if there is one, and turns itself
into the program; if either fails it writes a report and leaves.  The parent reads the report, which
is empty if the program was started, and waits until the child has ended.  So a program that ran and
failed can be told from one that never ran.

A wait may be interrupted, or tell of a child that has not ended; then it is repeated.

Main definitions:

* `LineShell.Fate`, `LineShell.Waiting` — how a process ended, and all the answers of the waits for
  it;
* `LineShell.Waiting.outcome` — the outcome that the answers lead to;
* `LineShell.Kernel`, `LineShell.Kernel.launch` — the calls, and the launch made of them.

Main results:

* `LineShell.Fate.outcome_killed` — a standard signal is the outcome of what it killed.
-/

import LineShell.Launch.Rebind
import LineShell.Launch.Report

set_option autoImplicit false

namespace LineShell

/-! ### Waiting -/

/-- How a process ended. -/
inductive Fate where
  /-- It left with a status. -/
  | exited (status : Int)
  /-- A signal killed it; real-time signals have numbers above 31. -/
  | killed (signal : Nat)
deriving DecidableEq

/-- The outcome of a process: a signal that is no standard signal is an invalid argument. -/
def Fate.outcome : Fate → Except Errno Outcome
  | .exited status => .ok (.exited status)
  | .killed n =>
    match Signal.ofNumber? n with
    | some signal => .ok (.signaled signal)
    | none => .error Errno.invalid

theorem Fate.outcome_killed (s : Signal) : (Fate.killed s.number).outcome = .ok (.signaled s) := by
  have h : Signal.ofNumber? (s.number : Int) = some s := (Signal.ofNumber?_eq_some_iff _ _).2 rfl
  simp [Fate.outcome, h]

/-- The answers of the waits for one child, in order. -/
inductive Waiting where
  /-- The wait was interrupted, and is repeated. -/
  | interrupted (next : Waiting)
  /-- The child has changed its state but not ended, and the wait is repeated. -/
  | notEnded (next : Waiting)
  /-- The child has ended. -/
  | ended (fate : Fate)
  /-- The wait failed. -/
  | failed (errno : Errno)
deriving DecidableEq

/-- The outcome that the answers lead to. -/
def Waiting.outcome : Waiting → Except Errno Outcome
  | .interrupted next | .notEnded next => next.outcome
  | .ended fate => fate.outcome
  | .failed e => .error e

/-! ### Launching -/

/-- The calls that a launch is made of.  Between `fork` and the end of the child's part the child is
the acting process, afterwards the parent. -/
structure Kernel (ω : Type) where
  /-- The calls on descriptors. -/
  descriptors : DescriptorCalls ω
  /-- A pipe for the report. -/
  makePipe : Act ω Errno Unit
  /-- A child, which is the acting process from now on. -/
  fork : Act ω Errno Unit
  /-- Turn the acting process into a program, which runs. -/
  start : ArgumentVector → Act ω Errno Unit
  /-- Write the report to the pipe. -/
  sendReport : Bytes → ω → ω
  /-- The acting process leaves with a status. -/
  leave : Int → ω → ω
  /-- The parent reads what the pipe holds; `none` if it cannot be read. -/
  readReport : ω → Option Bytes × ω
  /-- The parent waits for its child. -/
  wait : ω → Waiting × ω

namespace Kernel

variable {ω : Type} (kernel : Kernel ω)

/-- What the child does: redirect, then become the program. -/
def becomeProgram (invocation : Invocation) : Act ω StartFailure Unit := do
  if let some redirection := invocation.redirection then
    (kernel.descriptors.redirect redirection).mapError .redirection
  (kernel.start invocation.vector).mapError .program

/-- The child's part of a launch. -/
def childPart (invocation : Invocation) (w : ω) : ω :=
  match kernel.becomeProgram invocation w with
  | (.ok (), w') => w'
  | (.error failure, w') => kernel.leave failure.status (kernel.sendReport failure.encode w')

/-- Run a program and wait for its end. -/
def launch (invocation : Invocation) : Act ω LaunchError Outcome := do
  kernel.makePipe.mapError .pipe
  kernel.fork.mapError .forkFailed
  Act.change (kernel.childPart invocation)
  let report ← Act.of fun w => ((.ok (kernel.readReport w).1), (kernel.readReport w).2)
  let answers ← Act.of fun w => ((.ok (kernel.wait w).1), (kernel.wait w).2)
  match answers.outcome with
  | .error e => throw (.waitFailed e)
  | .ok outcome =>
    match report.bind StartFailure.decode with
    | some failure => throw (failure.toLaunchError invocation)
    | none => return outcome

end Kernel

end LineShell
