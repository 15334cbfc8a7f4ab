/-
**What a session needs around it.**

A session looks at paths, asks for the working directory and changes it, writes its own output,
reports diagnostics, launches programs and learns of interrupts.  All of it is done through one
record of operations on a state of any type, so that a session can run on a machine in memory as
well as be reasoned about for every behaviour of its surroundings.

An action may fail; what it has done to the state by then stays done.

Main definitions:

* `LineShell.Act` — an action on a state that may fail;
* `LineShell.Act.attempt` — an action whose failure is part of its answer;
* `LineShell.Host` — the operations;
* `LineShell.Outcome` — how a program ended;
* `LineShell.Writer`, `LineShell.Host.writingTo` — a receiver of output of its own, and a host that
  writes there.

Main results:

* `LineShell.Act.attempt_run` — an attempt changes the state as the action does;
* `LineShell.Act.bind_of_ok`, `LineShell.Act.bind_of_error` — one action after another.
-/

import LineShell.Errno
import LineShell.Launch.Error
import LineShell.SearchPath

set_option autoImplicit false

namespace LineShell

/-- An action on a state of type `ω` that answers with an `α` or fails with an `ε`; the state
afterwards is kept either way. -/
abbrev Act (ω ε α : Type) := ExceptT ε (StateM ω) α

namespace Act

variable {ω ε ε' α : Type}

/-- The action given by its answer and the state after it. -/
def of (f : ω → Except ε α × ω) : Act ω ε α := f

/-- The action with its failure renamed. -/
def mapError (f : ε → ε') (a : Act ω ε α) : Act ω ε' α := fun w =>
  match a w with
  | (.ok x, w') => (.ok x, w')
  | (.error e, w') => (.error (f e), w')

/-- The action with its failure as part of its answer. -/
def attempt (a : Act ω ε α) : Act ω ε' (Except ε α) := fun w =>
  match a w with
  | (r, w') => (.ok r, w')

@[simp] theorem attempt_run (a : Act ω ε α) (w : ω) :
    (attempt a : Act ω ε' (Except ε α)) w = (.ok (a w).1, (a w).2) := rfl

/-- After an answer the next action goes on from the state then. -/
theorem bind_of_ok {β : Type} {a : Act ω ε α} {f : α → Act ω ε β} {x : α} {w w' : ω}
    (h : a w = (.ok x, w')) : (a >>= f) w = f x w' := by
  show ExceptT.bindCont f (a w).1 (a w).2 = f x w'
  rw [h]
  rfl

/-- After a failure there is no next action. -/
theorem bind_of_error {β : Type} {a : Act ω ε α} {f : α → Act ω ε β} {e : ε} {w w' : ω}
    (h : a w = (.error e, w')) : (a >>= f) w = (.error e, w') := by
  show ExceptT.bindCont f (a w).1 (a w).2 = (.error e, w')
  rw [h]
  rfl

/-- What an action leads to depends on nothing but its answer and the state after it. -/
theorem bind_congr {β : Type} {a a' : Act ω ε α} {w : ω} (h : a w = a' w) (f : α → Act ω ε β) :
    (a >>= f) w = (a' >>= f) w := by
  show ExceptT.bindCont f (a w).1 (a w).2 = ExceptT.bindCont f (a' w).1 (a' w).2
  rw [h]

theorem mapError_of_ok {a : Act ω ε α} {x : α} {w w' : ω} (h : a w = (.ok x, w')) (f : ε → ε') :
    a.mapError f w = (.ok x, w') := by
  simp only [mapError, h]

theorem mapError_of_error {a : Act ω ε α} {e : ε} {w w' : ω} (h : a w = (.error e, w'))
    (f : ε → ε') : a.mapError f w = (.error (f e), w') := by
  simp only [mapError, h]

/-- A change of the state that cannot fail. -/
def change (f : ω → ω) : Act ω ε Unit := fun w => (.ok (), f w)

/-- An action on one part of a state. -/
def within {σ : Type} (a : Act ω ε α) : Act (σ × ω) ε α := fun (s, w) =>
  match a w with
  | (r, w') => (r, s, w')

/-- The other part stays as it is. -/
theorem within_of_eq {σ : Type} {a : Act ω ε α} {r : Except ε α} {w w' : ω} (h : a w = (r, w'))
    (s : σ) : a.within (s, w) = (r, s, w') := by
  simp only [within, h]

end Act

/-- The operations of a session's surroundings. -/
structure Host (ω : Type) where
  /-- What looking at a path shows. -/
  probe : ω → String → Probe
  /-- The path of the working directory. -/
  workingDirectory : ω → Except IoError Bytes
  /-- Another directory becomes the working directory. -/
  changeDirectory : CString → Act ω IoError Unit
  /-- Bytes go to the session's output, all of them or up to a failure. -/
  write : Bytes → Act ω IoError Unit
  /-- What was written is handed on. -/
  flush : Act ω IoError Unit
  /-- What the process still holds back of its standard output is handed on. -/
  flushStandardOutput : Act ω IoError Unit
  /-- A diagnostic line is reported. -/
  diagnose : String → ω → ω
  /-- A program is run to its end. -/
  launch : Invocation → Act ω LaunchError Outcome
  /-- Whether an interrupt came since the question was last asked. -/
  takeInterrupt : ω → Bool × ω

/-- A receiver of output with a state of its own. -/
structure Writer (κ : Type) where
  /-- Accept bytes, all of them or up to a failure. -/
  write : Bytes → Act κ IoError Unit
  /-- Hand on what was accepted. -/
  flush : Act κ IoError Unit

/-- The host whose sessions write to a receiver of their own; all else happens in the surroundings
as before. -/
def Host.writingTo {κ ω : Type} (host : Host ω) (writer : Writer κ) : Host (κ × ω) where
  probe s := host.probe s.2
  workingDirectory s := host.workingDirectory s.2
  changeDirectory path := (host.changeDirectory path).within
  write bytes := fun (k, w) =>
    match writer.write bytes k with
    | (r, k') => (r, k', w)
  flush := fun (k, w) =>
    match writer.flush k with
    | (r, k') => (r, k', w)
  flushStandardOutput := host.flushStandardOutput.within
  diagnose text s := (s.1, host.diagnose text s.2)
  launch invocation := (host.launch invocation).within
  takeInterrupt s := ((host.takeInterrupt s.2).1, s.1, (host.takeInterrupt s.2).2)

end LineShell
