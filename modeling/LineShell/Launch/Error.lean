/-
**How a launch ends.**

A program that ran has an outcome: it left with an exit status, or a signal killed it.  A program
that never ran has a cause: no pipe for the report, no child, a redirection that could not be set up
or a program that could not be started; a child whose end is not understood is a failure too.  Each
cause has a wording and a status that the session records.

Main definitions:

* `LineShell.Outcome` — the end of a program that ran, with `Outcome.code` and `Outcome.success`;
* `LineShell.StartFailure` — what a child reports when it cannot run the program;
* `LineShell.LaunchError` — why a launch failed, with `LaunchError.message` and
  `LaunchError.status`.

Main results:

* `LineShell.Outcome.code_signaled_bounds` — a signal's code lies between 129 and 159;
* `LineShell.Outcome.success_iff` — only the exit status zero is a success.
-/

import LineShell.Errno
import LineShell.Invocation
import LineShell.Signal

set_option autoImplicit false

namespace LineShell

/-! ### Programs that ran -/

/-- How a program ended. -/
inductive Outcome where
  /-- It left with an exit status. -/
  | exited (status : Int)
  /-- A signal killed it. -/
  | signaled (signal : Signal)
deriving DecidableEq

namespace Outcome

/-- The status that stands for the outcome: the exit status, or 128 and the signal's number. -/
def code : Outcome → Int
  | .exited status => status
  | .signaled signal => 128 + signal.number

/-- Whether the program left with status zero. -/
def success : Outcome → Bool
  | .exited status => status == 0
  | .signaled _ => false

theorem success_iff (o : Outcome) : o.success = true ↔ o = .exited 0 := by
  cases o <;> simp [success]

theorem code_signaled_bounds (s : Signal) :
    129 ≤ (signaled s).code ∧ (signaled s).code ≤ 159 := by
  have h1 := s.one_le
  have h2 := s.le_max
  simp only [code]
  omega

end Outcome

/-! ### Programs that did not run -/

/-- Which step of a redirection failed. -/
inductive RebindError where
  /-- The target could not be opened or prepared. -/
  | opening (errno : Errno)
  /-- The open file could not be put in the place of the stream. -/
  | rebinding (errno : Errno)
deriving DecidableEq

/-- The error number behind the failure. -/
def RebindError.errno : RebindError → Errno
  | .opening e | .rebinding e => e

/-- The wording of the failure. -/
def RebindError.message : RebindError → String
  | .opening e => "cannot open: " ++ e.describe
  | .rebinding e => "cannot rebind stream: " ++ e.describe

/-- The exit status of a child whose redirection failed. -/
def redirectFailedStatus : Int := 1
/-- The exit status of a child whose program could not be started. -/
def launchFailedStatus : Int := 126
/-- The exit status of a child whose program does not exist. -/
def notFoundStatus : Int := 127

/-- The status for a program that could not be started. -/
def startStatus (e : Errno) : Int := if e = Errno.noEntry then notFoundStatus else launchFailedStatus

/-- What a child reports when it cannot run the program. -/
inductive StartFailure where
  /-- The redirection failed. -/
  | redirection (cause : RebindError)
  /-- The program could not be started. -/
  | program (errno : Errno)
deriving DecidableEq

/-- The exit status of the child. -/
def StartFailure.status : StartFailure → Int
  | .redirection _ => redirectFailedStatus
  | .program e => startStatus e

/-- Why a launch failed. -/
inductive LaunchError where
  /-- No child could be made. -/
  | forkFailed (errno : Errno)
  /-- The program could not be started. -/
  | launchFailed (path : String) (errno : Errno)
  /-- The redirection could not be set up. -/
  | redirectionFailed (path : String) (cause : RebindError)
  /-- There was no pipe for the child's report. -/
  | pipe (errno : Errno)
  /-- The child's end could not be learned. -/
  | waitFailed (errno : Errno)
deriving DecidableEq

namespace LaunchError

/-- The wording of the error. -/
def message : LaunchError → String
  | .forkFailed e => "fork failed: " ++ e.describe
  | .launchFailed path e => path ++ ": " ++ e.describe
  | .redirectionFailed path cause => path ++ ": " ++ cause.message
  | .pipe e => "cannot create status pipe: " ++ e.describe
  | .waitFailed e => "wait failed: " ++ e.describe

/-- The status that the session records for the error. -/
def status : LaunchError → Int
  | .launchFailed _ e => startStatus e
  | _ => redirectFailedStatus

end LaunchError

/-- The error that a child's report means for an invocation. -/
def StartFailure.toLaunchError (failure : StartFailure) (invocation : Invocation) : LaunchError :=
  match failure with
  | .program e => .launchFailed invocation.vector.program.toStringLossy e
  | .redirection cause =>
    .redirectionFailed
      ((invocation.redirection.map fun r => r.target.toStringLossy).getD "") cause

end LineShell
