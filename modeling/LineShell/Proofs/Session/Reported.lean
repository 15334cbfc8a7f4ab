/-
**The status of a program that ran.**

A program that was started leaves with an exit status, or a signal kills it.  The line that ran it
ought to succeed then, and to record that status, or 128 and the number of the signal.

It does so with two exceptions.  The parent's wait knows the standard signals only: if a real-time
signal killed the program the wait answers that its argument is invalid, and the line fails although
the program ran.  And an interactive session begins a new line after an interrupt before it records
anything; if that cannot be written, the line fails, and the program's status is lost.

A program that was started has sent no report.  Of the pipe only this is taken for granted, that
nothing but a report gets into it; it may well be that it cannot be read.

Main definitions:

* `LineShell.Fate.status`, `LineShell.Fate.Understood` — the status that stands for the end of a
  process, and the ends that the wait understands;
* `LineShell.Kernel.HoldsReports`, `LineShell.Kernel.Ran` — the pipe, and a program that was started
  and has ended;
* `LineShell.Session.CanSettle` — a new line, if one is to be begun, can be written.

Main results:

* `LineShell.Kernel.Ran.launch_eq` — what the launch of such a program answers;
* `LineShell.Session.reported_by_status` — **when a program that ran is reported by its status**,
  and what happens otherwise.
-/

import LineShell.Proofs.Launch.Verdict
import LineShell.Proofs.Session.Frame
import LineShell.Proofs.Token.Scan

set_option autoImplicit false

namespace LineShell

/-! ### How a process ended -/

namespace Fate

/-- The status that stands for the end of a process: its exit status, or 128 and the number of the
signal that killed it. -/
def status : Fate → Int
  | .exited status => status
  | .killed signal => 128 + signal

/-- The wait understands the end: an exit status always, a signal if it is a standard one. -/
def Understood : Fate → Prop
  | .exited _ => True
  | .killed signal => 1 ≤ signal ∧ signal ≤ 31

instance (fate : Fate) : Decidable fate.Understood :=
  match fate with
  | .exited _ => inferInstanceAs (Decidable True)
  | .killed signal => inferInstanceAs (Decidable (1 ≤ signal ∧ signal ≤ 31))

theorem exists_outcome_of_understood {fate : Fate} (h : fate.Understood) :
    ∃ outcome, fate.outcome = .ok outcome ∧ outcome.code = fate.status := by
  cases fate with
  | exited status => exact ⟨.exited status, rfl, rfl⟩
  | killed number =>
      obtain ⟨hlow, hhigh⟩ := h
      exact ⟨.signaled ⟨number, hlow, hhigh⟩, outcome_killed ⟨number, hlow, hhigh⟩, rfl⟩

theorem outcome_of_not_understood {fate : Fate} (h : ¬ fate.Understood) :
    fate.outcome = .error Errno.invalid := by
  cases fate with
  | exited status => exact absurd trivial h
  | killed number =>
      have hnone : Signal.ofNumber? (number : Int) = none := dif_neg h
      simp only [outcome, hnone]

end Fate

/-! ### Programs that ran -/

namespace Kernel

variable {ω : Type}

/-- Nothing but a report gets into the pipe, and what is read from it, if it can be read, is what it
holds. -/
structure HoldsReports (kernel : Kernel ω) (held : ω → Bytes) : Prop where
  /-- A new pipe is empty. -/
  made : ∀ {w w'}, kernel.makePipe w = (.ok (), w') → held w' = []
  /-- The child's pipe is the parent's. -/
  fork : kernel.fork.Leaves held
  /-- A redirection has other descriptors. -/
  descriptors : kernel.descriptors.Leaves held
  /-- A program does not get the pipe. -/
  start : ∀ vector, (kernel.start vector).Leaves held
  /-- What is read is what the pipe holds. -/
  read : ∀ {w bytes}, (kernel.readReport w).1 = some bytes → bytes = held w

/-- A pipe that carries reports holds nothing else. -/
theorem CarriesReports.holdsReports {kernel : Kernel ω} {held : ω → Bytes}
    (h : kernel.CarriesReports held) : kernel.HoldsReports held where
  made := h.made
  fork := h.fork
  descriptors := h.descriptors
  start := h.start
  read hread := Option.some.inj (hread.symm.trans (h.read _))

/-- The program of an invocation was started, and has ended.  The parent may have waited for it many
times. -/
inductive Ran (kernel : Kernel ω) (invocation : Invocation) (w : ω) (fate : Fate) : Prop where
  /-- There was a pipe and a child; the redirection, if there is one, was carried out; the child
  became the program; and the last wait told how that ended. -/
  | intro {w₁ w₂ w₃ w₄ : ω} {pauses : List Pause}
    (made : kernel.makePipe w = (.ok (), w₁))
    (forked : kernel.fork w₁ = (.ok (), w₂))
    (redirected : kernel.Redirected invocation w₂ w₃)
    (started : kernel.start invocation.vector w₃ = (.ok (), w₄))
    (ended : kernel.answers invocation w₂ = .of pauses (.ok fate)) :
    Ran kernel invocation w fate

variable {kernel : Kernel ω} {invocation : Invocation} {held : ω → Bytes}

/-- Of a program that was started the parent learns no failure, whether or not the pipe can be
read. -/
theorem decode_eq_none_of_started (hpipe : kernel.HoldsReports held) {w w' w'' : ω}
    (hempty : held w = []) (redirected : kernel.Redirected invocation w w')
    (started : kernel.start invocation.vector w' = (.ok (), w'')) :
    (kernel.readReport (kernel.childPart invocation w)).1.bind StartFailure.decode = none := by
  have hheld : held w'' = [] := by
    rw [(hpipe.start _).eq started, redirected.leaves hpipe.descriptors, hempty]
  rw [childPart_of_started redirected started]
  cases hread : (kernel.readReport w'').1 with
  | none => rfl
  | some bytes =>
      rw [hpipe.read hread, hheld]
      rfl

section

variable {w : ω} {fate : Fate}

/-- **What the launch of a program answers that was started and has ended**: how it ended, as the
wait understands it. -/
theorem Ran.launch_eq (hpipe : kernel.HoldsReports held) (h : kernel.Ran invocation w fate) :
    (kernel.launch invocation w).1 = verdict fate.outcome none := by
  obtain ⟨made, forked, redirected, started, ended⟩ := h
  rename_i w₁ w₂ w₃ w₄ pauses
  -- the pipe was empty when the child was made, and a child that became its program sends nothing
  have hempty : held w₂ = [] := (hpipe.fork.eq forked).trans (hpipe.made made)
  have hsilent := decode_eq_none_of_started hpipe hempty redirected started
  rw [launch_of_fork made forked, hsilent, ended, Waiting.outcome_of]
  rfl

theorem Ran.exists_launch_eq (hpipe : kernel.HoldsReports held) (h : kernel.Ran invocation w fate)
    (hfate : fate.Understood) :
    ∃ outcome, kernel.launch invocation w = (.ok outcome, (kernel.launch invocation w).2) ∧
      outcome.code = fate.status := by
  obtain ⟨outcome, houtcome, hcode⟩ := Fate.exists_outcome_of_understood hfate
  have hanswer := h.launch_eq hpipe
  rw [houtcome] at hanswer
  exact ⟨outcome, Prod.ext hanswer rfl, hcode⟩

theorem Ran.launch_of_not_understood (hpipe : kernel.HoldsReports held)
    (h : kernel.Ran invocation w fate) (hfate : ¬ fate.Understood) :
    kernel.launch invocation w =
      (.error (.waitFailed Errno.invalid), (kernel.launch invocation w).2) := by
  have hanswer := h.launch_eq hpipe
  rw [Fate.outcome_of_not_understood hfate] at hanswer
  exact Prod.ext hanswer rfl

end

end Kernel

/-! ### The line that ran the program -/

namespace Session

variable {ω : Type} {host : Host ω} {line : String} {s : Session ω}

/-- A new line can be begun, if an interrupt calls for one. -/
def CanSettle (host : Host ω) (settings : Settings) (w : ω) : Prop :=
  settings.interactive = true → (host.takeInterrupt w).1 = true →
    ((do host.write (Utf8.encode "\n"); host.flush : Act ω IoError Unit)
      (host.takeInterrupt w).2).1 = .ok ()

theorem settle_fst_eq_ok_iff (host : Host ω) (settings : Settings) (w : ω) :
    (settle host settings w).1 = .ok () ↔ CanSettle host settings w := by
  unfold settle CanSettle
  cases settings.interactive with
  | false => simp
  | true =>
    cases host.takeInterrupt w with
    | mk interrupted w' =>
      cases interrupted with
      | false => simp
      | true => simp

section

variable {kernel : Kernel ω} {held : ω → Bytes} {invocation : Invocation} {w w' : ω} {fate : Fate}

/-- The status of a program is recorded if the wait understood how it ended and all that comes
behind it worked. -/
theorem tryLine_of_ran (hpipe : kernel.HoldsReports held)
    (hlaunches : Launches (host.withKernel kernel) line s invocation w)
    (hran : kernel.Ran invocation w fate) (hfate : fate.Understood)
    (hsettle : settle (host.withKernel kernel) s.settings (kernel.launch invocation w).2 =
      (.ok (), w')) :
    tryLine (host.withKernel kernel) line s =
      (.ok .proceed, { s with lastStatus := fate.status, world := w' }) := by
  obtain ⟨outcome, hlaunch, hcode⟩ := hran.exists_launch_eq hpipe hfate
  have hcourse : Course (host.withKernel kernel) line s (.ok .proceed)
      { s with lastStatus := outcome.code, world := w' } := .ran hlaunches hlaunch hsettle
  rw [hcourse.tryLine_eq, hcode]

/-- It is lost if the new line behind the program cannot be written. -/
theorem tryLine_of_ran_of_settle_error (hpipe : kernel.HoldsReports held)
    (hlaunches : Launches (host.withKernel kernel) line s invocation w)
    (hran : kernel.Ran invocation w fate) (hfate : fate.Understood) {cause : IoError}
    (hsettle : settle (host.withKernel kernel) s.settings (kernel.launch invocation w).2 =
      (.error cause, w')) :
    tryLine (host.withKernel kernel) line s = (.error (.io cause), { s with world := w' }) := by
  obtain ⟨outcome, hlaunch, -⟩ := hran.exists_launch_eq hpipe hfate
  have hcourse : Course (host.withKernel kernel) line s (.error (.io cause))
      { s with world := w' } := .unsettled hlaunches hlaunch hsettle
  exact hcourse.tryLine_eq

/-- A program whose end the wait does not understand is reported as one that could not be waited
for. -/
theorem tryLine_of_ran_of_not_understood (hpipe : kernel.HoldsReports held)
    (hlaunches : Launches (host.withKernel kernel) line s invocation w)
    (hran : kernel.Ran invocation w fate) (hfate : ¬ fate.Understood) :
    tryLine (host.withKernel kernel) line s =
      (.error (.launch (.waitFailed Errno.invalid)),
        { s with world := (kernel.launch invocation w).2 }) := by
  have hlaunch := hran.launch_of_not_understood hpipe hfate
  have hcourse : Course (host.withKernel kernel) line s
      (.error (.launch (.waitFailed Errno.invalid)))
      { s with world := (kernel.launch invocation w).2 } := .unlaunched hlaunches hlaunch
  exact hcourse.tryLine_eq

end

/-- **When a program that ran is reported by its status.**  The line came to launch a program, which
was started and has ended.  The line succeeds and records the program's status exactly if the wait
understands how it ended and a new line, if an interrupt calls for one in an interactive session,
can be written.  If the wait does not understand the end, the line fails as if the wait had failed,
and if the new line cannot be written, it fails with that cause; the status recorded before is still
there then. -/
theorem reported_by_status {kernel : Kernel ω} {held : ω → Bytes}
    (hpipe : kernel.HoldsReports held) {invocation : Invocation} {w : ω} {fate : Fate}
    (hlaunches : Launches (host.withKernel kernel) line s invocation w)
    (hran : kernel.Ran invocation w fate) :
    let launching := host.withKernel kernel
    let ended := (kernel.launch invocation w).2
    (((tryLine launching line s).1 = .ok .proceed ∧
        (tryLine launching line s).2.lastStatus = fate.status) ↔
      fate.Understood ∧ CanSettle launching s.settings ended) ∧
    (¬ fate.Understood →
      tryLine launching line s =
        (.error (.launch (.waitFailed Errno.invalid)), { s with world := ended })) ∧
    (fate.Understood → ¬ CanSettle launching s.settings ended →
      ∃ cause w', settle launching s.settings ended = (.error cause, w') ∧
        tryLine launching line s = (.error (.io cause), { s with world := w' })) := by
  intro launching ended
  by_cases hfate : fate.Understood
  · have hcan := settle_fst_eq_ok_iff launching s.settings ended
    cases hsettle : settle launching s.settings ended with
    | mk settled w' =>
      rw [hsettle] at hcan
      cases settled with
      | ok _ =>
          have hdone := tryLine_of_ran hpipe hlaunches hran hfate hsettle
          have hsettles : CanSettle launching s.settings ended := hcan.1 rfl
          rw [hdone]
          exact ⟨⟨fun _ => ⟨hfate, hsettles⟩, fun _ => ⟨rfl, rfl⟩⟩, fun h => absurd hfate h,
            fun _ h => absurd hsettles h⟩
      | error cause =>
          have hfailed := tryLine_of_ran_of_settle_error hpipe hlaunches hran hfate hsettle
          rw [hfailed]
          refine ⟨⟨?_, ?_⟩, fun h => absurd hfate h, fun _ _ => ⟨cause, w', rfl, rfl⟩⟩
          · rintro ⟨⟨⟩, -⟩
          · rintro ⟨-, hsettles⟩
            cases hcan.2 hsettles
  · have hfailed := tryLine_of_ran_of_not_understood hpipe hlaunches hran hfate
    rw [hfailed]
    refine ⟨⟨?_, fun h => absurd h.1 hfate⟩, fun _ => rfl, fun h => absurd h hfate⟩
    rintro ⟨⟨⟩, -⟩

/-- A program that was started and killed by signal 40, and one that was killed by signal 9. -/
theorem reported_by_status_realtime :
    let host : Host Bytes :=
      { probe := fun _ _ => .found
        workingDirectory := fun _ => .ok []
        changeDirectory := fun _ => pure ()
        write := fun _ => pure ()
        flush := pure ()
        flushStandardOutput := pure ()
        diagnose := fun _ held => held
        launch := fun _ => pure (.exited 0)
        takeInterrupt := fun held => (false, held) }
    let killed := fun signal => host.withKernel (Kernel.replying
      ⟨.ok 3, .ok ⟨true⟩, .ok (), .ok (), .ok (), .notEnded (.ended (.killed signal))⟩)
    let s : Session Bytes := .start {} []
    (tryLine (killed 40) "/bin/sh" s).1 = .error (.launch (.waitFailed Errno.invalid)) ∧
      (tryLine (killed 40) "/bin/sh" s).2.lastStatus = 0 ∧
      (tryLine (killed 9) "/bin/sh" s).1 = .ok .proceed ∧
      (tryLine (killed 9) "/bin/sh" s).2.lastStatus = 137 := by
  intro host killed s
  have htokens : tokenize "/bin/sh" = .ok ["/bin/sh"] :=
    @tokenize_of_scan "/bin/sh" ["/bin/sh".toList] rfl
  have hlaunches : ∀ signal, Launches (killed signal) "/bin/sh" s
      ⟨⟨⟨Utf8.encode "/bin/sh", by decide⟩, []⟩, none⟩ [] :=
    fun signal => .intro ⟨htokens, by decide⟩ rfl rfl rfl
  have hpipe : ∀ replies, (Kernel.replying replies).HoldsReports id :=
    fun replies => (Kernel.carriesReports_replying replies).holdsReports
  obtain ⟨-, hrealtime, -⟩ := reported_by_status (hpipe _) (hlaunches 40)
    (@Kernel.Ran.intro _ _ _ _ (.killed 40) [] [] [] [] [.notEnded] rfl rfl (.unasked rfl) rfl rfl)
  obtain ⟨hstandard, -, -⟩ := reported_by_status (hpipe _) (hlaunches 9)
    (@Kernel.Ran.intro _ _ _ _ (.killed 9) [] [] [] [] [.notEnded] rfl rfl (.unasked rfl) rfl rfl)
  have hfailed := hrealtime (by decide)
  obtain ⟨hanswer, hstatus⟩ := hstandard.2 ⟨⟨by decide, by decide⟩, nofun⟩
  exact ⟨congrArg Prod.fst hfailed, congrArg (fun r => r.2.lastStatus) hfailed, hanswer, hstatus⟩

end Session

end LineShell
