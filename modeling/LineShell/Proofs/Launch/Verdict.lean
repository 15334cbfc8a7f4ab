/-
**What a launch makes of its child.**

Parent and child of a launch run different code and agree through one pipe.  The child carries out
its redirection and asks to become the program; what stops it, it reports, and leaves.  The parent
reads the pipe, repeats its wait until that ends, and has to tell from both what the child met with.

What the child does is noted by a kernel that keeps a list of its requests to become a program and
of its departures beside the surroundings, and does everything else as before.  The pipe is a part
of the surroundings that no call but the making of it and the sending of a report changes.

Main definitions:

* `LineShell.Pause`, `LineShell.Waiting.of` — any number of waits that are repeated, and the last
  one;
* `LineShell.Kernel.noting` — the kernel that notes what the child does;
* `LineShell.Kernel.CarriesReports` — a report that is sent can be read, whole;
* `LineShell.Kernel.ChildCourse` — **the ways that the child's part can go**.

Main results:

* `LineShell.Waiting.outcome_of`, `LineShell.Waiting.exists_eq_of` — the repeated waits play no part,
  and all answers are of this form;
* `LineShell.Kernel.ChildCourse.childPart_noting`, `LineShell.Kernel.exists_childCourse` — the
  child's part goes one of these ways, and its calls are those that stand there;
* `LineShell.Kernel.ChildCourse.reported` — the parent learns of the failure that the child met
  with;
* `LineShell.Kernel.launch_verdict` — **what the parent answers**.
-/

import LineShell.Launch
import LineShell.Proofs.Launch.Rebind

set_option autoImplicit false

namespace LineShell

/-! ### Repeated waits -/

/-- A wait that is repeated. -/
inductive Pause where
  /-- It was interrupted. -/
  | interrupted
  /-- It told of a child that has not ended. -/
  | notEnded
deriving DecidableEq

namespace Waiting

/-- The answers of waits that are repeated, and of the last one. -/
def of : List Pause → Except Errno Fate → Waiting
  | [], .ok fate => .ended fate
  | [], .error e => .failed e
  | .interrupted :: rest, last => .interrupted (of rest last)
  | .notEnded :: rest, last => .notEnded (of rest last)

/-- Only the last wait counts. -/
theorem outcome_of (pauses : List Pause) (last : Except Errno Fate) :
    (of pauses last).outcome = last.bind Fate.outcome := by
  induction pauses with
  | nil =>
      cases last with
      | ok fate => rfl
      | error e => rfl
  | cons pause rest ih =>
      cases pause with
      | interrupted => exact ih
      | notEnded => exact ih

/-- All answers are of this form. -/
theorem exists_eq_of (answers : Waiting) : ∃ pauses last, answers = of pauses last := by
  induction answers with
  | interrupted next ih =>
      obtain ⟨pauses, last, rfl⟩ := ih
      exact ⟨.interrupted :: pauses, last, rfl⟩
  | notEnded next ih =>
      obtain ⟨pauses, last, rfl⟩ := ih
      exact ⟨.notEnded :: pauses, last, rfl⟩
  | ended fate => exact ⟨[], .ok fate, rfl⟩
  | failed e => exact ⟨[], .error e, rfl⟩

end Waiting

/-! ### Noting what the child does -/

/-- The calls on the descriptors in a larger surrounding. -/
def DescriptorCalls.within {ω : Type} (σ : Type) (calls : DescriptorCalls ω) :
    DescriptorCalls (σ × ω) where
  openTarget redirection := (calls.openTarget redirection).within
  statusFlags descriptor := (calls.statusFlags descriptor).within
  setStatusFlags descriptor flags := (calls.setStatusFlags descriptor flags).within
  duplicate descriptor target := (calls.duplicate descriptor target).within
  close descriptor s := (s.1, calls.close descriptor s.2)

/-- A call that ends the child's part. -/
inductive ChildCall where
  /-- It asks to become a program. -/
  | start (vector : ArgumentVector)
  /-- It leaves with a status. -/
  | leave (status : Int)
deriving DecidableEq

namespace Kernel

variable {ω : Type}

/-- The kernel that notes what the child does. -/
def noting (kernel : Kernel ω) : Kernel (List ChildCall × ω) where
  descriptors := kernel.descriptors.within (List ChildCall)
  makePipe := kernel.makePipe.within
  fork := kernel.fork.within
  start vector := fun (calls, w) =>
    match kernel.start vector w with
    | (r, w') => (r, calls ++ [.start vector], w')
  sendReport report s := (s.1, kernel.sendReport report s.2)
  leave status s := (s.1 ++ [.leave status], kernel.leave status s.2)
  readReport s := ((kernel.readReport s.2).1, s.1, (kernel.readReport s.2).2)
  wait s := ((kernel.wait s.2).1, s.1, (kernel.wait s.2).2)

/-! ### The pipe for the report -/

/-- The pipe works, and `held` is what it holds: a new one is empty, the report that the child sends
is delivered whole, and the parent can read it; no other call puts anything into it. -/
structure CarriesReports (kernel : Kernel ω) (held : ω → Bytes) : Prop where
  /-- A new pipe is empty. -/
  made : ∀ {w w'}, kernel.makePipe w = (.ok (), w') → held w' = []
  /-- The child's pipe is the parent's. -/
  fork : kernel.fork.Leaves held
  /-- A redirection has other descriptors. -/
  descriptors : kernel.descriptors.Leaves held
  /-- A program does not get the pipe. -/
  start : ∀ vector, (kernel.start vector).Leaves held
  /-- A report is delivered whole. -/
  sent : ∀ report w, held w = [] → held (kernel.sendReport report w) = report
  /-- What was sent is kept when the child leaves. -/
  leave : ∀ status w, held (kernel.leave status w) = held w
  /-- What the pipe holds can be read. -/
  read : ∀ w, (kernel.readReport w).1 = some (held w)

/-! ### The ways that the child's part can go -/

/-- The redirection, if there is one, was carried out by all its steps. -/
inductive Redirected (kernel : Kernel ω) (invocation : Invocation) (w : ω) : ω → Prop where
  /-- There is none. -/
  | unasked (none : invocation.redirection = none) : Redirected kernel invocation w w
  /-- It worked. -/
  | worked {redirection : Redirection} {w' : ω} (asked : invocation.redirection = some redirection)
    (rebound : kernel.descriptors.Redirects redirection w (.ok ()) w') :
    Redirected kernel invocation w w'

/-- How the child's part of a launch goes: what it fails with, if it does, and what is noted. -/
inductive ChildCourse (kernel : Kernel ω) (invocation : Invocation) (w : ω) :
    Option LaunchError → List ChildCall → Prop where
  /-- A step of the redirection fails. -/
  | unredirected {redirection : Redirection} {cause : RebindError} {w' : ω}
    (asked : invocation.redirection = some redirection)
    (failed : kernel.descriptors.Redirects redirection w (.error cause) w') :
    ChildCourse kernel invocation w
      (some (.redirectionFailed redirection.target.toStringLossy cause)) [.leave 1]
  /-- The program cannot be started. -/
  | unstarted {e : Errno} {w' w'' : ω} (redirected : Redirected kernel invocation w w')
    (failed : kernel.start invocation.vector w' = (.error e, w'')) :
    ChildCourse kernel invocation w
      (some (.launchFailed invocation.vector.program.toStringLossy e))
      [.start invocation.vector, .leave (if e = Errno.noEntry then 127 else 126)]
  /-- The program is started. -/
  | started {w' w'' : ω} (redirected : Redirected kernel invocation w w')
    (worked : kernel.start invocation.vector w' = (.ok (), w'')) :
    ChildCourse kernel invocation w none [.start invocation.vector]

end Kernel

variable {ω : Type} {kernel : Kernel ω} {invocation : Invocation} {w w' : ω}

/-! ### The child's part -/

theorem DescriptorCalls.close_within {σ : Type} (calls : DescriptorCalls ω) (descriptor : Nat)
    (s : σ) (w : ω) : (calls.within σ).close descriptor (s, w) = (s, calls.close descriptor w) := rfl

theorem DescriptorCalls.release_within {σ : Type} (calls : DescriptorCalls ω)
    (descriptor target : Nat) (s : σ) (w : ω) :
    (calls.within σ).release descriptor target (s, w) = (s, calls.release descriptor target w) := by
  unfold DescriptorCalls.release
  split <;> rfl

/-- A redirection goes in a larger surrounding as it goes without. -/
theorem DescriptorCalls.Rebinds.within {σ : Type} {calls : DescriptorCalls ω}
    {redirection : Redirection} {target : Nat} {r : Except RebindError Unit}
    (h : calls.Rebinds redirection target w r w') (s : σ) :
    (calls.within σ).Rebinds redirection target (s, w) r (s, w') := by
  cases h with
  | unopened opened => exact .unopened (Act.within_of_eq opened s)
  | unread opened read =>
      rw [← DescriptorCalls.release_within]
      exact .unread (Act.within_of_eq opened s) (Act.within_of_eq read s)
  | unset opened read set =>
      rw [← DescriptorCalls.release_within]
      exact .unset (Act.within_of_eq opened s) (Act.within_of_eq read s) (Act.within_of_eq set s)
  | inPlace opened read set =>
      exact .inPlace (Act.within_of_eq opened s) (Act.within_of_eq read s) (Act.within_of_eq set s)
  | unmoved opened read set elsewhere moved =>
      rw [← DescriptorCalls.close_within]
      exact .unmoved (Act.within_of_eq opened s) (Act.within_of_eq read s) (Act.within_of_eq set s)
        elsewhere (Act.within_of_eq moved s)
  | moved opened read set elsewhere moved =>
      rw [← DescriptorCalls.close_within]
      exact .moved (Act.within_of_eq opened s) (Act.within_of_eq read s) (Act.within_of_eq set s)
        elsewhere (Act.within_of_eq moved s)

namespace Kernel

theorem Redirected.noting (h : kernel.Redirected invocation w w') (calls : List ChildCall) :
    kernel.noting.Redirected invocation (calls, w) (calls, w') := by
  cases h with
  | unasked none => exact .unasked none
  | worked asked rebound => exact .worked asked (rebound.within calls)

theorem noting_start_of_eq {vector : ArgumentVector} {r : Except Errno Unit}
    (h : kernel.start vector w = (r, w')) (calls : List ChildCall) :
    kernel.noting.start vector (calls, w) = (r, calls ++ [.start vector], w') := by
  simp only [noting, h]

/-- A child whose redirection fails does not ask for the program. -/
theorem childPart_of_unredirected {redirection : Redirection} {cause : RebindError}
    (asked : invocation.redirection = some redirection)
    (failed : kernel.descriptors.Redirects redirection w (.error cause) w') :
    kernel.childPart invocation w =
      kernel.leave redirectFailedStatus
        (kernel.sendReport (StartFailure.redirection cause).encode w') := by
  have hbecome : kernel.becomeProgram invocation w = (.error (.redirection cause), w') := by
    rw [becomeProgram, asked]
    exact Act.bind_of_error (Act.mapError_of_error failed.rebind_eq _)
  rw [childPart, hbecome]
  rfl

/-- Any other child does. -/
theorem becomeProgram_of_redirected (h : kernel.Redirected invocation w w') :
    kernel.becomeProgram invocation w = (kernel.start invocation.vector).mapError .program w' := by
  cases h with
  | unasked none => rw [becomeProgram, none]
  | worked asked rebound =>
      rw [becomeProgram, asked]
      exact Act.bind_of_ok (Act.mapError_of_ok rebound.rebind_eq _)

theorem childPart_of_unstarted {e : Errno} {w'' : ω}
    (redirected : kernel.Redirected invocation w w')
    (failed : kernel.start invocation.vector w' = (.error e, w'')) :
    kernel.childPart invocation w =
      kernel.leave (startStatus e) (kernel.sendReport (StartFailure.program e).encode w'') := by
  rw [childPart, becomeProgram_of_redirected redirected, Act.mapError_of_error failed]
  rfl

theorem childPart_of_started {w'' : ω} (redirected : kernel.Redirected invocation w w')
    (worked : kernel.start invocation.vector w' = (.ok (), w'')) :
    kernel.childPart invocation w = w'' := by
  rw [childPart, becomeProgram_of_redirected redirected, Act.mapError_of_ok worked]

/-- **The child's calls are those of its course**, and noting them changes nothing else. -/
theorem ChildCourse.childPart_noting {failure : Option LaunchError} {calls : List ChildCall}
    (h : kernel.ChildCourse invocation w failure calls) :
    kernel.noting.childPart invocation ([], w) = (calls, kernel.childPart invocation w) := by
  cases h with
  | unredirected asked failed =>
      rw [childPart_of_unredirected asked failed,
        childPart_of_unredirected asked (failed.within [])]
      rfl
  | unstarted redirected failed =>
      rw [childPart_of_unstarted redirected failed,
        childPart_of_unstarted (redirected.noting []) (noting_start_of_eq failed [])]
      rfl
  | started redirected worked =>
      rw [childPart_of_started redirected worked,
        childPart_of_started (redirected.noting []) (noting_start_of_eq worked [])]
      rfl

/-- There is no other way for the child's part to go. -/
theorem exists_childCourse (kernel : Kernel ω) (invocation : Invocation) (w : ω) :
    ∃ failure calls, kernel.ChildCourse invocation w failure calls := by
  have hstart : ∀ {w'}, kernel.Redirected invocation w w' →
      ∃ failure calls, kernel.ChildCourse invocation w failure calls := by
    intro w' redirected
    match started : kernel.start invocation.vector w' with
    | (.error e, w'') => exact ⟨_, _, .unstarted redirected started⟩
    | (.ok (), w'') => exact ⟨_, _, .started redirected started⟩
  cases asked : invocation.redirection with
  | none => exact hstart (.unasked asked)
  | some redirection =>
    obtain ⟨r, w', rebound⟩ :=
      DescriptorCalls.exists_rebinds kernel.descriptors redirection redirection.stream.descriptor w
    cases r with
    | error cause => exact ⟨_, _, .unredirected asked rebound⟩
    | ok _ => exact hstart (.worked asked rebound)

/-! ### What the parent learns -/

theorem Redirected.leaves {β : Type} {part : ω → β} (hcalls : kernel.descriptors.Leaves part)
    (h : kernel.Redirected invocation w w') : part w' = part w := by
  cases h with
  | unasked none => rfl
  | worked asked rebound => exact rebound.leaves hcalls

/-- A failure that was sent through an empty pipe is read and understood. -/
theorem CarriesReports.decode_sent {held : ω → Bytes} (hpipe : kernel.CarriesReports held)
    (status : Int) (failure : StartFailure) (h : held w = []) :
    (kernel.readReport (kernel.leave status (kernel.sendReport failure.encode w))).1.bind
      StartFailure.decode = some failure := by
  rw [hpipe.read, hpipe.leave, hpipe.sent _ _ h]
  exact StartFailure.decode_encode failure

/-- **The parent learns of the failure that the child met with**, and of nothing if the program was
started. -/
theorem ChildCourse.reported {held : ω → Bytes} (hpipe : kernel.CarriesReports held)
    (hempty : held w = []) {failure : Option LaunchError} {calls : List ChildCall}
    (h : kernel.ChildCourse invocation w failure calls) :
    ((kernel.readReport (kernel.childPart invocation w)).1.bind StartFailure.decode).map
      (·.toLaunchError invocation) = failure := by
  cases h with
  | unredirected asked failed =>
      have hheld := (failed.leaves hpipe.descriptors).trans hempty
      rw [childPart_of_unredirected asked failed]
      rw [hpipe.decode_sent redirectFailedStatus (StartFailure.redirection _) hheld]
      simp only [Option.map_some, StartFailure.toLaunchError, asked, Option.getD_some]
  | unstarted redirected failed =>
      have hheld := (redirected.leaves hpipe.descriptors).trans hempty
      rw [← (hpipe.start _).eq failed] at hheld
      rw [childPart_of_unstarted redirected failed, hpipe.decode_sent _ _ hheld]
      rfl
  | started redirected worked =>
      have hheld := (redirected.leaves hpipe.descriptors).trans hempty
      rw [← (hpipe.start _).eq worked] at hheld
      -- nothing was sent, and nothing is no report
      rw [childPart_of_started redirected worked, hpipe.read, hheld]
      rfl

/-! ### What the parent answers -/

/-- The answers of the parent's waits, if the child's part begins in these surroundings. -/
def answers (kernel : Kernel ω) (invocation : Invocation) (w : ω) : Waiting :=
  (kernel.wait (kernel.readReport (kernel.childPart invocation w)).2).1

/-- What the last wait and the child's failure, if there is one, amount to. -/
def verdict : Except Errno Outcome → Option LaunchError → Except LaunchError Outcome
  | .error e, _ => .error (.waitFailed e)
  | .ok _, some failure => .error failure
  | .ok outcome, none => .ok outcome

/-- A launch that has a pipe and a child answers what the reading and the waits amount to. -/
theorem launch_of_fork {w₁ w₂ : ω} (made : kernel.makePipe w = (.ok (), w₁))
    (forked : kernel.fork w₁ = (.ok (), w₂)) :
    kernel.launch invocation w =
      (verdict (kernel.answers invocation w₂).outcome
        (((kernel.readReport (kernel.childPart invocation w₂)).1.bind StartFailure.decode).map
          (·.toLaunchError invocation)),
      (kernel.wait (kernel.readReport (kernel.childPart invocation w₂)).2).2) := by
  rw [launch, Act.bind_of_ok (Act.mapError_of_ok made _),
    Act.bind_of_ok (Act.mapError_of_ok forked _)]
  -- the child's part, the reading and the waits cannot fail; only then their answers are looked at
  refine (Act.bind_of_ok rfl).trans ?_
  refine (Act.bind_of_ok rfl).trans ?_
  refine (Act.bind_of_ok rfl).trans ?_
  unfold answers
  cases (kernel.wait (kernel.readReport (kernel.childPart invocation w₂)).2).1.outcome with
  | error e => rfl
  | ok outcome =>
    dsimp only
    cases (kernel.readReport (kernel.childPart invocation w₂)).1.bind StartFailure.decode with
    | some failure => rfl
    | none => rfl

/-- **The child's failure, if there is one, is what the launch answers**, and the last wait
otherwise; a wait that fails comes before both. -/
theorem ChildCourse.launch_eq {held : ω → Bytes} (hpipe : kernel.CarriesReports held) {w₁ w₂ : ω}
    (made : kernel.makePipe w = (.ok (), w₁)) (forked : kernel.fork w₁ = (.ok (), w₂))
    {failure : Option LaunchError} {calls : List ChildCall}
    (h : kernel.ChildCourse invocation w₂ failure calls) :
    (kernel.launch invocation w).1 = verdict (kernel.answers invocation w₂).outcome failure := by
  have hempty : held w₂ = [] := (hpipe.fork.eq forked).trans (hpipe.made made)
  rw [launch_of_fork made forked, h.reported hpipe hempty]

/-- Noting what the child does changes nothing of a launch. -/
theorem ChildCourse.launch_noting {w₁ w₂ : ω}
    (made : kernel.makePipe w = (.ok (), w₁)) (forked : kernel.fork w₁ = (.ok (), w₂))
    {failure : Option LaunchError} {calls : List ChildCall}
    (h : kernel.ChildCourse invocation w₂ failure calls) :
    kernel.noting.launch invocation ([], w) =
      ((kernel.launch invocation w).1, calls, (kernel.launch invocation w).2) := by
  rw [launch_of_fork made forked,
    launch_of_fork (Act.within_of_eq made ([] : List ChildCall)) (Act.within_of_eq forked [])]
  simp only [answers, h.childPart_noting]
  rfl

/-- The child asks to become the program exactly if its redirection, if it has one, worked. -/
theorem ChildCourse.start_mem_iff {failure : Option LaunchError} {calls : List ChildCall}
    (h : kernel.ChildCourse invocation w failure calls) :
    (∃ vector, ChildCall.start vector ∈ calls) ↔ ∃ w', kernel.Redirected invocation w w' := by
  cases h with
  | unredirected asked failed =>
      constructor
      · simp
      · rintro ⟨w', redirected⟩
        cases redirected with
        | unasked none => cases asked.symm.trans none
        | worked asked' rebound =>
            cases asked.symm.trans asked'
            cases (failed.unique rebound).1
  | unstarted redirected failed =>
      exact ⟨fun _ => ⟨_, redirected⟩, fun _ => ⟨invocation.vector, by simp⟩⟩
  | started redirected worked =>
      exact ⟨fun _ => ⟨_, redirected⟩, fun _ => ⟨invocation.vector, by simp⟩⟩

/-- A child that fails leaves with the status of the error that its parent answers. -/
theorem ChildCourse.getLast?_eq {error : LaunchError} {calls : List ChildCall}
    (h : kernel.ChildCourse invocation w (some error) calls) :
    calls.getLast? = some (.leave error.status) := by
  cases h with
  | unredirected asked failed => rfl
  | unstarted redirected failed => rfl

/-- **What a launch makes of its child.**  Whatever its calls answer, the child's part goes one way;
it asks to become the program exactly if there is no redirection or all of its steps worked.
However often the waits are repeated, the launch fails if the last one does; otherwise it answers
the child's failure, with whose status the child left, and the outcome of the last wait if the
program was started. -/
theorem launch_verdict {held : ω → Bytes} (hpipe : kernel.CarriesReports held)
    (invocation : Invocation) {w₁ w₂ : ω} (made : kernel.makePipe w = (.ok (), w₁))
    (forked : kernel.fork w₁ = (.ok (), w₂)) {pauses : List Pause} {last : Except Errno Fate}
    (waited : kernel.answers invocation w₂ = .of pauses last) :
    (∃ failure calls, kernel.ChildCourse invocation w₂ failure calls) ∧
      ∀ failure calls, kernel.ChildCourse invocation w₂ failure calls →
        kernel.noting.launch invocation ([], w) =
          ((kernel.launch invocation w).1, calls, (kernel.launch invocation w).2) ∧
        ((∃ vector, ChildCall.start vector ∈ calls) ↔ ∃ w₃, kernel.Redirected invocation w₂ w₃) ∧
        (∀ error, failure = some error → calls.getLast? = some (.leave error.status)) ∧
        (kernel.launch invocation w).1 = verdict (last.bind Fate.outcome) failure := by
  refine ⟨exists_childCourse kernel invocation w₂, fun failure calls hcourse => ?_⟩
  refine ⟨hcourse.launch_noting made forked, hcourse.start_mem_iff, ?_, ?_⟩
  · rintro error rfl
    exact hcourse.getLast?_eq
  · rw [← Waiting.outcome_of pauses, ← waited]
    exact hcourse.launch_eq hpipe made forked

/-! ### Kernels whose answers are given -/

/-- What the calls of a launch answer. -/
structure Replies where
  /-- The opening of the target. -/
  opened : Except Errno Nat
  /-- The reading of the settings. -/
  read : Except Errno StatusFlags
  /-- The changing of the settings. -/
  set : Except Errno Unit
  /-- The putting in place. -/
  moved : Except Errno Unit
  /-- The start of the program. -/
  started : Except Errno Unit
  /-- The waits. -/
  waited : Waiting

/-- The kernel that answers so, and of which there is nothing but the pipe. -/
def replying (replies : Replies) : Kernel Bytes where
  descriptors :=
    { openTarget := fun _ held => (replies.opened, held)
      statusFlags := fun _ held => (replies.read, held)
      setStatusFlags := fun _ _ held => (replies.set, held)
      duplicate := fun _ _ held => (replies.moved, held)
      close := fun _ held => held }
  makePipe := Act.change fun _ => []
  fork := Act.change id
  start _ := fun held => (replies.started, held)
  sendReport report held := held ++ report
  leave _ held := held
  readReport held := (some held, [])
  wait held := (replies.waited, held)

/-- Whatever its calls answer, its pipe works. -/
theorem carriesReports_replying (replies : Replies) : (replying replies).CarriesReports id where
  made h := (congrArg Prod.snd h).symm
  fork _ := rfl
  descriptors :=
    ⟨fun _ _ => rfl, fun _ _ => rfl, fun _ _ _ => rfl, fun _ _ _ => rfl, fun _ _ => rfl⟩
  start _ _ := rfl
  sent report w h := by
    cases h
    rfl
  leave _ _ := rfl
  read _ := rfl

/-- Standard output is busy when the file is to be put there, and the wait is interrupted once. -/
theorem launch_verdict_busy :
    let target : CString := ⟨[111, 117, 116], by decide⟩
    let invocation : Invocation := ⟨⟨⟨[47, 98], by decide⟩, []⟩, some ⟨.output, target⟩⟩
    let kernel := replying
      ⟨.ok 5, .ok ⟨true⟩, .ok (), .error Errno.busy, .ok (), .interrupted (.ended (.exited 1))⟩
    kernel.CarriesReports id ∧ kernel.makePipe [] = (.ok (), []) ∧ kernel.fork [] = (.ok (), []) ∧
      kernel.answers invocation [] = .of [.interrupted] (.ok (.exited 1)) ∧
      kernel.noting.launch invocation ([], []) =
        (.error (.redirectionFailed target.toStringLossy (.rebinding Errno.busy)), [.leave 1],
          []) := by
  intro target invocation kernel
  have hpipe : kernel.CarriesReports id := carriesReports_replying _
  have hmoved : kernel.descriptors.Rebinds ⟨.output, target⟩ 1 []
      (.error (.rebinding Errno.busy)) [] :=
    @DescriptorCalls.Rebinds.unmoved _ _ _ _ _ 5 _ _ _ _ _ _ rfl rfl rfl (by decide) rfl
  have hcourse : kernel.ChildCourse invocation []
      (some (.redirectionFailed target.toStringLossy (.rebinding Errno.busy))) [.leave 1] :=
    .unredirected rfl hmoved
  have hverdict := @launch_verdict _ kernel [] id hpipe invocation [] [] rfl rfl [.interrupted]
    (.ok (.exited 1)) rfl
  obtain ⟨hnoted, -, -, hanswer⟩ := hverdict.2 _ _ hcourse
  refine ⟨hpipe, rfl, rfl, rfl, ?_⟩
  rw [hnoted, hanswer]
  rfl

end Kernel

end LineShell
