/-
**What a launch does outside its own process.**

A launch reaches beyond the process that it is asked in by two of its calls: it makes a child, and
the child opens the target of its redirection.  Both are noted here by a kernel that does everything
else as before, so that it can be said of a longer run that nothing of the kind was done.

The notes are determined before the launch begins: without a pipe or without a child there is
nothing to note, and with both there is the child and, if the invocation has a redirection, its
target.

Main definitions:

* `LineShell.Deed` — what is noted;
* `LineShell.Kernel.tracing` — the kernel that notes its children and the files that they open;
* `LineShell.Kernel.deeds` — what a launch is going to do.

Main results:

* `LineShell.Kernel.launch_tracing` — **a launch does what it does without being traced, and notes
  its deeds**;
* `LineShell.Kernel.deeds_prefix` — these are a child and the opening of one target at most.
-/

import LineShell.Proofs.Launch.Verdict

set_option autoImplicit false

namespace LineShell

/-- What reaches beyond the process of a session. -/
inductive Deed where
  /-- A launch is asked for. -/
  | execute (invocation : Invocation)
  /-- A child is made. -/
  | child
  /-- The target of a redirection is opened, or created, or emptied; or it is tried. -/
  | opening (redirection : Redirection)
deriving DecidableEq

variable {ω : Type}

/-- The calls that note which targets are opened. -/
def DescriptorCalls.tracing (calls : DescriptorCalls ω) : DescriptorCalls (List Deed × ω) :=
  { calls.within (List Deed) with
    openTarget := fun redirection (seen, w) =>
      match calls.openTarget redirection w with
      | (r, w') => (r, seen ++ [.opening redirection], w') }

namespace Kernel

/-- The kernel that notes its children and the targets that are opened. -/
def tracing (kernel : Kernel ω) : Kernel (List Deed × ω) where
  descriptors := kernel.descriptors.tracing
  makePipe := kernel.makePipe.within
  fork := fun (seen, w) =>
    match kernel.fork w with
    | (.ok (), w') => (.ok (), seen ++ [.child], w')
    | (.error e, w') => (.error e, seen, w')
  start vector := (kernel.start vector).within
  sendReport report s := (s.1, kernel.sendReport report s.2)
  leave status s := (s.1, kernel.leave status s.2)
  readReport s := ((kernel.readReport s.2).1, s.1, (kernel.readReport s.2).2)
  wait s := ((kernel.wait s.2).1, s.1, (kernel.wait s.2).2)

/-- What the child of a launch opens. -/
def openings (invocation : Invocation) : List Deed :=
  invocation.redirection.toList.map .opening

/-- What a launch does. -/
def deeds (kernel : Kernel ω) (invocation : Invocation) (w : ω) : List Deed :=
  match kernel.makePipe w with
  | (.error _, _) => []
  | (.ok (), w₁) =>
    match kernel.fork w₁ with
    | (.error _, _) => []
    | (.ok (), _) => .child :: openings invocation

/-- A launch makes one child and opens one target at most, that of its own redirection, and the
target only after the child was made. -/
theorem deeds_prefix (kernel : Kernel ω) (invocation : Invocation) (w : ω) :
    kernel.deeds invocation w <+: .child :: openings invocation := by
  unfold deeds
  split
  · exact List.nil_prefix
  · split
    · exact List.nil_prefix
    · exact List.prefix_rfl

end Kernel

variable {kernel : Kernel ω} {invocation : Invocation} {w w' : ω}

/-! ### The child's part -/

theorem DescriptorCalls.openTarget_tracing {calls : DescriptorCalls ω} {redirection : Redirection}
    {r : Except Errno Nat} (h : calls.openTarget redirection w = (r, w')) (seen : List Deed) :
    calls.tracing.openTarget redirection (seen, w) = (r, seen ++ [.opening redirection], w') := by
  simp only [DescriptorCalls.tracing, h]

theorem DescriptorCalls.release_tracing (calls : DescriptorCalls ω) (descriptor target : Nat)
    (seen : List Deed) (w : ω) :
    calls.tracing.release descriptor target (seen, w) =
      (seen, calls.release descriptor target w) :=
  calls.release_within descriptor target seen w

/-- A redirection opens its target first of all, and no other one after that. -/
theorem DescriptorCalls.Rebinds.tracing {calls : DescriptorCalls ω} {redirection : Redirection}
    {target : Nat} {r : Except RebindError Unit} (h : calls.Rebinds redirection target w r w')
    (seen : List Deed) :
    calls.tracing.Rebinds redirection target (seen, w) r (seen ++ [.opening redirection], w') := by
  cases h with
  | unopened opened => exact .unopened (openTarget_tracing opened seen)
  | unread opened read =>
      rw [← release_tracing]
      exact .unread (openTarget_tracing opened seen) (Act.within_of_eq read _)
  | unset opened read set =>
      rw [← release_tracing]
      exact .unset (openTarget_tracing opened seen) (Act.within_of_eq read _)
        (Act.within_of_eq set _)
  | inPlace opened read set =>
      exact .inPlace (openTarget_tracing opened seen) (Act.within_of_eq read _)
        (Act.within_of_eq set _)
  | unmoved opened read set elsewhere moved =>
      exact .unmoved (openTarget_tracing opened seen) (Act.within_of_eq read _)
        (Act.within_of_eq set _) elsewhere (Act.within_of_eq moved _)
  | moved opened read set elsewhere moved =>
      exact .moved (openTarget_tracing opened seen) (Act.within_of_eq read _)
        (Act.within_of_eq set _) elsewhere (Act.within_of_eq moved _)

namespace Kernel

theorem Redirected.tracing (h : kernel.Redirected invocation w w') (seen : List Deed) :
    kernel.tracing.Redirected invocation (seen, w) (seen ++ openings invocation, w') := by
  cases h with
  | unasked none =>
      rw [openings, none, Option.toList_none, List.map_nil, List.append_nil]
      exact .unasked none
  | worked asked rebound =>
      rw [openings, asked]
      exact .worked asked (rebound.tracing seen)

/-- **The child opens the target of its redirection**, if it has one, however its part goes; and
noting that changes nothing else. -/
theorem ChildCourse.childPart_tracing {failure : Option LaunchError} {calls : List ChildCall}
    (h : kernel.ChildCourse invocation w failure calls) (seen : List Deed) :
    kernel.tracing.childPart invocation (seen, w) =
      (seen ++ openings invocation, kernel.childPart invocation w) := by
  cases h with
  | unredirected asked failed =>
      rw [childPart_of_unredirected asked failed,
        childPart_of_unredirected asked (failed.tracing seen), openings, asked]
      rfl
  | unstarted redirected failed =>
      rw [childPart_of_unstarted redirected failed,
        childPart_of_unstarted (redirected.tracing seen) (Act.within_of_eq failed _)]
      rfl
  | started redirected worked =>
      rw [childPart_of_started redirected worked,
        childPart_of_started (redirected.tracing seen) (Act.within_of_eq worked _)]

/-! ### The whole launch -/

theorem launch_of_makePipe_error {e : Errno} (h : kernel.makePipe w = (.error e, w')) :
    kernel.launch invocation w = (.error (.pipe e), w') := by
  rw [launch]
  exact Act.bind_of_error (Act.mapError_of_error h _)

theorem launch_of_fork_error {e : Errno} {w₁ : ω} (made : kernel.makePipe w = (.ok (), w₁))
    (h : kernel.fork w₁ = (.error e, w')) :
    kernel.launch invocation w = (.error (.forkFailed e), w') := by
  rw [launch, Act.bind_of_ok (Act.mapError_of_ok made _)]
  exact Act.bind_of_error (Act.mapError_of_error h _)

/-- **A launch does what it does without being traced, and notes its deeds.** -/
theorem launch_tracing (kernel : Kernel ω) (invocation : Invocation) (seen : List Deed) (w : ω) :
    kernel.tracing.launch invocation (seen, w) =
      ((kernel.launch invocation w).1, seen ++ kernel.deeds invocation w,
        (kernel.launch invocation w).2) := by
  -- one call after the other, up to the first that fails; after the child was made none does
  cases made : kernel.makePipe w with
  | mk r w₁ =>
    have hmade : kernel.tracing.makePipe (seen, w) = (r, seen, w₁) := Act.within_of_eq made seen
    cases r with
    | error e =>
        rw [launch_of_makePipe_error made, launch_of_makePipe_error hmade, deeds, made,
          List.append_nil]
    | ok _ =>
      cases forked : kernel.fork w₁ with
      | mk r w₂ =>
        cases r with
        | error e =>
            have hforked : kernel.tracing.fork (seen, w₁) = (.error e, seen, w₂) := by
              simp only [tracing, forked]
            rw [launch_of_fork_error made forked, launch_of_fork_error hmade hforked, deeds, made]
            simp only [forked, List.append_nil]
        | ok _ =>
            have hforked : kernel.tracing.fork (seen, w₁) = (.ok (), seen ++ [.child], w₂) := by
              simp only [tracing, forked]
            obtain ⟨failure, calls, hcourse⟩ := exists_childCourse kernel invocation w₂
            have hnoted : seen ++ kernel.deeds invocation w =
                seen ++ [.child] ++ openings invocation := by
              simp only [deeds, made, forked, List.append_assoc, List.singleton_append]
            rw [launch_of_fork made forked, launch_of_fork hmade hforked, hnoted]
            simp only [answers, hcourse.childPart_tracing]
            rfl

end Kernel

end LineShell
