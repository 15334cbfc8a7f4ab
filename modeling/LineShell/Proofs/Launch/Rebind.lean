/-
**The course of a redirection.**

Putting a file in the place of a stream takes up to five calls.  The target is opened; the settings
of the open file are read and set again; unless it has the stream's descriptor already, it is put
there; and the descriptor that the opening returned is closed, whatever happened, unless it is the
stream's.  A redirection goes one of six ways, then: it stops at one of the four calls that can
fail, or it is in its place, with or without having been moved there.

Main definitions:

* `LineShell.Act.Leaves` — an action that leaves a part of the surroundings alone;
* `LineShell.DescriptorCalls.release` — the closing of a descriptor that is not the stream's;
* `LineShell.DescriptorCalls.Rebinds`, `LineShell.DescriptorCalls.Redirects` — **the ways that a
  redirection can go**.

Main results:

* `LineShell.DescriptorCalls.Rebinds.rebind_eq`, `LineShell.DescriptorCalls.exists_rebinds` — a
  redirection goes one of these ways, and what it does is what stands there;
* `LineShell.DescriptorCalls.Rebinds.leaves` — what no call changes, a redirection leaves alone.
-/

import LineShell.Launch.Rebind

set_option autoImplicit false

namespace LineShell

/-- The action leaves a part of the surroundings alone, whether it fails or not. -/
def Act.Leaves {ω ε α β : Type} (a : Act ω ε α) (part : ω → β) : Prop := ∀ w, part (a w).2 = part w

theorem Act.Leaves.eq {ω ε α β : Type} {a : Act ω ε α} {part : ω → β} (h : a.Leaves part)
    {r : Except ε α} {w w' : ω} (hrun : a w = (r, w')) : part w' = part w := by
  have hleaves := h w
  rwa [hrun] at hleaves

namespace DescriptorCalls

variable {ω : Type} (calls : DescriptorCalls ω)

/-- Close a descriptor, unless it is the one that is kept. -/
def release (descriptor target : Nat) (w : ω) : ω :=
  if descriptor = target then w else calls.close descriptor w

@[simp] theorem release_self (target : Nat) (w : ω) : calls.release target target w = w := by
  simp [release]

/-- How putting the target of a redirection in the place of a descriptor goes, with the answer and
the surroundings afterwards. -/
inductive Rebinds (redirection : Redirection) (target : Nat) (w : ω) :
    Except RebindError Unit → ω → Prop where
  /-- The target cannot be opened. -/
  | unopened {e : Errno} {w₁ : ω} (opened : calls.openTarget redirection w = (.error e, w₁)) :
    Rebinds redirection target w (.error (.opening e)) w₁
  /-- The settings of the open file cannot be read. -/
  | unread {descriptor : Nat} {e : Errno} {w₁ w₂ : ω}
    (opened : calls.openTarget redirection w = (.ok descriptor, w₁))
    (read : calls.statusFlags descriptor w₁ = (.error e, w₂)) :
    Rebinds redirection target w (.error (.opening e)) (calls.release descriptor target w₂)
  /-- The settings of the open file cannot be changed. -/
  | unset {descriptor : Nat} {flags : StatusFlags} {e : Errno} {w₁ w₂ w₃ : ω}
    (opened : calls.openTarget redirection w = (.ok descriptor, w₁))
    (read : calls.statusFlags descriptor w₁ = (.ok flags, w₂))
    (set : calls.setStatusFlags descriptor { flags with nonblocking := false } w₂ =
      (.error e, w₃)) :
    Rebinds redirection target w (.error (.opening e)) (calls.release descriptor target w₃)
  /-- The open file has the descriptor already. -/
  | inPlace {flags : StatusFlags} {w₁ w₂ w₃ : ω}
    (opened : calls.openTarget redirection w = (.ok target, w₁))
    (read : calls.statusFlags target w₁ = (.ok flags, w₂))
    (set : calls.setStatusFlags target { flags with nonblocking := false } w₂ = (.ok (), w₃)) :
    Rebinds redirection target w (.ok ()) w₃
  /-- The open file cannot be put in the place of the descriptor. -/
  | unmoved {descriptor : Nat} {flags : StatusFlags} {e : Errno} {w₁ w₂ w₃ w₄ : ω}
    (opened : calls.openTarget redirection w = (.ok descriptor, w₁))
    (read : calls.statusFlags descriptor w₁ = (.ok flags, w₂))
    (set : calls.setStatusFlags descriptor { flags with nonblocking := false } w₂ = (.ok (), w₃))
    (elsewhere : descriptor ≠ target)
    (moved : calls.duplicate descriptor target w₃ = (.error e, w₄)) :
    Rebinds redirection target w (.error (.rebinding e)) (calls.close descriptor w₄)
  /-- The open file is put in the place of the descriptor. -/
  | moved {descriptor : Nat} {flags : StatusFlags} {w₁ w₂ w₃ w₄ : ω}
    (opened : calls.openTarget redirection w = (.ok descriptor, w₁))
    (read : calls.statusFlags descriptor w₁ = (.ok flags, w₂))
    (set : calls.setStatusFlags descriptor { flags with nonblocking := false } w₂ = (.ok (), w₃))
    (elsewhere : descriptor ≠ target)
    (moved : calls.duplicate descriptor target w₃ = (.ok (), w₄)) :
    Rebinds redirection target w (.ok ()) (calls.close descriptor w₄)

/-- How a redirection of the stream that it names goes. -/
abbrev Redirects (redirection : Redirection) : ω → Except RebindError Unit → ω → Prop :=
  calls.Rebinds redirection redirection.stream.descriptor

variable {calls} {redirection : Redirection} {target : Nat} {w w' : ω}

/-! ### The calls one after the other -/

theorem clearNonblocking_of_read_error {descriptor : Nat} {e : Errno}
    (h : calls.statusFlags descriptor w = (.error e, w')) :
    calls.clearNonblocking descriptor w = (.error e, w') :=
  Act.bind_of_error h

theorem clearNonblocking_of_read {descriptor : Nat} {flags : StatusFlags} {w₁ : ω}
    {r : Except Errno Unit} (read : calls.statusFlags descriptor w = (.ok flags, w₁))
    (set : calls.setStatusFlags descriptor { flags with nonblocking := false } w₁ = (r, w')) :
    calls.clearNonblocking descriptor w = (r, w') :=
  (Act.bind_of_ok read).trans set

/-- A file that cannot be told to wait is not handed on. -/
theorem install_of_error {descriptor : Nat} {e : Errno}
    (h : calls.clearNonblocking descriptor w = (.error e, w')) :
    calls.install descriptor target w = (.error (.opening e), w') :=
  Act.bind_of_error (Act.mapError_of_error h _)

/-- A file that has the descriptor already stays there. -/
theorem install_self (h : calls.clearNonblocking target w = (.ok (), w')) :
    calls.install target target w = (.ok (), w') := by
  rw [install, Act.bind_of_ok (Act.mapError_of_ok h _), if_pos rfl]
  rfl

/-- Any other file is moved. -/
theorem install_of_ne {descriptor : Nat} (hne : descriptor ≠ target) {w₁ : ω}
    (h : calls.clearNonblocking descriptor w = (.ok (), w₁)) :
    calls.install descriptor target w =
      (calls.duplicate descriptor target).mapError .rebinding w₁ := by
  rw [install, Act.bind_of_ok (Act.mapError_of_ok h _), if_neg hne]

theorem rebind_of_error {e : Errno} (h : calls.openTarget redirection w = (.error e, w')) :
    calls.rebind redirection target w = (.error (.opening e), w') :=
  Act.bind_of_error (Act.mapError_of_error h _)

/-- What became of the open file is the answer, after its descriptor is closed. -/
theorem rebind_of_install {descriptor : Nat} {r : Except RebindError Unit} {w₁ w₂ : ω}
    (opened : calls.openTarget redirection w = (.ok descriptor, w₁))
    (installed : calls.install descriptor target w₁ = (r, w₂)) :
    calls.rebind redirection target w = (r, calls.release descriptor target w₂) := by
  have hattempt : ((calls.install descriptor target).attempt : Act ω RebindError _) w₁ =
      (.ok r, w₂) := by
    rw [Act.attempt_run, installed]
  rw [rebind, Act.bind_of_ok (Act.mapError_of_ok opened _), Act.bind_of_ok hattempt]
  by_cases hself : descriptor = target
  · rw [release, if_pos hself, if_neg (not_not_intro hself)]
    cases r with
    | error cause => rfl
    | ok _ => rfl
  · rw [release, if_neg hself, if_pos hself]
    cases r with
    | error cause => rfl
    | ok _ => rfl

/-! ### The ways that it can go -/

/-- **What a redirection does is what its course says.** -/
theorem Rebinds.rebind_eq {r : Except RebindError Unit}
    (h : calls.Rebinds redirection target w r w') :
    calls.rebind redirection target w = (r, w') := by
  cases h with
  | unopened opened => exact rebind_of_error opened
  | unread opened read =>
      exact rebind_of_install opened (install_of_error (clearNonblocking_of_read_error read))
  | unset opened read set =>
      exact rebind_of_install opened (install_of_error (clearNonblocking_of_read read set))
  | inPlace opened read set =>
      have hinstall := install_self (clearNonblocking_of_read read set)
      rw [rebind_of_install opened hinstall, release_self]
  | unmoved opened read set elsewhere moved =>
      have hinstall := install_of_ne elsewhere (clearNonblocking_of_read read set)
      rw [Act.mapError_of_error moved] at hinstall
      rw [rebind_of_install opened hinstall, release, if_neg elsewhere]
  | moved opened read set elsewhere moved =>
      have hinstall := install_of_ne elsewhere (clearNonblocking_of_read read set)
      rw [Act.mapError_of_ok moved] at hinstall
      rw [rebind_of_install opened hinstall, release, if_neg elsewhere]

/-- **There is no other way for a redirection to go.** -/
theorem exists_rebinds (calls : DescriptorCalls ω) (redirection : Redirection) (target : Nat)
    (w : ω) :
    ∃ r w', calls.Rebinds redirection target w r w' := by
  -- one call after the other, up to the first that fails
  match opened : calls.openTarget redirection w with
  | (.error e, w₁) => exact ⟨_, _, .unopened opened⟩
  | (.ok descriptor, w₁) =>
    match read : calls.statusFlags descriptor w₁ with
    | (.error e, w₂) => exact ⟨_, _, .unread opened read⟩
    | (.ok flags, w₂) =>
      match set : calls.setStatusFlags descriptor { flags with nonblocking := false } w₂ with
      | (.error e, w₃) => exact ⟨_, _, .unset opened read set⟩
      | (.ok (), w₃) =>
        by_cases elsewhere : descriptor = target
        · subst elsewhere
          exact ⟨_, _, .inPlace opened read set⟩
        · match moved : calls.duplicate descriptor target w₃ with
          | (.error e, w₄) => exact ⟨_, _, .unmoved opened read set elsewhere moved⟩
          | (.ok (), w₄) => exact ⟨_, _, .moved opened read set elsewhere moved⟩

/-- A redirection goes one way only. -/
theorem Rebinds.unique {r r' : Except RebindError Unit} {w'' : ω}
    (h : calls.Rebinds redirection target w r w') (h' : calls.Rebinds redirection target w r' w'') :
    r = r' ∧ w' = w'' := by
  have heq := h.rebind_eq.symm.trans h'.rebind_eq
  exact ⟨congrArg Prod.fst heq, congrArg Prod.snd heq⟩

/-! ### What it leaves alone -/

/-- No call changes this part of the surroundings, whether it fails or not. -/
structure Leaves {β : Type} (calls : DescriptorCalls ω) (part : ω → β) : Prop where
  /-- Opening does not. -/
  openTarget : ∀ redirection, (calls.openTarget redirection).Leaves part
  /-- Reading the settings of an open file does not. -/
  statusFlags : ∀ descriptor, (calls.statusFlags descriptor).Leaves part
  /-- Changing them does not. -/
  setStatusFlags : ∀ descriptor flags, (calls.setStatusFlags descriptor flags).Leaves part
  /-- Putting an open file in the place of a descriptor does not. -/
  duplicate : ∀ descriptor target, (calls.duplicate descriptor target).Leaves part
  /-- Closing does not. -/
  close : ∀ descriptor w, part (calls.close descriptor w) = part w

variable {β : Type} {part : ω → β}

theorem Leaves.release (h : calls.Leaves part) (descriptor target : Nat) (w : ω) :
    part (calls.release descriptor target w) = part w := by
  unfold DescriptorCalls.release
  split
  · rfl
  · exact h.close descriptor w

/-- **What no call changes, a redirection leaves alone.** -/
theorem Rebinds.leaves (hcalls : calls.Leaves part) {r : Except RebindError Unit}
    (h : calls.Rebinds redirection target w r w') : part w' = part w := by
  cases h with
  | unopened opened => exact (hcalls.openTarget _).eq opened
  | unread opened read =>
      rw [hcalls.release, (hcalls.statusFlags _).eq read, (hcalls.openTarget _).eq opened]
  | unset opened read set =>
      rw [hcalls.release, (hcalls.setStatusFlags _ _).eq set, (hcalls.statusFlags _).eq read,
        (hcalls.openTarget _).eq opened]
  | inPlace opened read set =>
      rw [(hcalls.setStatusFlags _ _).eq set, (hcalls.statusFlags _).eq read,
        (hcalls.openTarget _).eq opened]
  | unmoved opened read set elsewhere moved =>
      rw [hcalls.close, (hcalls.duplicate _ _).eq moved, (hcalls.setStatusFlags _ _).eq set,
        (hcalls.statusFlags _).eq read, (hcalls.openTarget _).eq opened]
  | moved opened read set elsewhere moved =>
      rw [hcalls.close, (hcalls.duplicate _ _).eq moved, (hcalls.setStatusFlags _ _).eq set,
        (hcalls.statusFlags _).eq read, (hcalls.openTarget _).eq opened]

end DescriptorCalls

end LineShell
