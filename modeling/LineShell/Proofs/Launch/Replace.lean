/-
**What a redirection does to the descriptors.**

A redirection opens one file more, and what has to be shown is what becomes of the descriptor that
the opening returned: left open it would be handed on to the program, and closed when it is the
stream's own it would take the redirection along.

Until the file is put in its place the table is the one before, with the new file beside it.  From
there closing the new descriptor gives back the table before; and if it is the stream's own, the
stream had no file.

Main results:

* `LineShell.DescriptorCalls.Rebinds.of_error`, `LineShell.DescriptorCalls.Rebinds.of_ok` — the
  table after a redirection that failed, and after one that did not;
* `LineShell.DescriptorCalls.rebind_exact` — **a redirection changes its stream and nothing else**.
-/

import LineShell.Proofs.Launch.Rebind
import LineShell.Proofs.Machine.Descriptors

set_option autoImplicit false

namespace LineShell

namespace DescriptorCalls

variable {ω φ : Type} [DecidableEq φ] {calls : DescriptorCalls ω}
  {table : ω → DescriptorTable φ} {sound : ω → Prop} {redirection : Redirection} {target : Nat}
  {w w' : ω}

/-- A redirection that failed either opened nothing, or it has let go of what it opened. -/
theorem Rebinds.of_error (hcalls : calls.WorkOn table sound) (hsound : sound w)
    {cause : RebindError} (h : calls.Rebinds redirection target w (.error cause) w') :
    table w' = table w ∨
      ∃ descriptor file w₁, (table w).Beside (table w₁) descriptor file ∧
        w' = calls.release descriptor target w₁ := by
  cases h with
  | unopened opened => exact .inl (hcalls.unopened opened)
  | unread opened read =>
      obtain ⟨file, hbeside⟩ := hcalls.beside_opened hsound opened
      rw [← hcalls.unread read] at hbeside
      exact .inr ⟨_, file, _, hbeside, rfl⟩
  | unset opened read set =>
      obtain ⟨file, hbeside⟩ := hcalls.beside_opened hsound opened
      rw [← (hcalls.read read).1] at hbeside
      exact .inr ⟨_, file, _, hcalls.beside_unset hbeside set, rfl⟩
  | unmoved opened read set elsewhere moved =>
      obtain ⟨file, hbeside⟩ := hcalls.beside_opened hsound opened
      have hcleared := hcalls.beside_cleared hbeside read set
      rw [← hcalls.unmoved moved] at hcleared
      exact .inr ⟨_, file, _, hcleared, (if_neg elsewhere).symm⟩

/-- A redirection that did not fail has told the file that it opened to wait, and has moved it to
the stream unless it was there. -/
theorem Rebinds.of_ok (hcalls : calls.WorkOn table sound) (hsound : sound w)
    (h : calls.Rebinds redirection target w (.ok ()) w') :
    ∃ descriptor file w₁, calls.openTarget redirection w = (.ok descriptor, w₁) ∧
      (table w).Beside (table w₁) descriptor file ∧
      let told := (table w₁).setFlags file ((table w₁).flags file).waiting
      table w' =
        if descriptor = target then told else (told.bind target file).close descriptor := by
  cases h with
  | inPlace opened read set =>
      obtain ⟨file, hbeside⟩ := hcalls.beside_opened hsound opened
      have hcleared := hcalls.table_cleared hbeside.here read set
      exact ⟨_, file, _, opened, hbeside, hcleared.trans (if_pos rfl).symm⟩
  | moved opened read set elsewhere moved =>
      obtain ⟨file, hbeside⟩ := hcalls.beside_opened hsound opened
      have hcleared := hcalls.table_cleared hbeside.here read set
      obtain ⟨file', hfile, hmoved⟩ := hcalls.moved moved
      rw [hcleared] at hfile hmoved
      obtain rfl : file = file' := Option.some.inj (hbeside.here.symm.trans hfile)
      refine ⟨_, file, _, opened, hbeside, ?_⟩
      rw [hcalls.closed, hmoved]
      exact (if_neg elsewhere).symm

/-- Letting go of a new file leaves all but the stream as before. -/
theorem WorkOn.entry_release_of_ne (hcalls : calls.WorkOn table sound) {d descriptor : Nat}
    {before : DescriptorTable φ} {file : φ} (h : before.Beside (table w) descriptor file)
    (hne : d ≠ target) :
    (table (calls.release descriptor target w)).entry d = before.entry d := by
  rw [release]
  split
  · next hself => exact h.elsewhere d (hself ▸ hne)
  · rw [hcalls.closed, h.entry_close]

/-- **A redirection changes its stream and nothing else**, whichever of its calls fail, and with
whatever.

No other descriptor refers to another file or to one with other settings afterwards.  If all went
well, the stream refers to the file that was opened, a new one, which is told to wait, whether or
not the opening returned the stream's own descriptor.  If anything failed, a stream that was open
refers to what it did before, too. -/
theorem rebind_exact (hcalls : calls.WorkOn table sound) (redirection : Redirection) (target : Nat)
    {w : ω} (hsound : sound w) :
    let answer := calls.rebind redirection target w
    (∀ d, d ≠ target → (table answer.2).entry d = (table w).entry d) ∧
      (answer.1 = .ok () → ∃ descriptor file w₁,
        calls.openTarget redirection w = (.ok descriptor, w₁) ∧
          (table w).Beside (table w₁) descriptor file ∧
          (table answer.2).entry target = some (file, ((table w₁).flags file).waiting)) ∧
      (∀ cause, answer.1 = .error cause → (table w).file target ≠ none →
        ∀ d, (table answer.2).entry d = (table w).entry d) := by
  intro answer
  obtain ⟨r, w', h⟩ := exists_rebinds calls redirection target w
  have hanswer : answer = (r, w') := h.rebind_eq
  rw [hanswer]
  cases r with
  | error cause =>
      rcases h.of_error hcalls hsound with hsame | ⟨descriptor, file, w₁, hbeside, rfl⟩
      · rw [hsame]
        exact ⟨fun _ _ => rfl, by simp, fun _ _ _ _ => rfl⟩
      · refine ⟨fun d => hcalls.entry_release_of_ne hbeside, by simp, fun _ _ hopen d => ?_⟩
        -- a stream that was open is not the descriptor of the new file, so that one is closed
        rw [release, if_neg (hbeside.ne_of_file hopen), hcalls.closed, hbeside.entry_close]
  | ok _ =>
      obtain ⟨descriptor, file, w₁, opened, hbeside, htable⟩ := h.of_ok hcalls hsound
      have htold := hbeside.setFlags ((table w₁).flags file).waiting
      rw [htable]
      refine ⟨fun d hne => ?_, fun _ => ⟨descriptor, file, w₁, opened, hbeside, ?_⟩, by simp⟩
      · split
        · next hself => exact htold.elsewhere d (hself ▸ hne)
        · exact htold.entry_move_of_ne hne
      · split
        · next hself =>
          subst hself
          exact DescriptorTable.entry_setFlags_self hbeside.here _
        · next elsewhere =>
          rw [DescriptorTable.entry_move_self elsewhere, DescriptorTable.flags_setFlags_self]

/-- A machine whose standard input is put in its own place once more: the opening returns
descriptor 3, which is closed again. -/
theorem rebind_exact_stdin :
    let m := Machine.boot ⟨#[.directory [] 0]⟩ .null [] Machine.FileTree.root
    let redirection : Redirection := ⟨.input, Utf8.encode "/dev/stdin", by decide⟩
    let answer := Machine.descriptorCalls.rebind redirection 0 m
    Machine.descriptorCalls.WorkOn Machine.State.table Machine.State.HasFiles ∧ m.HasFiles ∧
      answer.1 = .ok () ∧ (∀ d, d ≠ 0 → answer.2.table.entry d = m.table.entry d) ∧
      answer.2.table.entry 0 = some (3, ⟨false⟩) ∧ answer.2.table.entry 3 = none := by
  intro m redirection answer
  have hfiles : m.HasFiles := Machine.hasFiles_boot _ _ _ _
  have hok : answer.1 = .ok () := rfl
  obtain ⟨hothers, hstream, -⟩ :=
    rebind_exact Machine.descriptorCalls_workOn redirection 0 hfiles
  obtain ⟨descriptor, file, m₁, opened, hbeside, hentry⟩ := hstream hok
  have hopened : Machine.descriptorCalls.openTarget redirection m = (.ok 3, _) := rfl
  cases hopened.symm.trans opened
  obtain rfl : 3 = file := Option.some.inj hbeside.here
  exact ⟨Machine.descriptorCalls_workOn, hfiles, hok, hothers, hentry, hothers 3 (by decide)⟩

end DescriptorCalls

end LineShell
