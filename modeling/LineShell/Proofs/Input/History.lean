/-
**What a history keeps of a run of lines.**

A history takes one line after the other, and what it does with a line hangs on the last one that it
keeps.  But that is always the line before: either that line was kept, or it was refused because it
was the same.  So what a run of lines adds can be said without going through it: the lines that differ
from the one before them.  And what is kept in the end are the newest of the entries that there were
and the lines that were added; it does not matter that the oldest were dropped one at a time.

A history that was read from a file to its end has nothing to save.  One whose file holds a line that
is not UTF-8 was read up to that line, and what was read then counts as not saved.

Main definitions:

* `LineShell.History.changes` — the lines that differ from the one before them;
* `LineShell.History.BreaksOff` — a file is read up to a line that is not UTF-8, and something before.

Main results:

* `LineShell.History.rtake_append` — dropping the oldest earlier makes no difference;
* `LineShell.History.foldl_add` — **what a run of lines leaves**;
* `LineShell.History.unsaved_load_iff` — what is not saved of a file that was just read.
-/

import LineShell.Input.History
import LineShell.Proofs.Text.Utf8
import Mathlib.Data.List.DropRight

set_option autoImplicit false

namespace LineShell.History

/-! ### A run of lines -/

/-- The lines that differ from the one before them, where `last` comes before the first. -/
def changes (last : Option String) : List String → List String
  | [] => []
  | line :: rest =>
    if last = some line then changes last rest else line :: changes (some line) rest

/-- Where the newest are kept in the end, dropping the oldest earlier makes no difference. -/
theorem rtake_append {α : Type} (n : Nat) (as bs : List α) :
    (as.rtake n ++ bs).rtake n = (as ++ bs).rtake n := by
  have hdrop : as.drop (as.length - n) ++ bs = (as ++ bs).drop (as.length - n) :=
    (List.drop_append_of_le_length (Nat.sub_le ..)).symm
  unfold List.rtake
  rw [hdrop, List.drop_drop, List.length_drop, List.length_append]
  congr 1
  omega

theorem rtake_eq_self {α : Type} {n : Nat} {as : List α} (h : as.length ≤ n) : as.rtake n = as := by
  rw [List.rtake, Nat.sub_eq_zero_of_le h, List.drop_zero]

section

variable {h : History} {line : String}

/-- The last entry again changes nothing. -/
theorem add_of_getLast? (hlast : h.entries.getLast? = some line) : h.add line = h :=
  if_pos (.inr hlast)

/-- Another line is kept, at the cost of the oldest entry if there is no room. -/
theorem add_of_ne (hle : h.entries.length ≤ capacity) (hne : line ≠ "")
    (hlast : h.entries.getLast? ≠ some line) :
    h.add line = ⟨(h.entries ++ [line]).rtake capacity, true⟩ := by
  rw [add, if_neg (not_or.2 ⟨hne, hlast⟩)]
  split
  · next hroom =>
    rw [rtake_eq_self]
    rw [List.length_append, List.length_singleton]
    exact hroom
  · next hfull =>
    have hlength : h.entries.length = capacity := Nat.le_antisymm hle (Nat.le_of_not_lt hfull)
    have hdrop : (h.entries ++ [line]).length - capacity = 1 := by
      rw [List.length_append, List.length_singleton, hlength, Nat.add_sub_cancel_left]
    have hentries : h.entries ≠ [] := by
      intro hnil
      rw [hnil] at hlength
      cases hlength
    rw [List.rtake, hdrop, List.drop_one, List.tail_append_of_ne_nil hentries]

theorem getLast?_rtake_concat (entries : List String) (line : String) :
    ((entries ++ [line]).rtake capacity).getLast? = some line := by
  have hle : (entries ++ [line]).length - capacity ≤ entries.length := by
    rw [List.length_append, List.length_singleton, capacity]
    omega
  rw [List.rtake, List.drop_append_of_le_length hle, List.getLast?_concat]

theorem length_rtake_le {α : Type} (n : Nat) (as : List α) : (as.rtake n).length ≤ n := by
  rw [List.rtake, List.length_drop]
  omega

/-- **What a run of lines leaves**: of the old entries and of the lines that differ from the one before
them, the newest.  If there is no such line, nothing new is there to save. -/
theorem foldl_add (hle : h.entries.length ≤ capacity) {lines : List String}
    (hlines : ∀ line ∈ lines, line ≠ "") :
    lines.foldl add h =
      ⟨(h.entries ++ changes h.entries.getLast? lines).rtake capacity,
        h.unsaved || !(changes h.entries.getLast? lines).isEmpty⟩ := by
  induction lines generalizing h with
  | nil => simp [changes, rtake_eq_self hle]
  | cons line rest ih =>
      have hrest : ∀ line ∈ rest, line ≠ "" := fun l hl => hlines l (List.mem_cons_of_mem _ hl)
      rw [List.foldl_cons]
      by_cases hlast : h.entries.getLast? = some line
      · rw [add_of_getLast? hlast, ih hle hrest, changes, if_pos hlast]
      · have hne : line ≠ "" := hlines line (List.mem_cons_self ..)
        rw [add_of_ne hle hne hlast, ih (length_rtake_le _ _) hrest]
        dsimp only
        rw [getLast?_rtake_concat, rtake_append, changes, if_neg hlast, List.append_assoc]
        simp

end

/-- What differs from the line before it is among the lines. -/
theorem mem_of_mem_changes {last : Option String} {lines : List String} {line : String}
    (h : line ∈ changes last lines) : line ∈ lines := by
  induction lines generalizing last with
  | nil => cases h
  | cons first rest ih =>
      rw [changes] at h
      split at h
      · exact List.mem_cons_of_mem _ (ih h)
      · rcases List.mem_cons.1 h with rfl | h
        · exact List.mem_cons_self ..
        · exact List.mem_cons_of_mem _ (ih h)

/-! ### Files -/

theorem length_entries_addLines_le (entry : String → String) {h : History}
    (hle : h.entries.length ≤ capacity) (lines : List Bytes) :
    (addLines entry h lines).entries.length ≤ capacity := by
  induction lines generalizing h with
  | nil => exact hle
  | cons line rest ih =>
      rw [addLines]
      split
      · exact hle
      · exact ih (add_entries_length_le hle _)

/-- A history that was read from a file keeps to its capacity. -/
theorem length_entries_load_le (content : Bytes) : (load content).entries.length ≤ capacity := by
  unfold load
  split
  · exact Nat.zero_le _
  · split <;> exact length_entries_addLines_le _ (Nat.zero_le _) _

/-- Some line of a file is not UTF-8, and reading it ends there; something was kept before. -/
def BreaksOff (content : Bytes) : Prop :=
  (load content).entries ≠ [] ∧
    ∃ line ∈ rawLines content, Utf8.decode? (strictLineBody line) = none

/-- What is not saved while nothing was loaded before is what was added. -/
theorem unsaved_add_iff {h : History} (hnew : h.unsaved = true ↔ h.entries ≠ []) (line : String) :
    (h.add line).unsaved = true ↔ (h.add line).entries ≠ [] := by
  unfold add
  split
  · exact hnew
  split
  · simp
  · simp

theorem unsaved_addLines_iff (entry : String → String) {h : History}
    (hnew : h.unsaved = true ↔ h.entries ≠ []) (lines : List Bytes) :
    (addLines entry h lines).unsaved = true ↔
      (addLines entry h lines).entries ≠ [] ∧ ∃ line ∈ lines, Utf8.decode? line = none := by
  induction lines generalizing h with
  | nil => simp [addLines]
  | cons line rest ih =>
      cases htext : Utf8.decode? line with
      | none => simp only [addLines, htext, hnew, List.mem_cons, exists_eq_or_imp, true_or, and_true]
      | some text =>
          simp only [addLines, htext, ih (unsaved_add_iff hnew _), List.mem_cons, exists_eq_or_imp,
            reduceCtorEq, false_or]

/-- **What is not saved of a file that was just read**: all that was kept, if reading broke off. -/
theorem unsaved_load_iff (content : Bytes) :
    (load content).unsaved = true ↔ BreaksOff content := by
  have hempty : empty.unsaved = true ↔ empty.entries ≠ [] := by simp [empty]
  have hmap : (∃ line ∈ rawLines content, Utf8.decode? (strictLineBody line) = none) ↔
      ∃ line ∈ (rawLines content).map strictLineBody, Utf8.decode? line = none := by simp
  rw [BreaksOff, hmap, load]
  cases hlines : (rawLines content).map strictLineBody with
  | nil => simp [empty]
  | cons first rest =>
      dsimp only
      split
      · next hheading =>
        -- the heading itself can be read
        rw [unsaved_addLines_iff _ hempty, hheading]
        simp only [List.mem_cons, exists_eq_or_imp, Utf8.decode?_encode, reduceCtorEq, false_or]
      · exact unsaved_addLines_iff _ hempty _

end LineShell.History
