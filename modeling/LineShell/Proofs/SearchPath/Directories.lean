/-
**The directories of a search path.**

A search path is cut at its colons, and the empty segments name no directory.  Cutting looks at one
colon after the other, so a colon between two texts cuts what is on its left and what is on its right
apart: the directories of the whole are those of the one and then those of the other.  From this it
follows for any number of texts with colons between them, whatever they hold themselves.

Main definitions:

* `LineShell.SearchPath.written` — the directories that a text names.

Main results:

* `LineShell.SearchPath.segments_eq_splitOn` — the segments are what the list is split into at its
  colons;
* `LineShell.SearchPath.directories_parse` — the directories of a search path are those that its text
  names;
* `LineShell.SearchPath.written_append`, `LineShell.SearchPath.written_intercalate` — **a colon
  between two texts, and colons between any number of them**;
* `LineShell.SearchPath.flatMap_written_filter` — empty texts make no difference.
-/

import LineShell.SearchPath
import Mathlib.Data.List.Basic

set_option autoImplicit false

namespace LineShell.SearchPath

/-- The directories that a text names: what is between its colons, where that is not empty. -/
def written (text : String) : List String :=
  ((text.toList.splitOn ':').filter (· ≠ [])).map String.ofList

theorem segments_eq_splitOn (cs : List Char) : segments cs = cs.splitOn ':' := by
  induction cs with
  | nil => rfl
  | cons c cs ih =>
      rw [List.splitOn, List.splitOnP_cons_eq_if_modifyHead, ← List.splitOn, ← ih]
      by_cases hc : c = ':'
      · rw [hc, segments_colon]
        rfl
      · rw [segments_cons_of_ne hc, if_neg (by simpa using hc)]
        obtain ⟨piece, pieces, hpieces⟩ := List.exists_cons_of_ne_nil (segments_ne_nil cs)
        rw [hpieces]
        rfl

/-- **The directories of a search path are those that its text names.** -/
theorem directories_parse (text : Option String) :
    (parse text).directories = written (text.getD "") := by
  have htest : (fun cs : List Char => !cs.isEmpty) = fun cs => decide (cs ≠ []) := by
    funext cs
    cases cs <;> rfl
  rw [parse, written, segments_eq_splitOn, htest]

theorem written_empty : written "" = [] := rfl

/-- **A colon between two texts** ends the directories of the one, and those of the other follow. -/
theorem written_append (a b : String) : written (a ++ ":" ++ b) = written a ++ written b := by
  have hsplit : (a ++ ":" ++ b).toList.splitOn ':' =
      a.toList.splitOn ':' ++ b.toList.splitOn ':' := by
    rw [← List.splitOn_append_cons_self, String.toList_append, String.toList_append,
      List.append_assoc]
    rfl
  rw [written, hsplit, List.filter_append, List.map_append]
  rfl

/-- **Colons between any number of texts**, which may hold colons themselves. -/
theorem written_intercalate (texts : List String) :
    written (":".intercalate texts) = texts.flatMap written := by
  induction texts with
  | nil => rfl
  | cons text texts ih =>
      cases texts with
      | nil => simp
      | cons next texts =>
          rw [String.intercalate_cons_cons, written_append, ih]
          rfl

/-- Texts that are empty name no directory. -/
theorem flatMap_written_filter (texts : List String) :
    (texts.filter (· ≠ "")).flatMap written = texts.flatMap written := by
  induction texts with
  | nil => rfl
  | cons text texts ih =>
      by_cases htext : text = ""
      · rw [List.filter_cons_of_neg (by simpa using htext), ih, List.flatMap_cons, htext,
          written_empty, List.nil_append]
      · rw [List.filter_cons_of_pos (by simpa using htext), List.flatMap_cons, List.flatMap_cons,
          ih]

end LineShell.SearchPath
