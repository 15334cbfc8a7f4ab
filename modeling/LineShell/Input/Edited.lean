/-
**Lines from the editor.**

The editor that serves an interactive session takes a line as it was typed: without its line feed
and one carriage return before that, and with each backspace carried out.  The line must be UTF-8.
A line with more bytes than the limit is an error; it is passed over, and reading goes on.  A line
that is not blank enters the history.

Main definitions:

* `LineShell.Typist` — what was typed, and the history;
* `LineShell.Typist.nextLine` — the next line;
* `LineShell.editedLines` — the source of the lines.

Main results:

* `LineShell.Typist.size_nextLine_lt` — what was typed for a line is gone.
-/

import LineShell.Input.Feed
import LineShell.Input.History
import LineShell.Input.Source
import LineShell.Text.Cluster
import LineShell.Text.Whitespace

set_option autoImplicit false

namespace LineShell

/-- The state of the editor. -/
structure Typist where
  /-- What is typed. -/
  feed : Feed
  /-- The lines that were kept. -/
  history : History

namespace Typist

/-- A line of bytes as text, with each backspace carried out; `none` if it is not UTF-8. -/
def textOf (bs : Bytes) : Option String :=
  (Utf8.decode? (strictLineBody bs)).map fun s => String.ofList (Text.rubOut s.toList)

/-- The history after a line that was accepted: a blank line leaves no trace. -/
def remember (h : History) (line : String) : History :=
  if Text.isAllWhitespace line.toList then h else h.add line

/-- The next line. -/
def nextLine (limit : UInt64) (t : Typist) : InputItem × Typist :=
  match t.feed.line with
  | (.error cause, f) => (.error (.editor cause), { t with feed := f })
  | (.ok [], f) => (.ok none, { t with feed := f })
  | (.ok (b :: bs), f) =>
    match textOf (b :: bs) with
    | none => (.error (.editor .notUtf8), { t with feed := f })
    | some line =>
      if (Utf8.encode line).length ≤ limit.toNat then
        (.ok (some line), ⟨f, remember t.history line⟩)
      else (.error (.tooLong limit), { t with feed := f })

/-- What was typed for a line is gone. -/
theorem size_nextLine_lt {limit : UInt64} {t t' : Typist} {item : InputItem}
    (h : t.nextLine limit = (item, t')) (hlast : item.isLast = false) :
    t'.feed.size < t.feed.size := by
  unfold nextLine at h
  split at h
  · simp only [Prod.mk.injEq] at h
    simp [← h.1, InputItem.isLast, InputError.isRecoverable] at hlast
  · simp only [Prod.mk.injEq] at h
    simp [← h.1, InputItem.isLast] at hlast
  · next b bs f hline =>
    have hsize := Feed.size_lineWithin_add_le hline
    rw [List.length_cons] at hsize
    split at h
    · simp only [Prod.mk.injEq] at h
      simp [← h.1, InputItem.isLast, InputError.isRecoverable] at hlast
    split at h
    · simp only [Prod.mk.injEq] at h
      rw [← h.2]
      exact Nat.lt_of_lt_of_le (Nat.lt_add_of_pos_right (Nat.succ_pos _)) hsize
    · simp only [Prod.mk.injEq] at h
      rw [← h.2]
      exact Nat.lt_of_lt_of_le (Nat.lt_add_of_pos_right (Nat.succ_pos _)) hsize

end Typist

/-- The lines that are typed. -/
def editedLines (ω : Type) (limit : UInt64) : LineSource Typist ω where
  showsPrompt := true
  next _ t w := ((t.nextLine limit).1, (t.nextLine limit).2, w)
  bound t := t.feed.size
  bound_next _ _ _ h := Typist.size_nextLine_lt rfl h

end LineShell
