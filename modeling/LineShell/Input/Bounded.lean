/-
**Lines of limited length.**

A line of a script is taken without its line feed and without one carriage return before that.  A
line of more bytes than the limit is an error, and the whole of it is passed over.  To know a line
that is too long the reader never takes more than two bytes beyond the limit, room for the two bytes
that may end a line.  This window is a number of 64 bits: under a limit that leaves no room for it
the addition breaks the program off, before anything is read.

Main definitions:

* `LineShell.lineWindow` — the window of a limit, if it has one;
* `LineShell.boundedLine` — the next line of a feed;
* `LineShell.boundedLines` — the source of a feed's lines.

Main results:

* `LineShell.lineWindow_eq_some`, `LineShell.lineWindow_eq_none` — which limits have a window;
* `LineShell.size_boundedLine_lt` — what was read for a line is gone.
-/

import LineShell.Input.Feed
import LineShell.Input.Line
import LineShell.Input.Source

set_option autoImplicit false

namespace LineShell

/-- The line limit of a session that sets none. -/
def defaultLineLimit : UInt64 := 4096

/-- The number of bytes that are taken to see whether a line is too long; none, if it does not fit
into 64 bits. -/
def lineWindow (limit : UInt64) : Option Nat :=
  if limit.toNat + 2 < UInt64.size then some (limit.toNat + 2) else none

theorem lineWindow_eq_some {limit : UInt64} (h : limit.toNat + 2 < UInt64.size) :
    lineWindow limit = some (limit.toNat + 2) := if_pos h

theorem lineWindow_eq_none {limit : UInt64} (h : UInt64.size ≤ limit.toNat + 2) :
    lineWindow limit = none := if_neg (Nat.not_lt.2 h)

/-- The answer for a line that is too long, by how passing over its rest went. -/
def skipAnswer (limit : UInt64) : Except IoError Unit → InputItem
  | .error cause => .error (.read cause)
  | .ok () => .error (.tooLong limit)

/-- The next line of a feed, by what a window of bytes shows; the rest of a line that is too long is
passed over. -/
def windowedLine (limit : UInt64) (window : Nat) (f : Feed) : InputItem × Feed :=
  match f.lineWithin window with
  | (.error cause, f') => (.error (.read cause), f')
  | (.ok [], f') => (.ok none, f')
  | (.ok (b :: bs), f') =>
    if (lineBody (b :: bs)).length ≤ limit.toNat then
      (.ok (some (Utf8.decodeLossy (lineBody (b :: bs)))), f')
    else if isTerminated (b :: bs) then (.error (.tooLong limit), f')
    else
      match f'.skipLine with
      | (skipped, f'') => (skipAnswer limit skipped, f'')

/-- The next line of a feed.  Without a window nothing is taken. -/
def boundedLine (limit : UInt64) (f : Feed) : InputItem × Feed :=
  match lineWindow limit with
  | none => (.error .overflow, f)
  | some window => windowedLine limit window f

theorem boundedLine_of_none {limit : UInt64} (h : lineWindow limit = none) (f : Feed) :
    boundedLine limit f = (.error .overflow, f) := by
  rw [boundedLine, h]

theorem boundedLine_of_some {limit : UInt64} {window : Nat} (h : lineWindow limit = some window)
    (f : Feed) : boundedLine limit f = windowedLine limit window f := by
  rw [boundedLine, h]

section

variable {limit : UInt64} {window : Nat} {f f' f'' : Feed} {bs : Bytes}

theorem windowedLine_of_error {cause : IoError}
    (h : f.lineWithin window = (.error cause, f')) :
    windowedLine limit window f = (.error (.read cause), f') := by
  rw [windowedLine, h]

theorem windowedLine_of_nil (h : f.lineWithin window = (.ok [], f')) :
    windowedLine limit window f = (.ok none, f') := by
  rw [windowedLine, h]

/-- A line within the limit. -/
theorem windowedLine_of_le (h : f.lineWithin window = (.ok bs, f')) (hne : bs ≠ [])
    (hle : (lineBody bs).length ≤ limit.toNat) :
    windowedLine limit window f = (.ok (some (Utf8.decodeLossy (lineBody bs))), f') := by
  obtain ⟨b, bs, rfl⟩ := List.exists_cons_of_ne_nil hne
  rw [windowedLine, h]
  simp only [if_pos hle]

/-- A line that is too long and was read to its end. -/
theorem windowedLine_of_isTerminated (h : f.lineWithin window = (.ok bs, f'))
    (hlt : limit.toNat < (lineBody bs).length) (ht : isTerminated bs = true) :
    windowedLine limit window f = (.error (.tooLong limit), f') := by
  cases bs with
  | nil => simp [isTerminated] at ht
  | cons b bs =>
      rw [windowedLine, h]
      simp only [if_neg (Nat.not_le_of_lt hlt), ht, if_true]

/-- A line that is too long, and whose rest is passed over. -/
theorem windowedLine_of_skipLine {r : Except IoError Unit}
    (h : f.lineWithin window = (.ok bs, f'))
    (hlt : limit.toNat < (lineBody bs).length) (ht : isTerminated bs = false)
    (hs : f'.skipLine = (r, f'')) :
    windowedLine limit window f = (skipAnswer limit r, f'') := by
  cases bs with
  | nil => simp [lineBody, dropLastByte] at hlt
  | cons b bs =>
      rw [windowedLine, h]
      simp only [if_neg (Nat.not_le_of_lt hlt), ht, hs, Bool.false_eq_true, if_false]

end

/-- What was read of a feed for a line, in a window of any size, is gone. -/
theorem size_windowedLine_lt {limit : UInt64} {window : Nat} {f f' : Feed} {item : InputItem}
    (h : windowedLine limit window f = (item, f')) (hlast : item.isLast = false) :
    f'.size < f.size := by
  unfold windowedLine at h
  split at h
  · simp only [Prod.mk.injEq] at h
    simp [← h.1, InputItem.isLast, InputError.isRecoverable] at hlast
  · simp only [Prod.mk.injEq] at h
    simp [← h.1, InputItem.isLast] at hlast
  · next b bs f₁ hline =>
    have hsize := Feed.size_lineWithin_add_le hline
    rw [List.length_cons] at hsize
    have hskip := Feed.size_skipLine_le f₁
    split at h
    · simp only [Prod.mk.injEq] at h
      rw [← h.2]
      omega
    split at h
    · simp only [Prod.mk.injEq] at h
      rw [← h.2]
      omega
    · simp only [Prod.mk.injEq] at h
      rw [← h.2]
      exact Nat.lt_of_le_of_lt hskip (by omega)

/-- What was read of a feed for a line is gone. -/
theorem size_boundedLine_lt {limit : UInt64} {f f' : Feed} {item : InputItem}
    (h : boundedLine limit f = (item, f')) (hlast : item.isLast = false) : f'.size < f.size := by
  cases hw : lineWindow limit with
  | none =>
      rw [boundedLine_of_none hw] at h
      cases h
      cases hlast
  | some window =>
      rw [boundedLine_of_some hw] at h
      exact size_windowedLine_lt h hlast

/-- The lines of a feed. -/
def boundedLines (ω : Type) (limit : UInt64) : LineSource Feed ω where
  showsPrompt := false
  next _ f w := ((boundedLine limit f).1, (boundedLine limit f).2, w)
  bound := Feed.size
  bound_next _ _ _ h := size_boundedLine_lt rfl h

/-- The source looks neither at the prompt nor at its surroundings. -/
theorem next_boundedLines {ω : Type} {limit : UInt64} {f f' : Feed} {item : InputItem}
    (h : boundedLine limit f = (item, f')) (prompt : String) (w : ω) :
    (boundedLines ω limit).next prompt f w = (item, f', w) := by
  simp only [boundedLines, h]

end LineShell
