/-
**Where lines come from.**

A session asks for one line after the other.  It gets a line, or learns that there are no more, or
gets an error: a line that is too long is passed over and the session goes on, a failure of reading
ends it.  Where the source has to compute a number that does not fit into 64 bits there is no answer
at all: the program is broken off, and nothing goes on.  A source may look at the session's
surroundings, and change them, while it reads.

A source has an end: each answer that does not end it brings the end nearer.  A source whose end
depends on its surroundings is counted out, so that it ends in any case.

Main definitions:

* `LineShell.InputError` — why there is no line, with its wording;
* `LineShell.LineSource` — the source of a session's lines;
* `LineShell.LineSource.counted` — a source that ends after so many answers;
* `LineShell.LineSource.items` — all that a source gives in a row.

Main results:

* `LineShell.LineSource.items_of_isLast`, `LineShell.LineSource.items_of_not_isLast` — the answers
  of a source, one at a time.
-/

import LineShell.Errno

set_option autoImplicit false

namespace LineShell

/-- Why there is no line. -/
inductive InputError where
  /-- The line has more bytes than the limit. -/
  | tooLong (limit : UInt64)
  /-- Reading failed. -/
  | read (cause : IoError)
  /-- Reading failed in the line editor. -/
  | editor (cause : IoError)
  /-- A sum that the reader needs does not fit into 64 bits; the program is broken off. -/
  | overflow
deriving DecidableEq

namespace InputError

/-- The wording of the error. -/
def message : InputError → String
  | .tooLong limit => "input line longer than " ++ toString limit.toNat ++ " bytes ignored"
  | .read cause => "read error: " ++ cause.message
  | .editor cause => "readline error: " ++ cause.message
  | .overflow => "attempt to add with overflow"

/-- Whether a session can go on reading after the error. -/
def isRecoverable : InputError → Bool
  | .tooLong _ => true
  | _ => false

end InputError

/-- An answer of a source: a line, no more lines, or an error. -/
abbrev InputItem := Except InputError (Option String)

/-- Whether a source is asked again after an answer. -/
def InputItem.isLast : InputItem → Bool
  | .ok (some _) => false
  | .ok none => true
  | .error e => !e.isRecoverable

/-- A source of lines, with a state `σ` of its own, in surroundings with a state `ω`. -/
structure LineSource (σ ω : Type) where
  /-- Whether the source shows the prompt itself. -/
  showsPrompt : Bool
  /-- The next line, for a prompt. -/
  next : String → σ → ω → InputItem × σ × ω
  /-- How far the end is, at most. -/
  bound : σ → Nat
  /-- Each answer but the last brings the end nearer. -/
  bound_next : ∀ (prompt : String) (s : σ) (w : ω),
    (next prompt s w).1.isLast = false → bound (next prompt s w).2.1 < bound s

namespace LineSource

variable {σ ω : Type}

/-- A source that ends after so many answers, whatever its surroundings do; its state counts those
that are left. -/
def counted (showsPrompt : Bool) (next : String → σ → ω → InputItem × σ × ω) :
    LineSource (Nat × σ) ω where
  showsPrompt := showsPrompt
  next
    | _, (0, s), w => (.ok none, (0, s), w)
    | prompt, (n + 1, s), w =>
      match next prompt s w with
      | (item, s', w') => (item, (n, s'), w')
  bound s := s.1
  bound_next := by
    rintro prompt ⟨n, s⟩ w h
    cases n with
    | zero => simp [InputItem.isLast] at h
    | succ n => exact Nat.lt_succ_self n

/-- All answers of a source up to the last one, without a prompt. -/
def items (source : LineSource σ ω) (s : σ) (w : ω) : List InputItem × σ × ω :=
  match _asked : source.next "" s w with
  | (item, s', w') =>
    if _last : item.isLast then ([item], s', w')
    else
      match source.items s' w' with
      | (items, s'', w'') => (item :: items, s'', w'')
termination_by source.bound s
decreasing_by
  have h := source.bound_next "" s w
  rw [_asked] at h
  exact h (Bool.eq_false_iff.2 _last)

variable {source : LineSource σ ω}

theorem items_of_isLast {item : InputItem} {s s' : σ} {w w' : ω}
    (h : source.next "" s w = (item, s', w')) (hlast : item.isLast = true) :
    source.items s w = ([item], s', w') := by
  rw [items, h]
  simp [hlast]

theorem items_of_not_isLast {item : InputItem} {s s' : σ} {w w' : ω}
    (h : source.next "" s w = (item, s', w')) (hlast : item.isLast = false) :
    source.items s w =
      (item :: (source.items s' w').1, (source.items s' w').2.1, (source.items s' w').2.2) := by
  rw [items, h]
  simp [hlast]

end LineSource

end LineShell
