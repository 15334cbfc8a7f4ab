/-
**Signals.**

The standard signals are numbered 1 to 31 and have names; the numbers up to 64 are real-time
signals without a name of their own.

Main definitions:

* `LineShell.Signal` — a standard signal;
* `LineShell.Signal.ofNumber?` — the signal of a number, if it is a standard one;
* `LineShell.Signal.name` — its name.

Main results:

* `LineShell.Signal.ofNumber?_eq_some_iff` — exactly the numbers 1 to 31 are standard signals.
-/

set_option autoImplicit false

namespace LineShell

/-- A standard signal, by its number. -/
structure Signal where
  /-- The number of the signal. -/
  number : Nat
  /-- Standard signals are numbered from one. -/
  one_le : 1 ≤ number
  /-- Standard signals end at 31. -/
  le_max : number ≤ 31
deriving DecidableEq

namespace Signal

/-- The standard signal of a number. -/
def ofNumber? (n : Int) : Option Signal :=
  if h : 1 ≤ n.toNat ∧ n.toNat ≤ 31 then some ⟨n.toNat, h.1, h.2⟩ else none

theorem ofNumber?_eq_some_iff (n : Int) (s : Signal) :
    ofNumber? n = some s ↔ n = s.number := by
  obtain ⟨k, h1, h2⟩ := s
  unfold ofNumber?
  split
  · simp only [Option.some.injEq, Signal.mk.injEq]
    omega
  · simp only [reduceCtorEq, false_iff]
    omega

/-- The names of the standard signals, from number 1 on. -/
def names : List String :=
  ["HUP", "INT", "QUIT", "ILL", "TRAP", "ABRT", "BUS", "FPE", "KILL", "USR1", "SEGV", "USR2",
   "PIPE", "ALRM", "TERM", "STKFLT", "CHLD", "CONT", "STOP", "TSTP", "TTIN", "TTOU", "URG", "XCPU",
   "XFSZ", "VTALRM", "PROF", "WINCH", "IO", "PWR", "SYS"]

/-- The name of a signal, such as `SIGTERM`. -/
def name (s : Signal) : String := "SIG" ++ names.getD (s.number - 1) ""

/-- The interrupt that the terminal's interrupt key sends. -/
def interrupt : Signal := ⟨2, by decide, by decide⟩

/-- The signal that the terminal's quit key sends. -/
def quit : Signal := ⟨3, by decide, by decide⟩

/-- The signal of a write that nobody reads. -/
def pipe : Signal := ⟨13, by decide, by decide⟩

/-- What a process that does not catch a signal does with it. -/
inductive Effect where
  /-- The process ends. -/
  | ends
  /-- Nothing happens. -/
  | ignored

/-- The effect of the signal of a number on a process that does not catch it: `CHLD`, `CONT`, `URG`
and `WINCH` are ignored, as is the number 0, which only asks whether the process exists; stopping
signals are taken to be followed by a continuation at once. -/
def defaultEffect (n : Nat) : Effect :=
  if n = 0 ∨ n ∈ [17, 18, 19, 20, 21, 22, 23, 28] then .ignored else .ends

end Signal

end LineShell
