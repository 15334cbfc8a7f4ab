/-
**Tables of descriptors.**

A descriptor refers to an open file or is free, and an open file has settings, which all of its
descriptors share.  Four calls and the closing of a descriptor work on such a table.  Nothing is
asked of them but what they do to it: they may fail at any time and with anything, and a file whose
settings cannot be changed may be left with other settings.

A file that was just opened stands *beside* the table before: nothing else refers to it, so neither
its settings nor its descriptor's closing can be told by any other descriptor.  The calls keep it
there, whether they fail or not.

Main definitions:

* `LineShell.DescriptorTable` — the open files and their settings;
* `LineShell.DescriptorTable.Beside` — **the table before, with a new file beside it**;
* `LineShell.DescriptorCalls.WorkOn` — what the calls do to a table.

Main results:

* `LineShell.DescriptorTable.Beside.entry_close` — closing the new descriptor gives back the table
  before;
* `LineShell.DescriptorTable.Beside.entry_move_of_ne` — so it does when the file was put in another
  place, but for that place;
* `LineShell.DescriptorCalls.WorkOn.beside_opened`, `LineShell.DescriptorCalls.WorkOn.beside_unset`,
  `LineShell.DescriptorCalls.WorkOn.beside_cleared` — the calls put a new file beside the others and
  keep it there.
-/

import LineShell.Launch.Rebind
import Mathlib.Logic.Function.Basic

set_option autoImplicit false

namespace LineShell

/-! ### Tables of descriptors -/

/-- The descriptors of a process and its open files. -/
structure DescriptorTable (φ : Type) where
  /-- The open file that a descriptor refers to; there is none if the descriptor is free. -/
  file : Nat → Option φ
  /-- The settings of an open file. -/
  flags : φ → StatusFlags

/-- The settings of a file whose calls wait. -/
def StatusFlags.waiting (flags : StatusFlags) : StatusFlags := { flags with nonblocking := false }

namespace DescriptorTable

variable {φ : Type}

/-- All that there is to a descriptor: the open file that it refers to, with its settings. -/
def entry (t : DescriptorTable φ) (descriptor : Nat) : Option (φ × StatusFlags) :=
  (t.file descriptor).map fun file => (file, t.flags file)

/-- The table where a descriptor refers to an open file. -/
def bind (t : DescriptorTable φ) (descriptor : Nat) (file : φ) : DescriptorTable φ :=
  { t with file := Function.update t.file descriptor (some file) }

/-- The table where a descriptor is free. -/
def close (t : DescriptorTable φ) (descriptor : Nat) : DescriptorTable φ :=
  { t with file := Function.update t.file descriptor none }

variable {t before now : DescriptorTable φ} {d descriptor target : Nat} {file : φ}

theorem entry_of_file (h : t.file d = some file) : t.entry d = some (file, t.flags file) := by
  rw [entry, h]
  rfl

theorem entry_of_free (h : t.file d = none) : t.entry d = none := by
  rw [entry, h]
  rfl

theorem file_eq_of_entry_eq (h : now.entry d = before.entry d) : now.file d = before.file d := by
  have hfile : ∀ t : DescriptorTable φ, t.file d = (t.entry d).map Prod.fst := by
    intro t
    rw [entry, Option.map_map]
    exact Option.map_id'.symm
  rw [hfile, hfile, h]

theorem file_bind_self : (t.bind descriptor file).file descriptor = some file :=
  Function.update_self ..

theorem entry_bind_of_ne (h : d ≠ descriptor) : (t.bind descriptor file).entry d = t.entry d := by
  simp only [entry, bind, Function.update_of_ne h]

theorem entry_close_self : (t.close descriptor).entry descriptor = none :=
  entry_of_free (Function.update_self ..)

theorem entry_close_of_ne (h : d ≠ descriptor) : (t.close descriptor).entry d = t.entry d := by
  simp only [entry, close, Function.update_of_ne h]

/-- The place that a file was put in refers to it, also when the descriptor that it came from is
closed. -/
theorem entry_move_self (hne : descriptor ≠ target) :
    ((t.bind target file).close descriptor).entry target = some (file, t.flags file) := by
  rw [entry_close_of_ne hne.symm, entry_of_file file_bind_self]
  rfl

/-! ### A new file beside the others -/

/-- The table `now` is the one `before`, with a new file at a descriptor that was free. -/
structure Beside (before now : DescriptorTable φ) (descriptor : Nat) (file : φ) : Prop where
  /-- The descriptor was free. -/
  free : before.file descriptor = none
  /-- No descriptor referred to the file. -/
  new : ∀ d, before.file d ≠ some file
  /-- Now the descriptor refers to the file. -/
  here : now.file descriptor = some file
  /-- All other descriptors are as they were. -/
  elsewhere : ∀ d, d ≠ descriptor → now.entry d = before.entry d

namespace Beside

variable (h : before.Beside now descriptor file)

include h

/-- A descriptor that was not free is another one. -/
theorem ne_of_file (hopen : before.file target ≠ none) : descriptor ≠ target := by
  rintro rfl
  exact hopen h.free

/-- Closing its descriptor gives back the table before. -/
theorem entry_close (d : Nat) : (now.close descriptor).entry d = before.entry d := by
  by_cases hself : d = descriptor
  · subst hself
    rw [entry_close_self, entry_of_free h.free]
  · rw [entry_close_of_ne hself, h.elsewhere d hself]

/-- Once it was put in another place, all but that place is as before. -/
theorem entry_move_of_ne (hne : d ≠ target) :
    ((now.bind target file).close descriptor).entry d = before.entry d := by
  rw [← h.entry_close d]
  by_cases hself : d = descriptor
  · subst hself
    rw [entry_close_self, entry_close_self]
  · rw [entry_close_of_ne hself, entry_close_of_ne hself, entry_bind_of_ne hne]

end Beside

/-! ### Settings -/

section

variable [DecidableEq φ]

/-- The table where an open file has other settings. -/
def setFlags (t : DescriptorTable φ) (file : φ) (flags : StatusFlags) : DescriptorTable φ :=
  { t with flags := Function.update t.flags file flags }

theorem flags_setFlags_self (flags : StatusFlags) : (t.setFlags file flags).flags file = flags :=
  Function.update_self ..

theorem entry_setFlags_self (h : t.file d = some file) (flags : StatusFlags) :
    (t.setFlags file flags).entry d = some (file, flags) := by
  have hfile : (t.setFlags file flags).file d = some file := h
  rw [entry_of_file hfile, flags_setFlags_self]

/-- Other settings of an open file are seen through its own descriptors only. -/
theorem entry_setFlags_of_ne (h : t.file d ≠ some file) (flags : StatusFlags) :
    (t.setFlags file flags).entry d = t.entry d := by
  have hsame : (t.setFlags file flags).file d = t.file d := rfl
  cases hfile : t.file d with
  | none => rw [entry_of_free hfile, entry_of_free (hsame.trans hfile)]
  | some file' =>
      have hne : file' ≠ file := fun heq => h (heq ▸ hfile)
      have hflags : (t.setFlags file flags).flags file' = t.flags file' :=
        Function.update_of_ne hne ..
      rw [entry_of_file hfile, entry_of_file (hsame.trans hfile), hflags]

/-- A file that is opened stands beside the others. -/
theorem beside_bind (free : t.file descriptor = none) (new : ∀ d, t.file d ≠ some file)
    (flags : StatusFlags) :
    t.Beside ((t.setFlags file flags).bind descriptor file) descriptor file where
  free := free
  new := new
  here := file_bind_self
  elsewhere d hne := by rw [entry_bind_of_ne hne, entry_setFlags_of_ne (new d)]

/-- It still does with other settings. -/
theorem Beside.setFlags (h : before.Beside now descriptor file) (flags : StatusFlags) :
    before.Beside (now.setFlags file flags) descriptor file where
  free := h.free
  new := h.new
  here := h.here
  elsewhere d hne := by
    -- no other descriptor refers to the file, so none can tell
    have hsame := h.elsewhere d hne
    have hnot : now.file d ≠ some file := by
      rw [file_eq_of_entry_eq hsame]
      exact h.new d
    rw [entry_setFlags_of_ne hnot, hsame]

end

end DescriptorTable

/-! ### The calls -/

namespace DescriptorCalls

variable {ω φ : Type} [DecidableEq φ]

/-- What the calls do to a table of descriptors, in surroundings that are sound.  Opening yields a
new file at a descriptor that was free, and what fails changes nothing, but for the settings of a
file that were to be changed. -/
structure WorkOn (calls : DescriptorCalls ω) (table : ω → DescriptorTable φ) (sound : ω → Prop) :
    Prop where
  /-- A file that is opened is a new one, and its descriptor was free. -/
  opened : ∀ {redirection : Redirection} {descriptor : Nat} {w w' : ω}, sound w →
    calls.openTarget redirection w = (.ok descriptor, w') →
    ∃ file flags, (table w).file descriptor = none ∧ (∀ d, (table w).file d ≠ some file) ∧
      table w' = ((table w).setFlags file flags).bind descriptor file
  /-- What cannot be opened is not. -/
  unopened : ∀ {redirection : Redirection} {e : Errno} {w w' : ω},
    calls.openTarget redirection w = (.error e, w') → table w' = table w
  /-- The settings that are read are those of the descriptor's file. -/
  read : ∀ {descriptor : Nat} {flags : StatusFlags} {w w' : ω},
    calls.statusFlags descriptor w = (.ok flags, w') →
    table w' = table w ∧
      ∀ file, (table w).file descriptor = some file → (table w).flags file = flags
  /-- Asking for them changes nothing. -/
  unread : ∀ {descriptor : Nat} {e : Errno} {w w' : ω},
    calls.statusFlags descriptor w = (.error e, w') → table w' = table w
  /-- The settings are changed for the descriptor's file. -/
  set : ∀ {descriptor : Nat} {flags : StatusFlags} {w w' : ω},
    calls.setStatusFlags descriptor flags w = (.ok (), w') →
    ∃ file, (table w).file descriptor = some file ∧ table w' = (table w).setFlags file flags
  /-- When that fails, no other file has other settings. -/
  unset : ∀ {descriptor : Nat} {flags : StatusFlags} {e : Errno} {w w' : ω},
    calls.setStatusFlags descriptor flags w = (.error e, w') →
    table w' = table w ∨ ∃ file flags', (table w).file descriptor = some file ∧
      table w' = (table w).setFlags file flags'
  /-- A descriptor is made to refer to another one's file. -/
  moved : ∀ {descriptor target : Nat} {w w' : ω},
    calls.duplicate descriptor target w = (.ok (), w') →
    ∃ file, (table w).file descriptor = some file ∧ table w' = (table w).bind target file
  /-- When that fails, it refers to what it did. -/
  unmoved : ∀ {descriptor target : Nat} {e : Errno} {w w' : ω},
    calls.duplicate descriptor target w = (.error e, w') → table w' = table w
  /-- A descriptor that is closed is free. -/
  closed : ∀ descriptor w, table (calls.close descriptor w) = (table w).close descriptor

namespace WorkOn

variable {calls : DescriptorCalls ω} {table : ω → DescriptorTable φ} {sound : ω → Prop}
  {before : DescriptorTable φ} {redirection : Redirection} {descriptor target : Nat} {file : φ}
  {w w₁ w₂ w₃ : ω} (hcalls : calls.WorkOn table sound)

include hcalls

theorem beside_opened (hsound : sound w)
    (opened : calls.openTarget redirection w = (.ok descriptor, w₁)) :
    ∃ file, (table w).Beside (table w₁) descriptor file := by
  obtain ⟨file, flags, free, new, htable⟩ := hcalls.opened hsound opened
  rw [htable]
  exact ⟨file, DescriptorTable.beside_bind free new flags⟩

theorem beside_unset (h : before.Beside (table w₁) descriptor file) {flags : StatusFlags}
    {e : Errno} (set : calls.setStatusFlags descriptor flags w₁ = (.error e, w₂)) :
    before.Beside (table w₂) descriptor file := by
  rcases hcalls.unset set with htable | ⟨file', flags', hfile, htable⟩
  · rwa [htable]
  · obtain rfl : file = file' := Option.some.inj (h.here.symm.trans hfile)
    rw [htable]
    exact h.setFlags flags'

/-- The open file is told to wait, and nothing else is changed. -/
theorem table_cleared (here : (table w₁).file descriptor = some file) {flags : StatusFlags}
    (read : calls.statusFlags descriptor w₁ = (.ok flags, w₂))
    (set : calls.setStatusFlags descriptor flags.waiting w₂ = (.ok (), w₃)) :
    table w₃ = (table w₁).setFlags file ((table w₁).flags file).waiting := by
  obtain ⟨hread, hflags⟩ := hcalls.read read
  obtain ⟨file', hfile, hset⟩ := hcalls.set set
  rw [hread] at hfile hset
  obtain rfl : file = file' := Option.some.inj (here.symm.trans hfile)
  rw [hset, hflags file here]

theorem beside_cleared (h : before.Beside (table w₁) descriptor file) {flags : StatusFlags}
    (read : calls.statusFlags descriptor w₁ = (.ok flags, w₂))
    (set : calls.setStatusFlags descriptor flags.waiting w₂ = (.ok (), w₃)) :
    before.Beside (table w₃) descriptor file := by
  rw [hcalls.table_cleared h.here read set]
  exact h.setFlags _

end WorkOn

end DescriptorCalls

end LineShell
