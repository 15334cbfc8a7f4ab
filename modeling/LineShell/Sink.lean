/-
**A receiver of limited size.**

A sink keeps what it accepts.  It may accept only so many bytes in all: a write that does not fit is
accepted in part and then fails.  It may also fail whenever it is asked to hand on what it accepted.

Main definitions:

* `LineShell.Sink`, `LineShell.Sink.writer` — the receiver.

Main results:

* `LineShell.Sink.write_received` — with `n` bytes of room the first `n` bytes are accepted.
-/

import LineShell.Host

set_option autoImplicit false

namespace LineShell

/-- What a receiver has accepted and may still accept. -/
structure Sink where
  /-- The bytes that were accepted. -/
  received : Bytes
  /-- How many bytes it still accepts; `none` if there is no limit. -/
  room : Option Nat
  /-- Whether handing on fails. -/
  flushFails : Bool
deriving DecidableEq

namespace Sink

/-- A receiver that has accepted nothing yet. -/
def empty (limit : Option Nat) (flushFails : Bool) : Sink := ⟨[], limit, flushFails⟩

/-- The failure of a write that does not fit. -/
def full : IoError := .other "sink full"

/-- The failure of handing on. -/
def stuck : IoError := .other "flush failed"

/-- Accepts bytes, as many as there is room for. -/
def write (bytes : Bytes) : Act Sink IoError Unit := fun s =>
  match s.room with
  | none => (.ok (), { s with received := s.received ++ bytes })
  | some n =>
    if bytes.length ≤ n then
      (.ok (), { s with received := s.received ++ bytes, room := some (n - bytes.length) })
    else (.error full, { s with received := s.received ++ bytes.take n, room := some 0 })

/-- Hands on what was accepted. -/
def flush : Act Sink IoError Unit := fun s => (if s.flushFails then .error stuck else .ok (), s)

/-- The receiver as a session's output. -/
def writer : Writer Sink := ⟨write, flush⟩

/-- A receiver with room for `n` bytes accepts the first `n`. -/
theorem write_received (bytes : Bytes) (s : Sink) (n : Nat) (h : s.room = some n) :
    (write bytes s).2.received = s.received ++ bytes.take n := by
  unfold write
  rw [h]
  simp only
  split
  · next hle => rw [List.take_of_length_le hle]
  · rfl

end Sink

end LineShell
