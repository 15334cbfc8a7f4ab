/-
**Text as the system takes it.**

The system takes strings as bytes ended by a NUL, so a text can be handed over only if it holds no
NUL itself; otherwise the system would see a shorter one.

Main definitions:

* `LineShell.CString` — bytes without a NUL;
* `LineShell.CString.ofBytes` — the check, which names the place of the first NUL;
* `LineShell.CString.memory`, `LineShell.CString.read` — the bytes as they lie in memory, and what
  a reader that stops at the first NUL finds there.

Main results:

* `LineShell.CString.read_memory` — the reader finds the bytes that were put there;
* `LineShell.CString.ofBytes_eq_ok_iff`, `LineShell.CString.ofBytes_isOk_iff` — the check accepts
  exactly the bytes without a NUL and keeps them.
-/

import LineShell.Text.Utf8

set_option autoImplicit false

namespace LineShell

/-- A byte string without a NUL. -/
structure CString where
  /-- The bytes, without the NUL that ends them in memory. -/
  bytes : Bytes
  /-- No byte is NUL. -/
  noNul : 0 ∉ bytes
deriving DecidableEq

/-- Bytes that were to become a C string hold a NUL. -/
structure NulError where
  /-- The place of the first NUL. -/
  position : Nat
deriving DecidableEq

/-- The wording of the error. -/
def NulError.message (e : NulError) : String :=
  "nul byte found in provided data at position: " ++ toString e.position

namespace CString

/-- The C string of a byte string that holds no NUL. -/
def ofBytes (bs : Bytes) : Except NulError CString :=
  if h : 0 ∈ bs then .error ⟨bs.idxOf 0⟩ else .ok ⟨bs, h⟩

/-- The C string of a text that holds no NUL. -/
def ofString (s : String) : Except NulError CString := ofBytes (Utf8.encode s)

theorem ofBytes_eq_ok_iff (bs : Bytes) (c : CString) : ofBytes bs = .ok c ↔ c.bytes = bs := by
  obtain ⟨cs, h⟩ := c
  unfold ofBytes
  split
  · simp only [reduceCtorEq, false_iff]
    rintro rfl
    contradiction
  · simp [eq_comm]

/-- The check accepts exactly the byte strings without a NUL. -/
theorem ofBytes_isOk_iff (bs : Bytes) : (ofBytes bs).isOk = true ↔ 0 ∉ bs := by
  unfold ofBytes
  split <;> simp_all [Except.isOk, Except.toBool]

/-- The bytes as they lie in memory, ended by a NUL. -/
def memory (c : CString) : Bytes := c.bytes ++ [0]

/-- What a reader that stops at the first NUL finds in memory. -/
def read (mem : Bytes) : Bytes := mem.takeWhile (· != 0)

theorem read_memory (c : CString) : read c.memory = c.bytes := by
  have h : ∀ b ∈ c.bytes, (b != 0) = true := fun b hb =>
    bne_iff_ne.2 fun h0 => c.noNul (h0 ▸ hb)
  simp [read, memory, List.takeWhile_append_of_pos h]

/-- The C string as text, with U+FFFD for each malformed piece. -/
def toStringLossy (c : CString) : String := Utf8.decodeLossy c.bytes

end CString

end LineShell
