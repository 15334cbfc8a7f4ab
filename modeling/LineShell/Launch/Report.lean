/-
**The child's report.**

A child that cannot run the program says so to its parent in five bytes: a tag for what failed and
the error number, four bytes in two's complement with the lowest byte first.  A parent that reads
anything but five bytes with a known tag learns nothing.

Main definitions:

* `LineShell.StartFailure.encode`, `LineShell.StartFailure.decode` — the five bytes and back.

Main results:

* `LineShell.StartFailure.decode_encode` — what was sent is what arrives.
-/

import LineShell.Launch.Error

set_option autoImplicit false

namespace LineShell

/-! ### Four-byte numbers -/

/-- The four bytes of a number below `2 ^ 32`, lowest first. -/
def wordBytes (n : Nat) : Bytes :=
  [UInt8.ofNat n, UInt8.ofNat (n / 256), UInt8.ofNat (n / 65536), UInt8.ofNat (n / 16777216)]

/-- The number that four bytes stand for in two's complement, lowest byte first. -/
def wordValue (a b c d : UInt8) : Int :=
  let n := a.toNat + 256 * b.toNat + 65536 * c.toNat + 16777216 * d.toNat
  if n < 2147483648 then n else (n : Int) - 4294967296

theorem wordValue_wordBytes {n : Nat} (h : n < 2147483648) :
    wordValue (UInt8.ofNat n) (UInt8.ofNat (n / 256)) (UInt8.ofNat (n / 65536))
      (UInt8.ofNat (n / 16777216)) = n := by
  unfold wordValue
  simp only [UInt8.toNat_ofNat']
  split <;> omega

theorem Errno.number_lt (e : Errno) : e.number < 134 := by
  rcases e.named with h | h
  · omega
  · exact Nat.lt_succ_of_le (Errno.isNamed_bounds h).2

namespace StartFailure

/-- The number of bytes of a report. -/
def reportLength : Nat := 5

/-- The tag of what failed. -/
def tag : StartFailure → UInt8
  | .redirection (.opening _) => 1
  | .redirection (.rebinding _) => 2
  | .program _ => 3

/-- The error number that is reported. -/
def errno : StartFailure → Errno
  | .redirection cause => cause.errno
  | .program e => e

/-- The failure of a tag and an error number. -/
def ofTag (tag : UInt8) (e : Errno) : Option StartFailure :=
  if tag = 1 then some (.redirection (.opening e))
  else if tag = 2 then some (.redirection (.rebinding e))
  else if tag = 3 then some (.program e)
  else none

theorem ofTag_tag (failure : StartFailure) : ofTag failure.tag failure.errno = some failure := by
  rcases failure with ⟨_ | _⟩ | _ <;> rfl

/-- The report of a failure. -/
def encode (failure : StartFailure) : Bytes := failure.tag :: wordBytes failure.errno.number

/-- The failure that a report means, if it is one. -/
def decode : Bytes → Option StartFailure
  | [tag, a, b, c, d] => ofTag tag (Errno.ofNumber (wordValue a b c d))
  | _ => none

theorem encode_length (failure : StartFailure) : failure.encode.length = reportLength := rfl

/-- A report that arrives whole means what was reported. -/
theorem decode_encode (failure : StartFailure) : decode failure.encode = some failure := by
  have h : failure.errno.number < 2147483648 := by
    have := failure.errno.number_lt
    omega
  simp only [encode, wordBytes, decode, wordValue_wordBytes h, Errno.ofNumber_number, ofTag_tag]

end StartFailure

end LineShell
