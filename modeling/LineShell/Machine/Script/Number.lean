/-
**Numbers in texts.**

A number is written in digits behind blanks and a sign.  Its front tells the base: sixteen behind a
zero and an `x`, eight behind a zero, else ten; where a base is given its front tells nothing.  Whole
numbers have 64 bits.

Main definitions:

* `LineShell.Machine.Script.wrap`, `LineShell.Machine.Script.clamp` — a whole number in 64 bits;
* `LineShell.Machine.Script.numberAt` — the number at the front of a text;
* `LineShell.Machine.Script.wholeNumber?`, `LineShell.Machine.Script.integer?` — the number that a
  text is.

Main results:

* `LineShell.Machine.Script.wrap_eq_self` — a number that has room stays as it is;
* `LineShell.Machine.Script.clamp_eq_self` — so does one that is clamped.
-/

import LineShell.Machine.Script.Syntax

set_option autoImplicit false

namespace LineShell.Machine.Script

/-! ### Words of 64 bits -/

/-- The number of words. -/
def wordCount : Nat := 0x10000000000000000

/-- A whole number in 64 bits. -/
def wrap (n : Int) : Int := Int.bmod n wordCount

/-- The 64 bits of a whole number as a number that is not negative. -/
def wordOf (n : Int) : Nat := (n % wordCount).toNat

/-- A number that has room stays as it is. -/
theorem wrap_eq_self {n : Int} (hl : -0x8000000000000000 ≤ n) (hu : n < 0x8000000000000000) :
    wrap n = n := by
  unfold wrap wordCount
  rw [Int.bmod_def]
  omega

/-- The greatest number. -/
def greatest : Int := 0x7fffffffffffffff

/-- A number between the least and the greatest one; one that has no room becomes the nearest. -/
def clamp (n : Int) : Int := max (-greatest - 1) (min greatest n)

/-- A number that has room stays as it is. -/
theorem clamp_eq_self {n : Int} (hl : -greatest - 1 ≤ n) (hu : n ≤ greatest) : clamp n = n := by
  unfold clamp
  omega

/-! ### Digits -/

/-- The value of a digit in a base; `none` if it is none. -/
def digitIn (base : Nat) (c : Char) : Option Nat :=
  let value :=
    if c.isDigit then c.toNat - 48
    else if 'a' ≤ c ∧ c ≤ 'z' then c.toNat - 87
    else if 'A' ≤ c ∧ c ≤ 'Z' then c.toNat - 55
    else base
  if value < base then some value else none

/-- The digits of a base at the front of a text as a number, and how many there are. -/
def digitsAt (base : Nat) (cs : List Char) : Nat × Nat :=
  let digits := cs.takeWhile fun c => (digitIn base c).isSome
  (digits.foldl (fun n c => base * n + (digitIn base c).getD 0) 0, digits.length)

/-- The number at the front of a text without a sign, in the base that its front tells, and its
length, which is zero if there is none. -/
def naturalAt (cs : List Char) : Nat × Nat :=
  match cs with
  | '0' :: x :: rest =>
    if (x = 'x' ∨ x = 'X') ∧ (digitsAt 16 rest).2 ≠ 0 then
      ((digitsAt 16 rest).1, (digitsAt 16 rest).2 + 2)
    else digitsAt 8 cs
  | _ => digitsAt 10 cs

/-- Whether a character is a blank before a number. -/
def isBlankChar (c : Char) : Bool := c == ' ' || (decide (9 ≤ c.toNat) && decide (c.toNat ≤ 13))

/-- The number at the front of a text, behind blanks and a sign, and its length with these; the length
is zero if there is none.  `natural` reads the number without its sign. -/
def signedAt (natural : List Char → Nat × Nat) (cs : List Char) : Int × Nat :=
  let blanks := (cs.takeWhile isBlankChar).length
  let (negative, sign, rest) :=
    match cs.drop blanks with
    | '-' :: rest => (true, 1, rest)
    | '+' :: rest => (false, 1, rest)
    | rest => (false, 0, rest)
  match natural rest with
  | (_, 0) => (0, 0)
  | (n, length) => (if negative then -n else n, blanks + sign + length)

/-- The number at the front of a text, in the base that its front tells, and its length. -/
def numberAt (cs : List Char) : Int × Nat := signedAt naturalAt cs

/-! ### Texts that are numbers -/

/-- Whether a number has room in 64 bits. -/
def hasRoom (n : Int) : Bool := decide (-greatest - 1 ≤ n) && decide (n ≤ greatest)

/-- The number that a text is; blanks alone are zero. -/
def wholeNumber? (cs : List Char) : Option Int :=
  match numberAt cs with
  | (n, length) => if (cs.drop length).all isBlankChar && hasRoom n then some n else none

/-- The number in base ten that a text is, with blanks around it. -/
def integer? (cs : List Char) : Option Int :=
  match signedAt (digitsAt 10) cs with
  | (n, length) =>
    if length ≠ 0 && (cs.drop length).all isBlankChar && hasRoom n then some n else none

/-- The number below `2 ^ 31` that a text is, with blanks around it. -/
def count? (cs : List Char) : Option Nat :=
  match integer? cs with
  | some n => if 0 ≤ n ∧ n < 2147483648 then some n.toNat else none
  | none => none

/-- The number that a text of nothing but digits is. -/
def natural? (cs : List Char) : Option Nat :=
  if cs ≠ [] ∧ cs.all Char.isDigit = true then some (digitsAt 10 cs).1 else none

end LineShell.Machine.Script
