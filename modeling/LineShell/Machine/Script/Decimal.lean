/-
**Numbers with a decimal point.**

A number that is written with a point and a power of ten is a fraction.  It is kept exactly, or as the
nearest number that a double holds, and written with a point at a fixed place or behind its first
digit; what has to be rounded goes to the nearest digit, a half to the even one.

Main definitions:

* `LineShell.Machine.Script.Fraction`, `LineShell.Machine.Script.decimalAt` — a fraction at the front
  of a text;
* `LineShell.Machine.Script.Fraction.fixed`, `LineShell.Machine.Script.Fraction.scientific`,
  `LineShell.Machine.Script.Fraction.general` — its three written forms.

Main results:

* `LineShell.Machine.Script.two_mul_roundEven_le` — rounding errs by half a unit at most.
-/

import LineShell.Machine.Script.Number

set_option autoImplicit false

namespace LineShell.Machine.Script

/-- A fraction that is not negative. -/
structure Fraction where
  /-- The upper number. -/
  numerator : Nat
  /-- The lower number. -/
  denominator : Nat

/-- A quotient rounded to the nearest whole number, a half to the even one. -/
def roundEven (n d : Nat) : Nat :=
  let q := n / d
  if 2 * (n % d) < d ∨ (2 * (n % d) = d ∧ q % 2 = 0) then q else q + 1

/-- Rounding errs by half a unit at most. -/
theorem two_mul_roundEven_le (n d : Nat) : 2 * (d * roundEven n d) ≤ 2 * n + d := by
  have h := Nat.div_add_mod n d
  have hd : n % d ≤ n := Nat.mod_le n d
  unfold roundEven
  simp only
  split
  · omega
  · rw [Nat.mul_add]
    omega

/-- A power of ten. -/
def tenTo (n : Nat) : Nat := Nat.pow 10 n

namespace Fraction

/-- A whole number times a power of ten. -/
def ofDecimal (mantissa : Nat) (exponent : Int) : Fraction :=
  if 0 ≤ exponent then ⟨mantissa * tenTo exponent.toNat, 1⟩
  else ⟨mantissa, tenTo (-exponent).toNat⟩

/-- The number of significands that a double can keep. -/
def significandCount : Nat := 0x10000000000000

/-- The nearest number that a double holds. -/
def ofDouble (mantissa : Nat) (exponent : Int) : Fraction :=
  let value := if 0 ≤ exponent then Float.ofScientific mantissa false exponent.toNat
    else Float.ofScientific mantissa true (-exponent).toNat
  let bits := value.toBits.toNat
  let power := bits / significandCount % 2048
  let low := bits % significandCount
  let whole := if power = 0 then low else low + significandCount
  let power := max power 1
  if 1075 ≤ power then ⟨whole <<< (power - 1075), 1⟩ else ⟨whole, 1 <<< (1075 - power)⟩

/-- Digits with a point in front of the last few of them. -/
def pointed (places : Nat) (always : Bool) (digits : List Char) : List Char :=
  let padded := List.replicate (places + 1 - digits.length) '0' ++ digits
  let whole := padded.take (padded.length - places)
  whole ++ (if places = 0 ∧ always = false then [] else '.' :: padded.drop (padded.length - places))

/-- The fraction with a fixed number of places behind the point. -/
def fixed (f : Fraction) (places : Nat) (always : Bool) : List Char :=
  pointed places always (Nat.toDigits 10 (roundEven (f.numerator * tenTo places) f.denominator))

/-- The power of ten of the first digit, searched for downwards. -/
def powerBelow (f : Fraction) : Nat → Nat → Int
  | 0, k => -k
  | fuel + 1, k => if f.denominator ≤ f.numerator * tenTo k then -k else powerBelow f fuel (k + 1)

/-- The power of ten of the first digit. -/
def power (f : Fraction) : Int :=
  if f.numerator = 0 then 0
  else if f.denominator ≤ f.numerator then (Nat.toDigits 10 (f.numerator / f.denominator)).length - 1
  else f.powerBelow (Nat.toDigits 10 f.denominator).length 1

/-- The first digits of the fraction as a whole number, and the power of ten of the first one. -/
def leading (f : Fraction) (digits : Nat) : Nat × Int :=
  let shift := (digits : Int) - 1 - f.power
  let q := if 0 ≤ shift then roundEven (f.numerator * tenTo shift.toNat) f.denominator
    else roundEven f.numerator (f.denominator * tenTo (-shift).toNat)
  if q = tenTo digits then (q / 10, f.power + 1) else (q, f.power)

/-- The text of a power of ten. -/
def powerText (n : Int) : List Char :=
  let digits := Nat.toDigits 10 n.natAbs
  'e' :: (if n < 0 then '-' else '+') :: List.replicate (2 - digits.length) '0' ++ digits

/-- The fraction with its point behind the first digit. -/
def scientific (f : Fraction) (places : Nat) (always : Bool) : List Char :=
  match f.leading (places + 1) with
  | (q, n) => pointed places always (Nat.toDigits 10 q) ++ powerText n

/-- A text with a point, without the zeros at its end. -/
def withoutZeros (cs : List Char) : List Char :=
  if cs.contains '.' then
    let rest := cs.reverse.dropWhile (· == '0')
    (if rest.head? = some '.' then rest.tail else rest).reverse
  else cs

/-- The fraction in the shorter of the two forms, with so many digits that count. -/
def general (f : Fraction) (digits : Nat) (always : Bool) : List Char :=
  let digits := max digits 1
  let (q, n) := f.leading digits
  let trim := fun cs : List Char => if always then cs else withoutZeros cs
  if -4 ≤ n ∧ n < digits then trim (f.fixed ((digits : Int) - 1 - n).toNat always)
  else trim (pointed (digits - 1) always (Nat.toDigits 10 q)) ++ powerText n

end Fraction

/-- The number with a decimal point at the front of a text: whether it is negative, its digits as a
whole number, the power of ten that they are multiplied with, and its length, which is zero if there
is none.  Powers are kept between bounds that no number of the usual size reaches. -/
def decimalAt (cs : List Char) : Bool × Nat × Int × Nat :=
  let blanks := (cs.takeWhile isBlankChar).length
  let (negative, sign, rest) :=
    match cs.drop blanks with
    | '-' :: rest => (true, 1, rest)
    | '+' :: rest => (false, 1, rest)
    | rest => (false, 0, rest)
  let whole := rest.takeWhile Char.isDigit
  let places :=
    match rest.drop whole.length with
    | '.' :: r => r.takeWhile Char.isDigit
    | _ => []
  let pointLength :=
    if (rest.drop whole.length).head? = some '.' ∧ (whole ≠ [] ∨ places ≠ []) then places.length + 1
    else 0
  if whole = [] ∧ places = [] then (false, 0, 0, 0)
  else
    let length := whole.length + pointLength
    let (power, powerLength) :=
      match rest.drop length with
      | e :: r =>
        if e = 'e' ∨ e = 'E' then
          match signedAt (digitsAt 10) r with
          | (n, k) => if k = 0 ∨ (r.head?.map isBlankChar).getD true then (0, 0) else (n, k + 1)
        else (0, 0)
      | [] => (0, 0)
    (negative, (digitsAt 10 (whole ++ places)).1, max (-5000) (min 5000 power) - places.length,
      blanks + sign + length + powerLength)

end LineShell.Machine.Script
