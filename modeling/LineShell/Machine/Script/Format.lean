/-
**Printing by a format.**

A format is text with conversions, each of which takes the next argument; what a missing argument
gives is empty or zero.  The format is used again as long as arguments are left and it takes any.  A
backslash begins an escape for a character.

The interpreter's own command and the installed program agree in this; they differ in some escapes, in
the conversions that they know and in what they say of an argument that is no number.

Main definitions:

* `LineShell.Machine.Script.EscapeRules`, `LineShell.Machine.Script.unescape` — a text with its
  escapes carried out;
* `LineShell.Machine.Script.Conversion` — a conversion;
* `LineShell.Machine.Script.Printing`, `LineShell.Machine.Script.printed` — a format and its arguments
  put in.

Main results:

* `LineShell.Machine.Script.unescape_eq_self` — a text without a backslash stays as it is.
-/

import LineShell.Machine.Script.Decimal

set_option autoImplicit false

namespace LineShell.Machine.Script

/-! ### Escapes -/

/-- Which escapes have a meaning. -/
structure EscapeRules where
  /-- The characters that stand for themselves behind a backslash. -/
  plain : List Char
  /-- Whether hexadecimal digits behind an `x` stand for a character; whether there must be some. -/
  hexadecimal : Option Bool
  /-- Whether a zero in front of octal digits does not count. -/
  zero : Bool
  /-- Whether a `c` says that nothing more follows. -/
  stops : Bool
  /-- Whether what follows a backslash without a meaning is not looked at again. -/
  whole : Bool

namespace EscapeRules

/-- The escapes in a format of the interpreter's own command. -/
def ownFormat : EscapeRules := ⟨['\\'], none, false, false, false⟩

/-- The escapes in an argument of the interpreter's own commands. -/
def ownArgument : EscapeRules := ⟨['\\'], none, true, true, false⟩

/-- The escapes in a format of the installed program. -/
def installedFormat : EscapeRules := ⟨['\\', '"'], some true, false, true, true⟩

/-- The escapes in an argument of the installed program. -/
def installedArgument : EscapeRules := ⟨['\\', '"'], some true, true, true, true⟩

/-- The escapes of the installed program that prints its arguments. -/
def installedEcho : EscapeRules := ⟨['\\'], some false, true, true, true⟩

end EscapeRules

/-- What a backslash and the text behind it mean. -/
inductive Escape where
  /-- A character; the length of the text that means it. -/
  | char (c : Char) (length : Nat)
  /-- Nothing more follows. -/
  | stop
  /-- Digits are missing. -/
  | faulty
  /-- Nothing. -/
  | none

/-- The character of a letter behind a backslash. -/
def escapeLetter (c : Char) : Option Char :=
  match c with
  | 'a' => some '\x07'
  | 'b' => some '\x08'
  | 'e' => some '\x1b'
  | 'f' => some '\x0c'
  | 'n' => some '\n'
  | 'r' => some '\r'
  | 't' => some '\t'
  | 'v' => some '\x0b'
  | _ => none

/-- The character that up to so many digits of a base stand for, and how many there are. -/
def digitEscape (base most : Nat) (cs : List Char) : Char × Nat :=
  match digitsAt base (cs.take most) with
  | (n, length) => (Char.ofNat (n % 256), length)

/-- What a backslash and the text behind it mean. -/
def EscapeRules.escapeAt (rules : EscapeRules) : List Char → Escape
  | [] => .none
  | c :: cs =>
    if (digitIn 8 c).isSome then
      let skipped := rules.zero && c == '0' && ((cs.head?.bind (digitIn 8)).isSome)
      let digits := if skipped then cs else c :: cs
      let (d, length) := digitEscape 8 3 digits
      .char d (length + if skipped then 1 else 0)
    else if c = 'c' ∧ rules.stops = true then .stop
    else if c = 'x' ∧ rules.hexadecimal.isSome = true then
      match digitEscape 16 2 cs with
      | (_, 0) => if rules.hexadecimal = some true then .faulty else .none
      | (d, length) => .char d (length + 1)
    else if rules.plain.contains c then .char c 1
    else
      match escapeLetter c with
      | some d => .char d 1
      | none => .none

/-- How a text ends. -/
inductive Ending where
  /-- With its last character. -/
  | complete
  /-- At an escape that says so. -/
  | stopped
  /-- At an escape whose digits are missing. -/
  | faulty
deriving DecidableEq

/-- A text with its escapes carried out, and how it ends. -/
def unescape (rules : EscapeRules) : Nat → List Char → List Char × Ending
  | 0, cs => (cs, .complete)
  | _, [] => ([], .complete)
  | fuel + 1, '\\' :: rest =>
    match rules.escapeAt rest with
    | .stop => ([], .stopped)
    | .faulty => ([], .faulty)
    | .char d length =>
      match unescape rules fuel (rest.drop length) with
      | (text, ending) => (d :: text, ending)
    | .none =>
      let taken := if rules.whole then 1 else 0
      match unescape rules fuel (rest.drop taken) with
      | (text, ending) => ('\\' :: rest.take taken ++ text, ending)
  | fuel + 1, c :: rest =>
    match unescape rules fuel rest with
    | (text, ending) => (c :: text, ending)

/-- A text with its escapes carried out. -/
def EscapeRules.apply (rules : EscapeRules) (cs : List Char) : List Char × Ending :=
  unescape rules (cs.length + 1) cs

/-- A text without a backslash stays as it is. -/
theorem unescape_eq_self (rules : EscapeRules) {cs : List Char} (h : '\\' ∉ cs) (fuel : Nat) :
    unescape rules fuel cs = (cs, .complete) := by
  induction cs generalizing fuel with
  | nil => cases fuel <;> rfl
  | cons c cs ih =>
    have hc : c ≠ '\\' := fun e => h (by simp [e])
    have ht := ih fun hm => h (by simp [hm])
    cases fuel with
    | zero => rfl
    | succ fuel =>
      unfold unescape
      split <;> simp_all

/-! ### Conversions -/

/-- A conversion. -/
structure Conversion where
  /-- The flags. -/
  flags : List Char
  /-- The least width of the field; a negative one stands for the flag that puts the text at the
  left. -/
  width : Int
  /-- The most characters of a text, or the least digits of a number. -/
  precision : Option Nat
  /-- The letter. -/
  letter : Char

/-- A text in a field, filled up with blanks. -/
def Conversion.field (c : Conversion) (cs : List Char) : List Char :=
  let fill := List.replicate (c.width.natAbs - cs.length) ' '
  if c.flags.contains '-' || decide (c.width < 0) then cs ++ fill else fill ++ cs

/-- A number in a field: its sign and what announces its base, and its digits, in front of which
zeros are filled in if the number asks for them. -/
def Conversion.numberField (c : Conversion) (zeros : Bool) (sign digits : List Char) : List Char :=
  if zeros && c.flags.contains '0' && !c.flags.contains '-' && decide (0 ≤ c.width) then
    sign ++ List.replicate (c.width.toNat - sign.length - digits.length) '0' ++ digits
  else c.field (sign ++ digits)

/-- The sign of a number. -/
def Conversion.sign (c : Conversion) (negative : Bool) : List Char :=
  if negative then ['-'] else if c.flags.contains '+' then ['+']
  else if c.flags.contains ' ' then [' '] else []

/-- The digits of a whole number, at least as many as the precision asks for. -/
def Conversion.digits (c : Conversion) (base n : Nat) : List Char :=
  let digits := if n = 0 ∧ c.precision = some 0 then [] else Nat.toDigits base n
  List.replicate (c.precision.getD 0 - digits.length) '0' ++ digits

/-- A whole number with a sign. -/
def Conversion.signed (c : Conversion) (n : Int) : List Char :=
  c.numberField c.precision.isNone (c.sign (decide (n < 0))) (c.digits 10 n.natAbs)

/-- A whole number without a sign. -/
def Conversion.unsigned (c : Conversion) (n : Nat) : List Char :=
  let alternative := c.flags.contains '#'
  match c.letter with
  | 'o' =>
    let digits := c.digits 8 n
    c.numberField c.precision.isNone []
      (if alternative && digits.head? != some '0' then '0' :: digits else digits)
  | 'x' =>
    c.numberField c.precision.isNone (if alternative && n != 0 then ['0', 'x'] else []) (c.digits 16 n)
  | 'X' =>
    c.numberField c.precision.isNone (if alternative && n != 0 then ['0', 'X'] else [])
      ((c.digits 16 n).map Char.toUpper)
  | _ => c.numberField c.precision.isNone [] (c.digits 10 n)

/-- A number with a decimal point. -/
def Conversion.decimal (c : Conversion) (negative : Bool) (f : Fraction) : List Char :=
  let places := c.precision.getD 6
  let always := c.flags.contains '#'
  let text := match c.letter.toLower with
    | 'f' => f.fixed places always
    | 'e' => f.scientific places always
    | _ => f.general places always
  c.numberField true (c.sign negative) (if c.letter.isUpper then text.map Char.toUpper else text)

/-! ### Arguments -/

/-- What is wrong with a format or an argument. -/
inductive FormatFault where
  /-- An argument is no number. -/
  | noNumber (text : List Char)
  /-- Something follows the number in an argument. -/
  | unconverted (text : List Char)
  /-- A number has no room. -/
  | outOfRange (text : List Char)
  /-- Something follows the character whose number is wanted. -/
  | ignored (text : List Char)
  /-- A conversion has no meaning. -/
  | invalid (directive : List Char)
  /-- A conversion has no letter. -/
  | noLetter (directive : List Char)
  /-- An escape has no digits. -/
  | noDigits

/-- The printing of a format. -/
structure Printing where
  /-- Whether the installed program prints. -/
  installed : Bool
  /-- What was printed. -/
  text : List Char
  /-- The arguments that are left. -/
  arguments : List (List Char)
  /-- What was wrong so far. -/
  faults : List FormatFault
  /-- Whether nothing more is printed. -/
  finished : Bool

namespace Printing

/-- The next argument is taken. -/
def next (p : Printing) : List Char × Printing :=
  (p.arguments.headD [], { p with arguments := p.arguments.tail })

/-- Some text is printed. -/
def put (p : Printing) (cs : List Char) : Printing := { p with text := p.text ++ cs }

/-- Something is wrong. -/
def note (p : Printing) (fault : FormatFault) : Printing := { p with faults := p.faults ++ [fault] }

/-- Something is wrong, and nothing more is printed. -/
def abort (p : Printing) (fault : FormatFault) : Printing := { p.note fault with finished := true }

/-- What is wrong with a number of some length that should be the whole of a text. -/
def check (p : Printing) (cs : List Char) (length : Nat) (fits : Bool) : Printing :=
  if p.installed && !fits then p.note (.outOfRange cs)
  else if length < cs.length then p.note (if length = 0 then .noNumber cs else .unconverted cs)
  else if fits then p
  else p.note (.outOfRange cs)

/-- The number of a character that stands behind a quote in an argument. -/
def quotedNumber? (p : Printing) (cs : List Char) : Option (Nat × Printing) :=
  match cs with
  | q :: rest =>
    if q = '\'' ∨ q = '"' then
      match rest with
      | c :: more => some (c.toNat, if p.installed && more != [] then p.note (.ignored more) else p)
      | [] => if p.installed then none else some (0, p)
    else none
  | [] => none

/-- The next argument as a whole number. -/
def integer (p : Printing) : Int × Printing :=
  match p.next with
  | (cs, p) =>
    match p.quotedNumber? cs with
    | some (n, p) => (n, p)
    | none =>
      match numberAt cs with
      | (n, length) => (clamp n, p.check cs length (hasRoom n))

/-- The next argument as a whole number that is not negative; a negative one wraps around. -/
def natural (p : Printing) : Nat × Printing :=
  match p.next with
  | (cs, p) =>
    match p.quotedNumber? cs with
    | some (n, p) => (n, p)
    | none =>
      match numberAt cs with
      | (n, length) =>
        if n.natAbs < wordCount then (wordOf n, p.check cs length true)
        else (wordCount - 1, p.check cs length false)

/-- The next argument as a fraction, and whether it is negative. -/
def fraction (p : Printing) : Bool × Fraction × Printing :=
  match p.next with
  | (cs, p) =>
    match p.quotedNumber? cs with
    | some (n, p) => (false, .ofDecimal n 0, p)
    | none =>
      match decimalAt cs with
      | (negative, n, power, length) =>
        (negative, if p.installed then .ofDecimal n power else .ofDouble n power,
          p.check cs length true)

/-! ### Conversions in a format -/

/-- A width or a precision at the front of a text, which an asterisk takes from the arguments; what
follows it. -/
def measure (p : Printing) (cs : List Char) : Option Int × List Char × Printing :=
  match cs with
  | '*' :: rest =>
    match p.integer with
    | (n, p) => (some n, rest, p)
  | _ =>
    match digitsAt 10 cs with
    | (_, 0) => (none, cs, p)
    | (n, length) => (some n, cs.drop length, p)

/-- The letters of conversions that the installed program knows with some flags and, perhaps, a
precision. -/
def knows (flags : List Char) (precision : Bool) (letter : Char) : Bool :=
  "aAcdeEfFgGiosuxX".toList.contains letter &&
    !(flags.contains '#' && "cdisu".toList.contains letter) &&
    !(flags.contains '0' && "cs".toList.contains letter) && !(precision && letter == 'c')

/-- The argument of a conversion is printed. -/
def convert (p : Printing) (c : Conversion) (directive : List Char) : Printing :=
  let shortened := fun cs : List Char => cs.take (c.precision.getD cs.length)
  if c.letter = 's' then
    match p.next with
    | (cs, p) => p.put (c.field (shortened cs))
  else if c.letter = 'b' then
    match p.next with
    | (cs, p) =>
      match (if p.installed then EscapeRules.installedArgument else .ownArgument).apply cs with
      | (text, ending) =>
        let p := p.put (c.field (shortened text))
        match ending with
        | .complete => p
        | .stopped => { p with finished := true }
        | .faulty => p.abort .noDigits
  else if c.letter = 'c' then
    match p.next with
    | (cs, p) => p.put (c.field [cs.headD '\x00'])
  else if c.letter = 'd' ∨ c.letter = 'i' then
    match p.integer with
    | (n, p) => p.put (c.signed n)
  else if "ouxX".toList.contains c.letter then
    match p.natural with
    | (n, p) => p.put (c.unsigned n)
  else if "eEfFgG".toList.contains c.letter then
    match p.fraction with
    | (negative, f, p) => p.put (c.decimal negative f)
  else p.abort (.invalid directive)

/-- A conversion behind its percent sign is carried out; what follows it. -/
def conversion (p : Printing) (cs : List Char) : Printing × List Char :=
  let flags := cs.takeWhile ("#-+ 0".toList.contains ·)
  let rest := cs.drop flags.length
  let (width, rest, p) := p.measure rest
  let (precision, rest, p) :=
    match rest with
    | '.' :: r =>
      match p.measure r with
      | (n, r, p) => (some (n.getD 0), r, p)
    | r => (none, r, p)
  let rest := if p.installed then rest.dropWhile ("hlLjtz".toList.contains ·) else rest
  let directive := '%' :: cs.take (cs.length - rest.length + 1)
  match rest with
  | [] => (p.abort (if p.installed then .invalid directive else .noLetter directive), [])
  | letter :: rest =>
    let known := !p.installed || knows flags precision.isSome letter || cs.head? == some 'b'
    let c : Conversion := ⟨flags, width.getD 0,
      precision.bind fun n => if n < 0 then none else some n.toNat, letter⟩
    (if known then p.convert c directive else p.abort (.invalid directive), rest)

/-- One use of a format. -/
def once : Nat → List Char → Printing → Printing
  | 0, _, p => p
  | _, [], p => p
  | fuel + 1, c :: rest, p =>
    if p.finished then p
    else if c = '%' then
      if rest.head? = some '%' then once fuel rest.tail (p.put ['%'])
      else
        match p.conversion rest with
        | (p, rest) => once fuel rest p
    else if c = '\\' then
      let rules := if p.installed then EscapeRules.installedFormat else .ownFormat
      match rules.escapeAt rest with
      | .char d length => once fuel (rest.drop length) (p.put [d])
      | .stop => { p with finished := true }
      | .faulty => p.abort .noDigits
      | .none =>
        let taken := if rules.whole then 1 else 0
        once fuel (rest.drop taken) (p.put ('\\' :: rest.take taken))
    else once fuel rest (p.put [c])

/-- Uses a format again as long as arguments are left and it takes any. -/
def again (format : List Char) : Nat → Printing → Printing
  | 0, p => p
  | fuel + 1, p =>
    let q := once (format.length + 1) format p
    if q.finished || q.arguments.isEmpty || q.arguments.length == p.arguments.length then q
    else again format fuel q

end Printing

/-- A format with its arguments put in. -/
def printed (installed : Bool) (format : List Char) (arguments : List (List Char)) : Printing :=
  .again format (arguments.length + 1) ⟨installed, [], arguments, [], false⟩

end LineShell.Machine.Script
