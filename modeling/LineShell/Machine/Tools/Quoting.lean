/-
**Names in complaints.**

An installed program shows the names it was given so that the script interpreter would read them back:
between single quotes, with a single quote inside written as the closing quote, an escaped quote and
the opening quote, and with characters that have no visible form escaped in a dollar-quoted part.  A
text with single quotes and nothing else of note is shown between double quotes.

Words that are not names are shown between single quotes with backslash escapes.

Main definitions:

* `LineShell.Machine.inQuotes` — a name, always quoted;
* `LineShell.Machine.shown` — a name, quoted only if it has to be;
* `LineShell.Machine.escapedInQuotes` — a word with backslash escapes.

Main results:

* `LineShell.Machine.quotedBody_eq_self` — visible text without quotes stands as it is.
-/

set_option autoImplicit false

namespace LineShell.Machine

/-- The backslash escape of a character without a visible form. -/
def invisibleEscape (c : Char) : Option (List Char) :=
  match c with
  | '\x07' => some ['\\', 'a']
  | '\x08' => some ['\\', 'b']
  | '\t' => some ['\\', 't']
  | '\n' => some ['\\', 'n']
  | '\x0b' => some ['\\', 'v']
  | '\x0c' => some ['\\', 'f']
  | '\r' => some ['\\', 'r']
  | c =>
    if c.toNat < 32 ∨ 127 ≤ c.toNat then
      some ['\\', Char.ofNat (48 + c.toNat / 64), Char.ofNat (48 + c.toNat / 8 % 8),
        Char.ofNat (48 + c.toNat % 8)]
    else none

/-- The text between the outer quotes; `escaping` says whether a dollar-quoted part is open. -/
def quotedBody (escaping : Bool) : List Char → List Char
  | [] => []
  | c :: cs =>
    if c = '\'' then ['\'', '\\', '\'', '\''] ++ quotedBody false cs
    else
      match invisibleEscape c with
      | some text => (if escaping then text else ['\'', '$', '\''] ++ text) ++ quotedBody true cs
      | none => (if escaping then ['\'', '\'', c] else [c]) ++ quotedBody false cs

/-- Whether a character means the same between single and between double quotes. -/
def isHarmless (c : Char) : Bool :=
  c.isAlphanum || "%+,-./:@]_ '".toList.contains c

/-- Whether a character at the front means the same between single and between double quotes. -/
def isHarmlessFirst (c : Char) : Bool := isHarmless c || c == '#' || c == '~'

/-- A name between quotes. -/
def inQuotes (cs : List Char) : List Char :=
  if cs.contains '\'' && (cs.take 1).all isHarmlessFirst && (cs.drop 1).all isHarmless then
    '"' :: cs ++ ['"']
  else '\'' :: quotedBody false cs ++ ['\'']

/-- Whether a character has a meaning of its own for the script interpreter. -/
def isSpecialInWord (c : Char) : Bool :=
  (invisibleEscape c).isSome || " !\"$&'()*;<=>?[\\^`|:".toList.contains c

/-- A name as it is if it would be read as one word, and between quotes otherwise. -/
def shown (cs : List Char) : List Char :=
  if cs = [] ∨ cs.any isSpecialInWord = true ∨ cs.head? = some '#' ∨ cs.head? = some '~' ∨
      cs = ['\x7b'] ∨ cs = ['\x7d'] then inQuotes cs
  else cs

/-- A word between single quotes, with backslash escapes. -/
def escapedInQuotes (cs : List Char) : List Char :=
  '\'' :: (cs.flatMap fun c =>
    if c = '\'' ∨ c = '\\' then ['\\', c] else (invisibleEscape c).getD [c]) ++ ['\'']

/-- Visible text without single quotes stands between the quotes as it is. -/
theorem quotedBody_eq_self {cs : List Char}
    (h : ∀ c ∈ cs, c ≠ '\'' ∧ invisibleEscape c = none) : quotedBody false cs = cs := by
  induction cs with
  | nil => rfl
  | cons c cs ih =>
    have hc := h c (by simp)
    have ht := ih fun d hd => h d (by simp [hd])
    simp [quotedBody, hc.1, hc.2, ht]

end LineShell.Machine
