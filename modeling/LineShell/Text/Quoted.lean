/-
**Text shown in double quotes.**

A message that names a piece of text shows it between double quotes, so that its ends and its
invisible characters can be seen: NUL, tab, carriage return, line feed, the double quote and the
backslash are written with a backslash and a letter or themselves; any other character that has no
visible form, or that would attach itself to the one before it, is written as its code point in
braces.

Main definitions:

* `LineShell.Text.quoteChar` — how one character is written;
* `LineShell.Text.quoted` — a text between double quotes.
-/

import LineShell.Text.Printable
import LineShell.Text.Extending

set_option autoImplicit false

namespace LineShell.Text

/-- The number in lower-case hexadecimal digits, without leading zeros. -/
def hexDigits (n : Nat) : List Char := Nat.toDigits 16 n

/-- A code point in braces: `\u` and the number in hexadecimal. -/
def codePointEscape (c : Char) : List Char :=
  ['\\', 'u', '\x7b'] ++ hexDigits c.toNat ++ ['\x7d']

/-- How one character stands in a quoted text. -/
def quoteChar (c : Char) : List Char :=
  if c = '\x00' then ['\\', '0']
  else if c = '\t' then ['\\', 't']
  else if c = '\r' then ['\\', 'r']
  else if c = '\n' then ['\\', 'n']
  else if c = '"' then ['\\', '"']
  else if c = '\\' then ['\\', '\\']
  else if (isExtending c && !isVoicingMark c) || !isPrintable c then codePointEscape c
  else [c]

/-- A text between double quotes, each character written by `quoteChar`. -/
def quoted (s : String) : String :=
  String.ofList ('"' :: s.toList.flatMap quoteChar ++ ['"'])

end LineShell.Text
