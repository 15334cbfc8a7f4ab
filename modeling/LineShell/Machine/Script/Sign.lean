/-
**Signs in scripts.**

Beside words a script holds operators, signs of redirections and ends of lines.  The text that a
redirection holds stands on the lines that follow, up to a line that is its mark.

The text is read with its lines counted, so that complaints can name them.  A backslash at the end of a
line joins it with the next one, even in the middle of a sign.

Main definitions:

* `LineShell.Machine.Script.Cursor` — a place in a text;
* `LineShell.Machine.Script.operatorOf`, `LineShell.Machine.Script.redirectOf` — the signs at the
  front of a text;
* `LineShell.Machine.Script.Awaited` — a text that is to be read on the lines that follow.

Main results:

* `LineShell.Machine.Script.Cursor.length_joined_le` — passing over the ends of lines never goes back.
-/

import LineShell.Machine.Script.Syntax

set_option autoImplicit false

namespace LineShell.Machine.Script

/-! ### Places -/

/-- A place in a text: what follows it, and its line. -/
structure Cursor where
  /-- The text from here on. -/
  rest : List Char
  /-- The line. -/
  line : Nat

namespace Cursor

/-- The place behind the first so many characters. -/
def skip (c : Cursor) (n : Nat) : Cursor := ⟨c.rest.drop n, c.line + (c.rest.take n).count '\n'⟩

/-- The place behind the characters that are all of a kind. -/
def skipWhile (c : Cursor) (p : Char → Bool) : Cursor := c.skip (c.rest.takeWhile p).length

/-- The text between a place and a later one. -/
def upTo (c d : Cursor) : List Char := c.rest.take (c.rest.length - d.rest.length)

/-- The end of the text. -/
def toEnd (c : Cursor) : Cursor := c.skip c.rest.length

/-- The place behind the backslashes at ends of lines that come next. -/
def joined (c : Cursor) : Cursor := go c.rest c.line
where
  /-- The same, for a text and the number of its line. -/
  go : List Char → Nat → Cursor
    | '\\' :: '\n' :: rest, line => go rest (line + 1)
    | rest, line => ⟨rest, line⟩

/-- Passing over the ends of lines never goes back. -/
theorem length_joined_le (c : Cursor) : c.joined.rest.length ≤ c.rest.length := go c.rest c.line
where
  /-- The same, for a text and the number of its line. -/
  go (cs : List Char) (line : Nat) : (joined.go cs line).rest.length ≤ cs.length := by
    fun_induction joined.go cs line with
    | case1 line rest ih => simp only [List.length_cons]; omega
    | case2 => exact Nat.le_refl _

/-- The place behind blanks, and backslashes at ends of lines between them. -/
def pastBlanks (c : Cursor) : Cursor := go c.rest c.line
where
  /-- The same, for a text and the number of its line. -/
  go : List Char → Nat → Cursor
    | ' ' :: rest, line | '\t' :: rest, line => go rest line
    | '\\' :: '\n' :: rest, line => go rest (line + 1)
    | rest, line => ⟨rest, line⟩

/-- The next character and the place behind it, of lines that are joined.  An end of a line that is
taken so is not counted. -/
def next? (c : Cursor) : Option (Char × Cursor) :=
  match c.joined with
  | ⟨d :: rest, line⟩ => some (d, ⟨rest, line⟩)
  | ⟨[], _⟩ => none

/-- The next characters of lines that are joined, at most so many. -/
def ahead (c : Cursor) : Nat → List Char
  | 0 => []
  | n + 1 =>
    match c.next? with
    | some (d, r) => d :: r.ahead n
    | none => []

/-- The place behind so many characters of lines that are joined. -/
def past (c : Cursor) : Nat → Cursor
  | 0 => c
  | n + 1 =>
    match c.next? with
    | some (_, r) => r.past n
    | none => c

end Cursor

/-! ### Signs -/

/-- The operators, longer ones first. -/
def operators : List String := ["&&", "||", ";;", ";", "&", "|", "(", ")"]

/-- As many characters as a sign can have. -/
def signLength : Nat := 4

/-- The operator that a text begins with. -/
def operatorOf (cs : List Char) : Option String :=
  operators.find? fun o => o.toList.isPrefixOf cs

/-- The signs of redirections with the descriptors that they change, longer ones first. -/
def redirectSigns : List (String × Nat × RedirectKind) :=
  [("<<-", 0, .document), ("<<", 0, .document), ("<>", 0, .change), ("<&", 0, .duplicate),
   ("<", 0, .read), (">>", 1, .append), (">&", 1, .duplicate), (">|", 1, .overwrite), (">", 1, .write)]

/-- The sign of a redirection that a text begins with: the sign itself, the descriptor, which a digit
in front may name, what is done with it, and the length. -/
def redirectOf (cs : List Char) : Option (String × Nat × RedirectKind × Nat) :=
  let find := fun (cs : List Char) => redirectSigns.find? fun s => s.1.toList.isPrefixOf cs
  match cs with
  | c :: rest =>
    if c.isDigit then
      (find rest).map fun (sign, _, kind) => (sign, c.toNat - 48, kind, sign.length + 1)
    else (find cs).map fun (sign, descriptor, kind) => (sign, descriptor, kind, sign.length)
  | [] => none

/-! ### Texts -/

/-- A text that is to be read on the lines that follow. -/
structure Awaited where
  /-- The line that ends it. -/
  mark : List Char
  /-- Whether tabs at the beginnings of its lines are taken away. -/
  indented : Bool
  /-- Whether parameters have a meaning in it. -/
  expanded : Bool

end LineShell.Machine.Script
