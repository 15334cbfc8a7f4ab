/-
**Scripts.**

A script is read byte by byte; here each byte is the character of the same number, so that the text
of a script, the arguments it is given and what it reads are all lists of characters.

A word is a sequence of pieces: plain text, quoted or not, values of parameters, the output of other
scripts and the values of arithmetic expressions.  Commands are made of words, assignments and
redirections.

Main definitions:

* `LineShell.Machine.Script.charsOf`, `LineShell.Machine.Script.bytesOf` — bytes as characters and
  back;
* `LineShell.Machine.Script.Piece`, `LineShell.Machine.Script.Command` — words and commands.

Main results:

* `LineShell.Machine.Script.bytesOf_charsOf` — nothing is lost.
-/

import LineShell.Text.Utf8

set_option autoImplicit false

namespace LineShell.Machine.Script

/-! ### Bytes as characters -/

/-- Each byte as the character of the same number. -/
def charsOf (bs : Bytes) : List Char := bs.map fun b => Char.ofNat b.toNat

/-- The bytes of such characters. -/
def bytesOf (cs : List Char) : Bytes := cs.map fun c => UInt8.ofNat c.toNat

theorem bytesOf_charsOf (bs : Bytes) : bytesOf (charsOf bs) = bs := by
  have h : ∀ b : UInt8, UInt8.ofNat (Char.ofNat b.toNat).toNat = b := by
    intro b
    have hv : b.toNat.isValidChar := Or.inl (Nat.lt_trans b.toNat_lt (by decide))
    rw [Char.ofNat, dif_pos hv]
    exact UInt8.ofNat_toNat
  rw [bytesOf, charsOf, List.map_map]
  exact (List.map_congr_left fun b _ => h b).trans (List.map_id bs)

/-! ### Words -/

/-- What is done with the word behind the name of a parameter.  Where a flag says so, an empty value
counts as a missing one. -/
inductive Operation where
  /-- The word stands in for a missing value. -/
  | fallback (orEmpty : Bool)
  /-- The word takes the place of a value. -/
  | replacement (orEmpty : Bool)
  /-- The word becomes the value if there is none. -/
  | assignment (orEmpty : Bool)
  /-- The word says why a missing value is an error. -/
  | demand (orEmpty : Bool)
  /-- The shortest or the longest text that fits the word is cut off at the front of the value. -/
  | cutFront (longest : Bool)
  /-- The shortest or the longest text that fits the word is cut off at the end of the value. -/
  | cutEnd (longest : Bool)
deriving DecidableEq

/-- A script whose output is wanted. -/
structure InnerScript where
  /-- Its text; with a parenthesis at its end if it stands between parentheses. -/
  text : List Char
  /-- The line on which it begins. -/
  line : Nat
  /-- Whether it stands between parentheses, and not between backquotes. -/
  enclosed : Bool

/-- A piece of a word. -/
inductive Piece where
  /-- Plain text. -/
  | text (chars : List Char) (quoted : Bool)
  /-- The value of a parameter, changed by a word. -/
  | parameter (name : List Char) (operation : Option (Operation × List Piece)) (quoted : Bool)
  /-- The number of characters of a parameter's value. -/
  | length (name : List Char) (quoted : Bool)
  /-- The output of a script. -/
  | output (script : InnerScript) (quoted : Bool)
  /-- The value of an arithmetic expression. -/
  | number (expression : List Piece) (quoted : Bool)
  /-- Braces that name no parameter. -/
  | senseless

/-- A word. -/
abbrev Word := List Piece

mutual

/-- The scripts in a piece of a word. -/
def Piece.scripts : Piece → List InnerScript
  | .output script _ => [script]
  | .parameter _ (some (_, word)) _ => scriptsIn word
  | .number expression _ => scriptsIn expression
  | _ => []

/-- The scripts in the pieces of a word. -/
def scriptsIn : List Piece → List InnerScript
  | [] => []
  | p :: rest => p.scripts ++ scriptsIn rest

end

/-- The text of a word that is nothing but plain text without quotes. -/
def Word.plain? : Word → Option (List Char)
  | [.text cs false] => some cs
  | _ => none

/-- The text of a word that is nothing but text; whether any of it is quoted. -/
def Word.literal? : Word → Option (List Char × Bool)
  | [] => some ([], false)
  | .text cs quoted :: rest => (Word.literal? rest).map fun (ds, q) => (cs ++ ds, quoted || q)
  | _ => none

/-! ### Commands -/

/-- What a redirection does with its descriptor. -/
inductive RedirectKind where
  /-- Reads a file. -/
  | read
  /-- Writes a file from empty on. -/
  | write
  /-- Writes a file from empty on, be it a protected one. -/
  | overwrite
  /-- Writes behind the end of a file. -/
  | append
  /-- Reads and writes a file. -/
  | change
  /-- Becomes a copy of another descriptor. -/
  | duplicate
  /-- Reads a text. -/
  | document
deriving DecidableEq

/-- A redirection of a command. -/
structure Redirect where
  /-- The descriptor. -/
  descriptor : Nat
  /-- What is done with it. -/
  kind : RedirectKind
  /-- The file, the other descriptor or the text. -/
  target : Word

/-- A command of a script; some know the line that they begin on. -/
inductive Command where
  /-- Assignments, then a name with arguments. -/
  | simple (line : Nat) (assignments : List (List Char × Word)) (words : List Word)
      (redirects : List Redirect)
  /-- Commands at the same time, each reading what the one before it writes. -/
  | pipeline (commands : List Command) (background : Bool)
  /-- One command after the other. -/
  | sequence (first second : Command)
  /-- The second command only if the first succeeds. -/
  | both (first second : Command)
  /-- The second command only if the first fails. -/
  | either (first second : Command)
  /-- Success and failure exchanged. -/
  | negation (command : Command)
  /-- The body as long as the condition succeeds, or as long as it fails. -/
  | loop (untilSuccess : Bool) (condition body : Command)
  /-- The body for each of some words. -/
  | forEach (line : Nat) (name : List Char) (words : List Word) (body : Command)
  /-- The first command one of whose patterns fits a word. -/
  | choice (line : Nat) (subject : Word) (arms : List (List Word × Command))
  /-- One of two commands. -/
  | branch (condition whenTrue whenFalse : Command)
  /-- A command in a process of its own, which may be left to itself. -/
  | subshell (line : Nat) (command : Command) (redirects : List Redirect) (background : Bool)
  /-- A command with redirections of its own. -/
  | redirected (line : Nat) (command : Command) (redirects : List Redirect)
  /-- The command that a name stands for from now on. -/
  | function (name : List Char) (body : Command)
  /-- Nothing. -/
  | nothing

end LineShell.Machine.Script
