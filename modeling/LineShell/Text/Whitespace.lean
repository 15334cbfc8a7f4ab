/-
**White space.**

Two sets of characters separate words.  The *blanks* are space, tab, carriage return and line feed:
they stand between tokens.  *White space* is the Unicode property White_Space: it ends a bare word
and is trimmed from the ends of a line.  Every blank is white space, but not the other way round.

Main definitions:

* `LineShell.Text.isBlank`, `LineShell.Text.isWhitespace` — the two sets;
* `LineShell.Text.isAllWhitespace` — a line of white space only.

Main results:

* `LineShell.Text.isWhitespace_of_isBlank` — blanks are white space.
-/

import LineShell.Text.Ranges

set_option autoImplicit false

namespace LineShell.Text

/-- Space, tab, carriage return or line feed. -/
def isBlank (c : Char) : Bool := c == ' ' || c == '\t' || c == '\r' || c == '\n'

/-- The code points of the property White_Space. -/
def whitespaceRanges : List (Nat × Nat) :=
  [(0x9, 0xD), (0x20, 0x20), (0x85, 0x85), (0xA0, 0xA0), (0x1680, 0x1680), (0x2000, 0x200A),
   (0x2028, 0x2029), (0x202F, 0x202F), (0x205F, 0x205F), (0x3000, 0x3000)]

/-- Whether a character has the property White_Space. -/
def isWhitespace (c : Char) : Bool := inRanges whitespaceRanges c

/-- Whether a text holds nothing but white space. -/
def isAllWhitespace (cs : List Char) : Bool := cs.all isWhitespace

theorem isWhitespace_of_isBlank {c : Char} (h : isBlank c = true) : isWhitespace c = true := by
  simp only [isBlank, Bool.or_eq_true, beq_iff_eq] at h
  rcases h with ((h | h) | h) | h <;> subst h <;> decide

@[simp] theorem isAllWhitespace_nil : isAllWhitespace [] = true := rfl

@[simp] theorem isAllWhitespace_cons (c : Char) (cs : List Char) :
    isAllWhitespace (c :: cs) = (isWhitespace c && isAllWhitespace cs) := rfl

@[simp] theorem isAllWhitespace_append (as bs : List Char) :
    isAllWhitespace (as ++ bs) = (isAllWhitespace as && isAllWhitespace bs) := by
  simp [isAllWhitespace]

end LineShell.Text
