/-
**Fields.**

What the pieces of a word give is cut into fields.  Characters that come from values outside quotes
are cut at the separators: blanks among these count once however many they are, and not at all at the
front and at the end; any other separator ends a field each time.  Quotes make a field even if there
is nothing between them.

Main definitions:

* `LineShell.Machine.Script.Part` — what the pieces of a word give;
* `LineShell.Machine.Script.fieldsOf` — the fields;
* `LineShell.Machine.Script.wholeOf` — everything as one text.

Main results:

* `LineShell.Machine.Script.fieldsOf_nil` — nothing makes no field.
-/

import LineShell.Machine.Script.Pattern

set_option autoImplicit false

namespace LineShell.Machine.Script

/-- What the pieces of a word give. -/
inductive Part where
  /-- A character; whether it is quoted, and whether it may separate fields. -/
  | char (c : Char) (quoted cut : Bool)
  /-- Quotes, which make a field. -/
  | quotes
  /-- The border between two arguments; whether these are quoted. -/
  | border (quoted : Bool)
deriving DecidableEq

/-- The parts of plain text. -/
def partsOfText (cs : List Char) (quoted : Bool) : List Part :=
  (if quoted then [.quotes] else []) ++ cs.map fun c => .char c quoted false

/-- The parts of a value. -/
def partsOfValue (cs : List Char) (quoted : Bool) : List Part :=
  (if quoted then [.quotes] else []) ++ cs.map fun c => .char c quoted (!quoted)

/-- The parts of a value that may have borders between arguments in it; each argument between quotes
makes a field. -/
def partsOfJoined (cs : List (Option Char)) (quoted : Bool) : List Part :=
  cs.flatMap fun
    | some c => [.char c quoted (!quoted)]
    | none => if quoted then [.border true, .quotes] else [.border false]

/-- The characters at which values are cut unless a script says otherwise. -/
def defaultSeparators : List Char := [' ', '\t', '\n']

/-! ### Cutting -/

/-- Fields under construction. -/
structure Fields where
  /-- The finished fields, the newest first. -/
  finished : List (List Glyph)
  /-- The characters of the field that is being built, the newest first. -/
  current : List Glyph
  /-- Whether a field was begun. -/
  begun : Bool
  /-- Behind a separator: whether one that is no blank belongs to it still. -/
  separated : Option Bool

namespace Fields

/-- The current field ends; `blank` if a blank ended it. -/
def finish (f : Fields) (blank : Bool) : Fields :=
  ⟨f.current.reverse :: f.finished, [], false, some blank⟩

/-- A separator. -/
def separate (f : Fields) (blank : Bool) : Fields :=
  match f.separated with
  | some open_ =>
    if blank then f else if open_ then { f with separated := some false } else f.finish false
  | none => if blank && !f.begun then f else f.finish blank

/-- A part is added. -/
def add (separators : List Char) (f : Fields) : Part → Fields
  | .char c quoted cut =>
    if cut && separators.contains c then f.separate (defaultSeparators.contains c)
    else ⟨f.finished, ⟨c, quoted⟩ :: f.current, true, none⟩
  | .quotes => { f with begun := true, separated := none }
  | .border quoted => if quoted then { f.finish false with separated := none } else f.separate true

/-- All fields in order. -/
def toList (f : Fields) : List (List Glyph) :=
  (if f.begun then f.current.reverse :: f.finished else f.finished).reverse

end Fields

/-- The fields that parts make. -/
def fieldsOf (separators : List Char) (parts : List Part) : List (List Glyph) :=
  (parts.foldl (Fields.add separators) ⟨[], [], false, none⟩).toList

@[simp] theorem fieldsOf_nil (separators : List Char) : fieldsOf separators [] = [] := rfl

/-- Everything as one text. -/
def wholeOf (parts : List Part) : List Glyph :=
  parts.flatMap fun
    | .char c quoted _ => [⟨c, quoted⟩]
    | .quotes | .border _ => []

end LineShell.Machine.Script
