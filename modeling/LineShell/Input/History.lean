/-
**The history of lines.**

A history keeps at most a hundred lines, the newest last.  An empty line and a line equal to the last
one are not kept; when there is no room the oldest goes.

A history is written to a file as a heading and one line for each entry, in which a backslash and a
line feed are written `\\` and `\n`.  A file without the heading holds plain entries, one on each
line.  An entry with any other escape stands as it is.  Reading a file ends at a line that is not
UTF-8; what was read until then counts as not yet saved, while a file read to its end counts as
saved.

Main definitions:

* `LineShell.History`, `LineShell.History.add` — the entries, and one more of them;
* `LineShell.History.escape`, `LineShell.History.unescape` — the written form of an entry;
* `LineShell.History.load`, `LineShell.History.save` — the history of a file, and the file of a
  history.

Main results:

* `LineShell.History.unescape_escape` — an entry can be read back.
-/

import LineShell.Input.Line

set_option autoImplicit false

namespace LineShell

/-- The lines that were kept. -/
structure History where
  /-- The lines, the newest last. -/
  entries : List String
  /-- Whether some line is not in the file yet. -/
  unsaved : Bool
deriving DecidableEq

namespace History

/-- A history without lines. -/
def empty : History := ⟨[], false⟩

/-- The most lines that are kept. -/
def capacity : Nat := 100

/-- The name of the file in the home directory. -/
def fileName : String := ".minish_history"

/-- One line more, unless it is empty or repeats the last one. -/
def add (h : History) (line : String) : History :=
  if line = "" ∨ h.entries.getLast? = some line then h
  else if h.entries.length < capacity then ⟨h.entries ++ [line], true⟩
  else ⟨h.entries.tail ++ [line], true⟩

theorem add_entries_length_le {h : History} (hle : h.entries.length ≤ capacity) (line : String) :
    (h.add line).entries.length ≤ capacity := by
  unfold add
  split
  · exact hle
  split
  · next hlt =>
    rw [List.length_append, List.length_singleton]
    exact hlt
  · simp only [capacity, List.length_append, List.length_tail, List.length_singleton] at *
    omega

/-! ### The written form -/

/-- An entry as it is written: a backslash and a line feed are escaped. -/
def escape : List Char → List Char
  | [] => []
  | c :: rest =>
    if c = '\\' then '\\' :: '\\' :: escape rest
    else if c = '\n' then '\\' :: 'n' :: escape rest
    else c :: escape rest

/-- The entry of a written form; `none` if it holds another escape. -/
def unescape : List Char → Option (List Char)
  | [] => some []
  | ['\\'] => none
  | '\\' :: c :: rest =>
    if c = '\\' then (unescape rest).map ('\\' :: ·)
    else if c = 'n' then (unescape rest).map ('\n' :: ·)
    else none
  | c :: rest => (unescape rest).map (c :: ·)

theorem unescape_cons_of_ne {c : Char} (h : c ≠ '\\') (rest : List Char) :
    unescape (c :: rest) = (unescape rest).map (c :: ·) := by
  rw [unescape]
  · rintro rfl
    exact absurd rfl h
  · rintro d r rfl
    exact absurd rfl h

/-- An entry can be read back from its written form. -/
theorem unescape_escape (cs : List Char) : unescape (escape cs) = some cs := by
  induction cs with
  | nil => rfl
  | cons c rest ih =>
    rw [escape]
    split
    · next h => simp [unescape, ih, h]
    split
    · next h => simp [unescape, ih, h]
    · next h _ => simp [unescape_cons_of_ne h, ih]

/-! ### Files -/

/-- The heading of a file of escaped entries. -/
def heading : String := "#V2"

/-- The entry of a line of a file whose entries are escaped. -/
def entryOfLine (line : String) : String := String.ofList ((unescape line.toList).getD line.toList)

/-- The history after the lines of a file, each read by `entry`; a line that is not UTF-8 ends the
reading. -/
def addLines (entry : String → String) (h : History) : List Bytes → History
  | [] => { h with unsaved := false }
  | line :: rest =>
    match Utf8.decode? line with
    | none => h
    | some text => addLines entry (h.add (entry text)) rest

/-- The history of a file. -/
def load (content : Bytes) : History :=
  match (rawLines content).map strictLineBody with
  | [] => empty
  | first :: rest =>
    if first = Utf8.encode heading then addLines entryOfLine empty rest
    else addLines id empty (first :: rest)

/-- The file of a history. -/
def save (h : History) : Bytes :=
  Utf8.encode heading ++ [10] ++
    h.entries.flatMap fun entry => Utf8.encodeChars (escape entry.toList) ++ [10]

end History

end LineShell
