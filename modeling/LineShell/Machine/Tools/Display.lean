/-
**Text made visible.**

A file may be shown with its lines numbered, with the ends of lines and tabs marked, with signs for
what has no visible form and with only one of several empty lines in a row.  Where one file ends
inside a line the next one goes on with it, so showing keeps a state.

Main definitions:

* `LineShell.Machine.DisplayStyle` — what is made visible;
* `LineShell.Machine.DisplayStyle.display` — bytes made visible.

Main results:

* `LineShell.Machine.DisplayStyle.display_plain` — in the plain style bytes stand as they are.
-/

import LineShell.Text.Utf8

set_option autoImplicit false

namespace LineShell.Machine

/-- Which lines get numbers. -/
inductive Numbering where
  /-- None. -/
  | none
  /-- All of them. -/
  | all
  /-- Those that are not empty. -/
  | filled
deriving DecidableEq

/-- What is made visible in a text. -/
structure DisplayStyle where
  /-- Which lines get numbers. -/
  numbering : Numbering
  /-- Whether the ends of lines are marked. -/
  ends : Bool
  /-- Whether tabs are marked. -/
  tabs : Bool
  /-- Whether other bytes without a visible form are. -/
  invisible : Bool
  /-- Whether of several empty lines in a row only one is shown. -/
  squeezed : Bool
deriving DecidableEq

/-- How far a text was shown. -/
structure DisplayState where
  /-- The number of the last line that got one. -/
  number : Nat
  /-- At the beginning of a line, how many empty lines were before it; two stand for more. -/
  empties : Option Nat

/-- The state before anything is shown. -/
def DisplayState.start : DisplayState := ⟨0, some 0⟩

/-- The text of an ASCII string. -/
def asciiBytes (s : String) : Bytes := s.toUTF8.toList

/-- The number of a line, flush right in six columns, with a tab behind it. -/
def lineNumber (n : Nat) : Bytes :=
  let digits := toString n
  asciiBytes ("".pushn ' ' (6 - digits.length) ++ digits ++ "\t")

namespace DisplayStyle

/-- The style that changes nothing. -/
def plain : DisplayStyle := ⟨.none, false, false, false, false⟩

/-- The signs for a byte without a visible form, and for one beyond ASCII. -/
def signs (style : DisplayStyle) (b : UInt8) : Bytes :=
  if b = 9 then if style.tabs then asciiBytes "^I" else [b]
  else if b < 128 then caret b
  else asciiBytes "M-" ++ caret (b - 128)
where
  /-- A byte of ASCII; what has no visible form is a caret with a letter. -/
  caret (b : UInt8) : Bytes :=
    if b < 32 then [94, b + 64] else if b = 127 then asciiBytes "^?" else [b]

/-- A byte that does not end a line, before another one. -/
def mark (style : DisplayStyle) (b : UInt8) (next : Option UInt8) : Bytes :=
  if style.invisible then style.signs b
  else if b = 9 ∧ style.tabs = true then asciiBytes "^I"
  else if b = 13 ∧ next = some 10 ∧ style.ends = true then asciiBytes "^M"
  else [b]

/-- One byte, before another one. -/
def step (style : DisplayStyle) (s : DisplayState) (b : UInt8) (next : Option UInt8) :
    Bytes × DisplayState :=
  let numbered := fun (wanted : Bool) =>
    if wanted then (lineNumber (s.number + 1), s.number + 1) else ([], s.number)
  if b = 10 then
    let empties := (s.empties.map (min 2 <| · + 1)).getD 0
    if style.squeezed ∧ empties = 2 then ([], { s with empties := some empties })
    else
      let (front, number) := numbered (style.numbering == .all && 0 < empties)
      (front ++ (if style.ends then [36] else []) ++ [b], ⟨number, some empties⟩)
  else
    let (front, number) := numbered (style.numbering != .none && s.empties.isSome)
    (front ++ style.mark b next, ⟨number, none⟩)

/-- Bytes made visible from a state on, and the state behind them. -/
def display (style : DisplayStyle) (s : DisplayState) : Bytes → Bytes × DisplayState
  | [] => ([], s)
  | b :: rest =>
    match style.step s b rest.head? with
    | (front, s') =>
      match style.display s' rest with
      | (behind, s'') => (front ++ behind, s'')

/-- In the plain style bytes stand as they are. -/
theorem display_plain (s : DisplayState) (bs : Bytes) : (plain.display s bs).1 = bs := by
  induction bs generalizing s with
  | nil => rfl
  | cons b rest ih =>
    have h : (plain.step s b rest.head?).1 = [b] := by
      unfold step
      by_cases hb : b = 10 <;> simp [plain, mark, hb]
    simp [display, h, ih]

end DisplayStyle

end LineShell.Machine
