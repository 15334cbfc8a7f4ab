/-
**Patterns.**

A pattern is a text some of whose characters are quoted.  The others may stand for others: `*` for
any text, `?` for any character, brackets for any of some characters; a backslash takes the meaning
of the next character away.

A pattern may be cut off at the front or at the end of a text.  As a path it stands for the paths of
all files that fit it, in the order of their bytes; a name that begins with a dot fits only a pattern
that does.

Main definitions:

* `LineShell.Machine.Script.Glyph` — a character that may be quoted;
* `LineShell.Machine.Script.PatternItem`, `LineShell.Machine.Script.fits` — patterns;
* `LineShell.Machine.Script.withoutFront`, `LineShell.Machine.Script.withoutEnd` — texts that are cut;
* `LineShell.Machine.Script.fittingPaths` — the files that fit a pattern.

Main results:

* `LineShell.Machine.Script.fits_literal` — a text fits itself as a pattern;
* `LineShell.Machine.Script.seen_map_some` — a text without borders is seen as a whole.
-/

import LineShell.Machine.Script.Syntax
import LineShell.Machine.State

set_option autoImplicit false

namespace LineShell.Machine.Script

/-- A character, and whether it is quoted. -/
structure Glyph where
  /-- The character. -/
  char : Char
  /-- Whether it is quoted. -/
  quoted : Bool
deriving DecidableEq

/-- The characters of a text. -/
def textOfGlyphs (gs : List Glyph) : List Char := gs.map Glyph.char

/-! ### Items -/

/-- The characters that a member of brackets stands for. -/
inductive Member where
  /-- All from one to another. -/
  | range (first last : Char)
  /-- All of a class. -/
  | category (has : Char → Bool)

/-- Whether a character is one that a member stands for. -/
def Member.has : Member → Char → Bool
  | .range a b, c => decide (a ≤ c) && decide (c ≤ b)
  | .category p, c => p c

/-- A part of a pattern. -/
inductive PatternItem where
  /-- The character itself. -/
  | literal (c : Char)
  /-- Any character. -/
  | one
  /-- Any text. -/
  | any
  /-- Any character in some sets, or any in none of them. -/
  | among (excluded : Bool) (members : List Member)

/-- Whether a character has a visible form of its own. -/
def isGraphic (c : Char) : Bool := decide (32 < c.toNat) && decide (c.toNat < 127)

/-- The classes of characters by their names. -/
def categories : List (String × (Char → Bool)) :=
  [("alpha", Char.isAlpha), ("digit", Char.isDigit), ("alnum", Char.isAlphanum),
   ("upper", Char.isUpper), ("lower", Char.isLower),
   ("space", fun c => c == ' ' || (decide (9 ≤ c.toNat) && decide (c.toNat ≤ 13))),
   ("blank", fun c => c == ' ' || c == '\t'),
   ("punct", fun c => isGraphic c && !c.isAlphanum),
   ("graph", isGraphic), ("print", fun c => isGraphic c || c == ' '),
   ("cntrl", fun c => decide (c.toNat < 32) || c.toNat == 127),
   ("xdigit", fun c => c.isDigit || ('a' ≤ c && c ≤ 'f') || ('A' ≤ c && c ≤ 'F'))]

/-- The class that is named in brackets and colons at the front of a text, and what follows it. -/
def categoryOf (gs : List Glyph) : Option (Member × List Glyph) :=
  categories.findSome? fun (name, p) =>
    let written := ("[:" ++ name ++ ":]").toList
    if written.isPrefixOf (textOfGlyphs gs) then some (.category p, gs.drop written.length) else none

/-- The members written in brackets up to the closing one, and what follows it; a closing one that
comes first is an ordinary character. -/
def members (first : Bool) : Nat → List Glyph → Option (List Member × List Glyph)
  | 0, _ => none
  | _, [] => none
  | fuel + 1, g :: rest =>
    let further := fun (m : Member) (r : List Glyph) =>
      (members false fuel r).map fun (ms, r') => (m :: ms, r')
    if g.char = ']' ∧ g.quoted = false ∧ first = false then some ([], rest)
    else
      match categoryOf (g :: rest) with
      | some (m, r) => further m r
      | none =>
        let (a, rest) :=
          match g, rest with
          | ⟨'\\', false⟩, h :: r => (h.char, r)
          | _, _ => (g.char, rest)
        match rest with
        | ⟨'-', false⟩ :: h :: r =>
          if h.char = ']' ∧ h.quoted = false then further (.range a a) rest
          else further (.range a h.char) r
        | _ => further (.range a a) rest

/-- The parts of a pattern. -/
def patternItems : Nat → List Glyph → List PatternItem
  | 0, _ => []
  | _, [] => []
  | fuel + 1, ⟨c, quoted⟩ :: rest =>
    if quoted then .literal c :: patternItems fuel rest
    else if c = '*' then .any :: patternItems fuel rest
    else if c = '?' then .one :: patternItems fuel rest
    else if c = '\\' then
      match rest with
      | g :: r => .literal g.char :: patternItems fuel r
      | [] => [.literal c]
    else if c = '[' then
      let excluded := rest.head? == some ⟨'!', false⟩
      let inside := if excluded then rest.tail else rest
      match members true (inside.length + 1) inside with
      | some (ms, r) => .among excluded ms :: patternItems fuel r
      | none => .literal c :: patternItems fuel rest
    else .literal c :: patternItems fuel rest

/-- The pattern that a text is. -/
def patternOf (gs : List Glyph) : List PatternItem := patternItems gs.length gs

/-! ### Fitting -/

/-- The ends of a text, from the whole of it to nothing. -/
def suffixes : List Char → List (List Char)
  | [] => [[]]
  | c :: cs => (c :: cs) :: suffixes cs

/-- Whether a text fits a pattern. -/
def fits : List PatternItem → List Char → Bool
  | [], cs => cs.isEmpty
  | .any :: items, cs => (suffixes cs).any (fits items)
  | _ :: _, [] => false
  | .literal a :: items, c :: cs => a == c && fits items cs
  | .one :: items, _ :: cs => fits items cs
  | .among excluded members :: items, c :: cs =>
    (excluded != members.any (·.has c)) && fits items cs

/-- A text fits itself, taken as a pattern without special characters. -/
theorem fits_literal (cs : List Char) : fits (cs.map .literal) cs = true := by
  induction cs with
  | nil => rfl
  | cons c cs ih => simp [fits, ih]

/-- What is seen of a text that may have borders between arguments in it: the characters up to the first
border. -/
def seen (cs : List (Option Char)) : List Char := (cs.takeWhile Option.isSome).filterMap id

/-- A text without borders is seen as a whole. -/
@[simp] theorem seen_map_some (cs : List Char) : seen (cs.map some) = cs := by
  induction cs with
  | nil => rfl
  | cons c cs ih => simpa [seen] using ih

/-- A text without its shortest or longest beginning that fits a pattern. -/
def withoutFront (longest : Bool) (items : List PatternItem) (cs : List (Option Char)) :
    List (Option Char) :=
  let lengths := List.range (cs.length + 1)
  match (if longest then lengths.reverse else lengths).find? fun n => fits items (seen (cs.take n)) with
  | some n => cs.drop n
  | none => cs

/-- A text without its shortest or longest end that fits a pattern.  The longest one begins in front of
the first border. -/
def withoutEnd (longest : Bool) (items : List PatternItem) (cs : List (Option Char)) :
    List (Option Char) :=
  let lengths :=
    if longest then List.range ((seen cs).length + 1) else (List.range (cs.length + 1)).reverse
  match lengths.find? fun n => fits items (seen (cs.drop n)) with
  | some n => cs.take n
  | none => cs

/-! ### Files -/

/-- Whether a text may stand for others. -/
def isPattern : List Glyph → Bool
  | ⟨'\\', false⟩ :: _ :: rest => isPattern rest
  | g :: rest =>
    (!g.quoted && (g.char == '*' || g.char == '?' || g.char == '[')) || isPattern rest
  | [] => false

/-- A text cut at its slashes. -/
def segments : List Glyph → List (List Glyph)
  | [] => [[]]
  | g :: gs =>
    if g.char = '/' then [] :: segments gs
    else
      match segments gs with
      | [] => [[g]]
      | s :: ss => (g :: s) :: ss

/-- The names in the directory at a path, with those for itself and the one above. -/
def namesIn (m : State) (path : List Char) : List (List Char) :=
  match m.locate (if path = [] then dot else bytesOf path) with
  | .error _ => []
  | .ok n =>
    match m.tree.node n with
    | .directory entries _ => ['.'] :: ['.', '.'] :: entries.map fun e => charsOf e.1
    | _ => []

/-- Whether a path leads to something, were it a link that leads nowhere; behind a slash at its end
there must be a directory. -/
def leadsSomewhere (m : State) (path : List Char) : Bool :=
  if path.getLast? = some '/' then (m.locate (bytesOf path)).isOk
  else match m.tree.parentOf m.process.directory (bytesOf path) with
  | .ok (parent, name) => (m.tree.child parent name).isSome || (m.locate (bytesOf path)).isOk
  | .error _ => false

/-- The text that is meant where a backslash takes the meaning of the next character away. -/
def unescaped : List Glyph → List Char
  | ⟨'\\', false⟩ :: g :: rest => g.char :: unescaped rest
  | g :: rest => g.char :: unescaped rest
  | [] => []

/-- The paths that begin with a path and go on with what fits some segments. -/
def pathsFrom (m : State) (front : List Char) : List (List Glyph) → List (List Char)
  | [] => []
  | [s] =>
    if isPattern s then
      (fitting m front s).map (front ++ ·)
    else
      let path := front ++ unescaped s
      if leadsSomewhere m path then [path] else []
  | s :: rest =>
    if isPattern s then
      (fitting m front s).flatMap fun name => pathsFrom m (front ++ name ++ ['/']) rest
    else pathsFrom m (front ++ unescaped s ++ ['/']) rest
where
  /-- The names in a directory that fit a segment. -/
  fitting (m : State) (front : List Char) (s : List Glyph) : List (List Char) :=
    (namesIn m front).filter fun name =>
      (name.head? != some '.' || (s.head?.map Glyph.char) == some '.') && fits (patternOf s) name

/-- Whether a text stands in front of another one, or is the same, in the order of their characters. -/
def isAtMost : List Char → List Char → Bool
  | [], _ => true
  | _ :: _, [] => false
  | a :: as, b :: bs => if a = b then isAtMost as bs else decide (a.toNat < b.toNat)

/-- The paths of all files that fit a text, in order. -/
def fittingPaths (m : State) (gs : List Glyph) : List (List Char) :=
  (pathsFrom m [] (segments gs)).mergeSort isAtMost

end LineShell.Machine.Script
