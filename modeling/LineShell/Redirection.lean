/-
**Redirections.**

A command may name one standard stream and the file that takes its place: `<` stands for standard
input and `>` for standard output.

Main definitions:

* `LineShell.Stream` — the two streams, their markers and descriptors;
* `LineShell.Redirection` — a stream and its target.

Main results:

* `LineShell.Stream.ofMarker?_eq_some_iff` — only the exact markers are recognised.
-/

import LineShell.CString

set_option autoImplicit false

namespace LineShell

/-- The standard stream that a redirection replaces. -/
inductive Stream where
  /-- Standard input, marked `<`. -/
  | input
  /-- Standard output, marked `>`. -/
  | output
deriving DecidableEq

namespace Stream

/-- The token that announces a redirection of the stream. -/
def marker : Stream → String
  | .input => "<"
  | .output => ">"

/-- The stream that a token announces, if it is exactly a marker. -/
def ofMarker? (token : String) : Option Stream :=
  if token = "<" then some .input else if token = ">" then some .output else none

/-- The descriptor of the stream. -/
def descriptor : Stream → Nat
  | .input => 0
  | .output => 1

theorem ofMarker?_eq_some_iff (token : String) (s : Stream) :
    ofMarker? token = some s ↔ token = s.marker := by
  unfold ofMarker?
  cases s <;> grind [marker]

@[simp] theorem ofMarker?_marker (s : Stream) : ofMarker? s.marker = some s :=
  (ofMarker?_eq_some_iff _ _).2 rfl

end Stream

/-- A stream and the path of the file that replaces it. -/
structure Redirection where
  /-- The stream to replace. -/
  stream : Stream
  /-- The path to open. -/
  target : CString
deriving DecidableEq

/-- A redirection to the path spelled by a text, if that holds no NUL. -/
def Redirection.ofText (stream : Stream) (target : String) : Except NulError Redirection :=
  (CString.ofString target).map (⟨stream, ·⟩)

end LineShell
