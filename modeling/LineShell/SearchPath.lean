/-
**Finding a program.**

A command name that begins with a slash is a path already.  Any other name is first looked for as it
stands, relative to the working directory: if something is there, or cannot be looked at for a reason
other than not being there, the name is used as it is and the launch decides what becomes of it.
Only a name that is not there is searched for in the directories of the search path, in order; there
a candidate that cannot be looked at, for whatever reason, is passed over.

A search path is written with colons between the directories.  Empty segments name no directory.

Main definitions:

* `LineShell.SearchPath`, `LineShell.SearchPath.parse`, `LineShell.SearchPath.join` — the directories
  and their written form;
* `LineShell.Probe` — what looking at a path shows;
* `LineShell.SearchPath.resolve` — the path of a command name.

Main results:

* `LineShell.SearchPath.segments_cons_of_ne`, `LineShell.SearchPath.segments_colon` — how the written
  form is cut.
-/

import LineShell.Text.Utf8

set_option autoImplicit false

namespace LineShell

/-- What looking at a path shows. -/
inductive Probe where
  /-- Something is there. -/
  | found
  /-- There is no such entry. -/
  | missing
  /-- It cannot be looked at for some other reason. -/
  | unreadable
deriving DecidableEq

/-- A command name that leads to no program. -/
inductive ResolveError where
  /-- Neither the working directory nor the search path has the name. -/
  | notFound (name : String)
deriving DecidableEq

/-- The wording of the error. -/
def ResolveError.message : ResolveError → String
  | .notFound name => name ++ ": command not found"

/-- The directories to search, in order. -/
structure SearchPath where
  /-- The directories as they were written. -/
  directories : List String
deriving DecidableEq

namespace SearchPath

/-- The pieces of a text between its colons, empty ones included. -/
def segments : List Char → List (List Char)
  | [] => [[]]
  | c :: rest =>
    if c = ':' then [] :: segments rest
    else
      match segments rest with
      | [] => [[c]]
      | piece :: pieces => (c :: piece) :: pieces

@[simp] theorem segments_nil : segments [] = [[]] := rfl

@[simp] theorem segments_colon (rest : List Char) : segments (':' :: rest) = [] :: segments rest := by
  simp [segments]

theorem segments_ne_nil (cs : List Char) : segments cs ≠ [] := by
  cases cs with
  | nil => simp
  | cons c rest =>
    simp only [segments]
    split
    · simp
    · split <;> simp

theorem segments_cons_of_ne {c : Char} (h : c ≠ ':') (rest : List Char) :
    segments (c :: rest) = (c :: (segments rest).headD []) :: (segments rest).tail := by
  cases hs : segments rest with
  | nil => exact absurd hs (segments_ne_nil rest)
  | cons piece pieces => simp [segments, h, hs]

/-- The search path written in a text; without a text it is empty. -/
def parse (text : Option String) : SearchPath :=
  ⟨((segments (text.getD "").toList).filter (!·.isEmpty)).map String.ofList⟩

/-- The written form of a search path. -/
def join (path : SearchPath) : String := ":".intercalate path.directories

/-- The path of a name inside a directory: a slash stands between them unless the directory ends
with one. -/
def candidate (directory name : String) : String :=
  if directory.toList.getLast? = some '/' then directory ++ name else directory ++ "/" ++ name

/-- The first directory's candidate at which something is found. -/
def search (path : SearchPath) (probe : String → Probe) (name : String) : Option String :=
  (path.directories.map (candidate · name)).find? fun c => probe c == .found

/-- The path of the program that a command name stands for. -/
def resolve (path : SearchPath) (probe : String → Probe) (name : String) :
    Except ResolveError String :=
  if name = "" then .error (.notFound "")
  else if name.toList.head? = some '/' then .ok name
  else
    match probe name with
    | .found | .unreadable => .ok name
    | .missing =>
      match path.search probe name with
      | some found => .ok found
      | none => .error (.notFound name)

end SearchPath

end LineShell
