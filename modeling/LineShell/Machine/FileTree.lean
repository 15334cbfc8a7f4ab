/-
**A tree of files.**

Files live in numbered nodes: regular files, directories, symbolic links, named pipes, devices and
installed programs.  A directory maps names to nodes and knows its parent; a directory that was
removed keeps its node, so that a process standing in it can still leave, but has no entries and is
in nobody's.

A path is a sequence of names, walked from the root or from some directory.  On the way links are
followed, at most forty of them; a name has at most 255 bytes and a path at most 4095.  A path that
ends in a slash must lead to a directory.

Main definitions:

* `LineShell.Machine.Node`, `LineShell.Machine.FileTree` — the nodes;
* `LineShell.Machine.Path` — the names of a path;
* `LineShell.Machine.FileTree.resolve` — the node that a path leads to;
* `LineShell.Machine.FileTree.placeFor` — where a file is opened or created;
* `LineShell.Machine.FileTree.pathOf` — the path of a directory.

Main results:

* `LineShell.Machine.FileTree.resolve_nil` — the empty path leads nowhere.
-/

import LineShell.Errno
import LineShell.Text.Utf8

set_option autoImplicit false

namespace LineShell.Machine

/-! ### Nodes -/

/-- A program that is installed, not written as a script. -/
inductive Tool where
  /-- The script interpreter. -/
  | interpreter
  /-- Copies its input, or files, to its output. -/
  | cat
  /-- Prints its arguments. -/
  | echo
  /-- Prints its arguments by a format. -/
  | printf
  /-- Succeeds. -/
  | succeed
  /-- Fails. -/
  | fail
  /-- Copies the first lines. -/
  | head
  /-- Creates files. -/
  | touch
  /-- Creates directories. -/
  | mkdir
  /-- Removes empty directories. -/
  | rmdir
  /-- Prints facts about files. -/
  | stat
  /-- Runs a program in another environment. -/
  | env
  /-- Changes the modes of the terminal. -/
  | stty
deriving DecidableEq

/-- What a node holds. -/
inductive Node where
  /-- A regular file: its bytes and its permission bits. -/
  | file (content : Bytes) (mode : Nat)
  /-- A directory: its entries in the order they were made, and the directory above it. -/
  | directory (entries : List (Bytes × Nat)) (parent : Nat)
  /-- A symbolic link. -/
  | link (target : Bytes)
  /-- A named pipe: the bytes that were written and not yet read. -/
  | fifo (held : Bytes)
  /-- The device that is always empty. -/
  | null
  /-- The device that holds zeros without end. -/
  | zeros
  /-- The device that has no room left. -/
  | full
  /-- The terminal. -/
  | terminal
  /-- A device that is not there. -/
  | absent
  /-- An installed program. -/
  | program (tool : Tool)
deriving DecidableEq

/-- The nodes by their numbers; the root is number zero. -/
structure FileTree where
  /-- The nodes. -/
  nodes : Array Node

namespace FileTree

/-- The number of the root. -/
def root : Nat := 0

/-- The node of a number. -/
def node (t : FileTree) (n : Nat) : Node := t.nodes[n]?.getD .null

/-- The tree with another node in the place of a number. -/
def setNode (t : FileTree) (n : Nat) (node : Node) : FileTree := ⟨t.nodes.setIfInBounds n node⟩

/-- The tree with one node more, and its number. -/
def addNode (t : FileTree) (node : Node) : Nat × FileTree := (t.nodes.size, ⟨t.nodes.push node⟩)

/-- The tree with a name for a node in a directory. -/
def enter (t : FileTree) (directory : Nat) (name : Bytes) (n : Nat) : FileTree :=
  match t.node directory with
  | .directory entries parent => t.setNode directory (.directory (entries ++ [(name, n)]) parent)
  | _ => t

/-- The tree without a name in a directory. -/
def erase (t : FileTree) (directory : Nat) (name : Bytes) : FileTree :=
  match t.node directory with
  | .directory entries parent =>
    t.setNode directory (.directory (entries.filter (·.1 != name)) parent)
  | _ => t

/-- The tree with one node more under a name, and the node's number. -/
def create (t : FileTree) (directory : Nat) (name : Bytes) (node : Node) : Nat × FileTree :=
  match t.addNode node with
  | (n, t') => (n, t'.enter directory name n)

/-- The node of a name in a directory. -/
def child (t : FileTree) (directory : Nat) (name : Bytes) : Option Nat :=
  match t.node directory with
  | .directory entries _ => entries.lookup name
  | _ => none

/-- Whether a node is a directory. -/
def isDirectory (t : FileTree) (n : Nat) : Bool :=
  match t.node n with
  | .directory _ _ => true
  | _ => false

/-- The name of a directory in the directory above it; `none` if it was removed. -/
def nameOf (t : FileTree) (n : Nat) : Option (Nat × Bytes) :=
  match t.node n with
  | .directory _ parent =>
    match t.node parent with
    | .directory entries _ => (entries.find? (·.2 == n)).map fun e => (parent, e.1)
    | _ => none
  | _ => none

/-- Whether a directory still has a place in the tree. -/
def isLinked (t : FileTree) (n : Nat) : Bool := n == root || (t.nameOf n).isSome

end FileTree

/-! ### Paths -/

/-- The byte between the names of a path. -/
def slash : UInt8 := 47

/-- The name of a directory in itself. -/
def dot : Bytes := [46]

/-- The name of the directory above. -/
def dotDot : Bytes := [46, 46]

/-- A path, taken apart. -/
structure Path where
  /-- Whether it starts at the root. -/
  absolute : Bool
  /-- The names on the way. -/
  names : List Bytes
  /-- Whether it ends in a slash. -/
  trailing : Bool
deriving DecidableEq

namespace Path

/-- The non-empty pieces of a byte string between its slashes. -/
def pieces : Bytes → List Bytes
  | [] => []
  | b :: rest =>
    if b = slash then pieces rest
    else
      match rest with
      | [] => [[b]]
      | c :: _ =>
        if c = slash then [b] :: pieces rest
        else
          match pieces rest with
          | [] => [[b]]
          | name :: names => (b :: name) :: names

/-- A path as it is written. -/
def ofBytes (bs : Bytes) : Path := ⟨bs.head? == some slash, pieces bs, bs.getLast? == some slash⟩

/-- The names, with one for the directory that a slash at the end asks for. -/
def steps (p : Path) : List Bytes := if p.trailing then p.names ++ [dot] else p.names

/-- The most bytes of a path. -/
def maxLength : Nat := 4095

/-- The most bytes of a name. -/
def maxNameLength : Nat := 255

/-- A path that may be walked: neither empty nor too long. -/
def check (bs : Bytes) : Except Errno Path :=
  if bs = [] then .error Errno.noEntry
  else if bs.length ≤ maxLength then .ok (ofBytes bs)
  else .error Errno.nameTooLong

end Path

/-! ### Walking -/

/-- Where a file is, or would be. -/
inductive Place where
  /-- It is there. -/
  | existing (n : Nat)
  /-- The directory has no such name yet. -/
  | vacant (directory : Nat) (name : Bytes)

namespace FileTree

/-- The most links that are followed on one way. -/
def maxLinks : Nat := 40

/-- Where a walk goes on behind a link in a directory. -/
def behind (directory : Nat) (target : Path) : Nat := if target.absolute then root else directory

/-- Walks names from a directory, following every link. -/
def follow (t : FileTree) (links directory : Nat) (names : List Bytes) : Except Errno Nat :=
  match names with
  | [] => .ok directory
  | name :: rest =>
    match t.node directory with
    | .directory entries parent =>
      if name = dot then follow t links directory rest
      else if name = dotDot then follow t links parent rest
      else if Path.maxNameLength < name.length then .error Errno.nameTooLong
      else
        match entries.lookup name with
        | none => .error Errno.noEntry
        | some n =>
          match t.node n with
          | .link target =>
            match links with
            | 0 => .error Errno.tooManyLinks
            | links + 1 =>
              follow t links (behind directory (.ofBytes target))
                ((Path.ofBytes target).steps ++ rest)
          | _ => follow t links n rest
    | _ => .error Errno.notDirectory
termination_by (links, names.length)

/-- The node that a path leads to from a directory. -/
def resolve (t : FileTree) (directory : Nat) (path : Bytes) : Except Errno Nat := do
  let p ← Path.check path
  t.follow maxLinks (behind directory p) p.steps

theorem resolve_nil (t : FileTree) (directory : Nat) :
    t.resolve directory [] = .error Errno.noEntry := rfl

/-- The directory that holds a path's last name, and that name; links on the way are followed. -/
def parentOf (t : FileTree) (directory : Nat) (path : Bytes) : Except Errno (Nat × Bytes) := do
  let p ← Path.check path
  let n ← t.follow maxLinks (behind directory p) p.names.dropLast
  match t.node n, p.names.getLast? with
  | .directory _ _, some name =>
    if Path.maxNameLength < name.length then .error Errno.nameTooLong else .ok (n, name)
  | .directory _ _, none => .ok (n, dot)
  | _, _ => .error Errno.notDirectory

/-- Walks to the place of a path's last name, following links there too.  What ends in a slash, or
in the name of a directory for itself or the one above, cannot be the place of a file. -/
def placeAt (t : FileTree) (links directory : Nat) (names : List Bytes) (trailing : Bool) :
    Except Errno Place :=
  match names with
  | [] => .ok (.existing directory)
  | name :: rest =>
    match t.node directory with
    | .directory entries parent =>
      if name = dot then placeAt t links directory rest trailing
      else if name = dotDot then placeAt t links parent rest trailing
      else if rest = [] ∧ trailing = true then .error Errno.isDirectory
      else if Path.maxNameLength < name.length then .error Errno.nameTooLong
      else
        match entries.lookup name with
        | none => if rest = [] then .ok (.vacant directory name) else .error Errno.noEntry
        | some n =>
          match t.node n with
          | .link target =>
            match links with
            | 0 => .error Errno.tooManyLinks
            | links + 1 =>
              placeAt t links (behind directory (.ofBytes target))
                ((Path.ofBytes target).names ++ rest)
                (if rest = [] then (Path.ofBytes target).trailing else trailing)
          | _ => placeAt t links n rest trailing
    | _ => .error Errno.notDirectory
termination_by (links, names.length)

/-- The place at which a path is opened, or created if it is vacant. -/
def placeFor (t : FileTree) (directory : Nat) (path : Bytes) : Except Errno Place := do
  let p ← Path.check path
  t.placeAt maxLinks (behind directory p) p.names p.trailing

/-! ### Names -/

/-- The names that lead from the root to a directory, at most so many of them. -/
def namesTo (t : FileTree) : Nat → Nat → Option (List Bytes)
  | 0, _ => none
  | fuel + 1, n =>
    if n = root then some []
    else
      match t.nameOf n with
      | none => none
      | some (parent, name) => (namesTo t fuel parent).map (· ++ [name])

/-- A path from the root, written. -/
def written (names : List Bytes) : Bytes :=
  match names with
  | [] => [slash]
  | _ => names.flatMap (slash :: ·)

/-- The path of a directory; there is none if the directory was removed. -/
def pathOf (t : FileTree) (n : Nat) : Except Errno Bytes :=
  match t.namesTo (t.nodes.size + 1) n with
  | some names => .ok (written names)
  | none => .error Errno.noEntry

/-- All nodes below a directory with their paths from it, at most so many levels deep. -/
def below (t : FileTree) : Nat → Nat → List Bytes → List (Bytes × Node)
  | 0, _, _ => []
  | fuel + 1, n, above =>
    match t.node n with
    | .directory entries _ =>
      entries.flatMap fun (name, m) =>
        let names := above ++ [name]
        ((written names).tail, t.node m) :: below t fuel m names
    | _ => []

/-- All nodes below a directory with their paths from it. -/
def listing (t : FileTree) (n : Nat) : List (Bytes × Node) := t.below (t.nodes.size + 1) n []

/-! ### Building a tree -/

/-- The tree of one directory. -/
def bare : FileTree := ⟨#[.directory [] root]⟩

/-- Makes the directories of a path that are missing, and gives the last one's number. -/
def makeDirectories (t : FileTree) (directory : Nat) : List Bytes → Nat × FileTree
  | [] => (directory, t)
  | name :: rest =>
    match t.follow maxLinks directory [name] with
    | .ok n => t.makeDirectories n rest
    | .error _ =>
      match t.create directory name (.directory [] directory) with
      | (n, t') => makeDirectories t' n rest

/-- Puts a node at a path below a directory; missing directories on the way are made.  A regular
file goes to where a link at the path leads. -/
def plant (t : FileTree) (directory : Nat) (path : Bytes) (node : Node) : FileTree :=
  let p := Path.ofBytes path
  let start := behind directory p
  match node, p.names with
  | .directory _ _, names => (t.makeDirectories start names).2
  | _, [] => t
  | _, names@(_ :: _) =>
    match t.makeDirectories start names.dropLast, names.getLast? with
    | (parent, t'), some name =>
      match t'.placeAt maxLinks parent [name] false with
      | .ok (.existing n) => t'.setNode n node
      | .ok (.vacant d name') => (t'.create d name' node).2
      | .error _ => t'
    | (_, t'), none => t'

end FileTree

end LineShell.Machine
