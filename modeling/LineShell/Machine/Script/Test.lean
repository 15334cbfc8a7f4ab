/-
**Conditions.**

A condition is made of tests of texts, numbers and files, which may be negated, grouped and joined.
How the words of a condition are taken depends on their number: two operands around an operator are
compared whatever the operands look like.

The words are walked along from a place; a word is an operand unless it is an operator that has what
it needs.

Main definitions:

* `LineShell.Machine.Script.Operator`, `LineShell.Machine.Script.operatorOf?` — the operators;
* `LineShell.Machine.Script.holds` — whether a condition holds.

Main results:

* `LineShell.Machine.Script.holds_nil` — no words are no condition that holds.
-/

import LineShell.Machine.Script.Runner

set_option autoImplicit false

namespace LineShell.Machine.Script

/-! ### Operators -/

/-- What an operator needs. -/
inductive OperatorKind where
  /-- One operand behind it. -/
  | unary
  /-- Two operands around it. -/
  | binary
  /-- A condition behind it. -/
  | negation
  /-- Conditions around it both of which have to hold. -/
  | both
  /-- Conditions around it one of which has to hold. -/
  | either
  /-- A condition behind it up to the closing one. -/
  | opening
  /-- An opening one in front. -/
  | closing
deriving DecidableEq

/-- The operators with one operand. -/
def unaryOperators : List String :=
  ["-r", "-w", "-x", "-e", "-f", "-d", "-c", "-b", "-p", "-u", "-g", "-k", "-s", "-t", "-z", "-n",
   "-h", "-O", "-G", "-L", "-S"]

/-- The operators with two operands. -/
def binaryOperators : List String :=
  ["=", "!=", "<", ">", "-eq", "-ne", "-ge", "-gt", "-le", "-lt", "-nt", "-ot", "-ef"]

/-- The kind of the operator that a word is. -/
def operatorKind? (word : List Char) : Option OperatorKind :=
  let text := String.ofList word
  if unaryOperators.contains text then some .unary
  else if binaryOperators.contains text then some .binary
  else
    match text with
    | "!" => some .negation
    | "-a" => some .both
    | "-o" => some .either
    | "(" => some .opening
    | ")" => some .closing
    | _ => none

/-! ### Words of a condition -/

/-- What a word is where it stands in a condition. -/
inductive Standing where
  /-- Behind the last word. -/
  | ended
  /-- An operand. -/
  | operand
  /-- An operator. -/
  | operator (kind : OperatorKind)
deriving DecidableEq

/-- What the first of some words is. -/
def standingOf (words : List (List Char)) : Standing :=
  match words with
  | [] => .ended
  | word :: rest =>
    match operatorKind? word, rest with
    | none, _ => .operand
    | some .unary, [] => .operand
    | some .unary, [_] => .operator .unary
    | some .unary, next :: _ =>
      if operatorKind? next = some .binary then .operand else .operator .unary
    | some .opening, [] => .operand
    | some kind, _ => .operator kind

/-- Why words are no condition. -/
inductive Misuse where
  /-- A word has no meaning where it stands. -/
  | unexpected (word : List Char)
  /-- An operator has no operand. -/
  | noOperand (operator : List Char)
  /-- An opened condition has no end. -/
  | unclosed
  /-- An operand is no number. -/
  | noNumber (word : List Char)

/-- The wording of the misuse. -/
def Misuse.message : Misuse → List Char
  | .unexpected [] => "unexpected operator".toList
  | .unexpected word => word ++ ": unexpected operator".toList
  | .noOperand operator => operator ++ ": argument expected".toList
  | .unclosed => "closing paren expected".toList
  | .noNumber word => "Illegal number: ".toList ++ word

/-! ### Tests -/

/-- Whether a path leads to a node of some kind. -/
def nodeIs (m : State) (path : List Char) (p : Node → Bool) : Bool :=
  match m.locate (bytesOf path) with
  | .ok n => p (m.tree.node n)
  | .error _ => false

/-- Whether a node may be run. -/
def isRunnable : Node → Bool
  | .file _ mode => mode &&& 0o111 != 0
  | .directory _ _ | .program _ => true
  | _ => false

/-- Whether a node is a regular file, one of whose permission bits is set. -/
def hasMode (bits : Nat) : Node → Bool
  | .file _ mode => mode &&& bits != 0
  | _ => false

/-- The number that an operand is. -/
def operandNumber (word : List Char) : Except Misuse Int :=
  match integer? word with
  | some n => .ok n
  | none => .error (.noNumber word)

/-- A test with one operand. -/
def unaryTest (m : State) (operator : String) (operand : List Char) : Except Misuse Bool :=
  match operator with
  | "-n" => .ok !operand.isEmpty
  | "-z" => .ok operand.isEmpty
  | "-t" => (operandNumber operand).map fun n => decide (0 ≤ n) && m.isTerminal n.toNat
  | "-x" => .ok (nodeIs m operand isRunnable)
  | "-f" => .ok (nodeIs m operand fun | .file _ _ | .program _ => true | _ => false)
  | "-d" => .ok (nodeIs m operand fun | .directory _ _ => true | _ => false)
  | "-p" => .ok (nodeIs m operand fun | .fifo _ => true | _ => false)
  | "-c" => .ok (nodeIs m operand fun
      | .null | .zeros | .full | .terminal | .absent => true
      | _ => false)
  | "-s" => .ok (nodeIs m operand fun
      | .file content _ => !content.isEmpty
      | .program _ | .directory _ _ => true
      | _ => false)
  | "-u" => .ok (nodeIs m operand (hasMode 0o4000))
  | "-g" => .ok (nodeIs m operand (hasMode 0o2000))
  | "-k" => .ok (nodeIs m operand (hasMode 0o1000))
  | "-b" | "-S" => .ok false
  | "-h" | "-L" =>
    .ok (match linkNode (bytesOf operand) m with | .ok (.link _) => true | _ => false)
  | _ => .ok (nodeIs m operand fun _ => true)

/-- A test with two operands. -/
def binaryTest (m : State) (left : List Char) (operator : String) (right : List Char) :
    Except Misuse Bool :=
  let compare := fun (p : Int → Int → Bool) => do
    return p (← operandNumber left) (← operandNumber right)
  match operator with
  | "=" => .ok (left == right)
  | "!=" => .ok (left != right)
  | "<" => .ok (decide (left < right))
  | ">" => .ok (decide (right < left))
  | "-eq" => compare (· == ·)
  | "-ne" => compare (· != ·)
  | "-lt" => compare fun a b => decide (a < b)
  | "-le" => compare fun a b => decide (a ≤ b)
  | "-gt" => compare fun a b => decide (b < a)
  | "-ge" => compare fun a b => decide (b ≤ a)
  | "-ef" =>
    match m.locate (bytesOf left), m.locate (bytesOf right) with
    | .ok a, .ok b => .ok (a == b)
    | _, _ => .ok false
  | _ => .ok false

/-! ### Conditions -/

mutual

/-- Conditions one of which has to hold; the words begin with the last one that was used. -/
def anyOf (fuel : Nat) (m : State) (standing : Standing) (words : List (List Char)) :
    Except Misuse (Bool × List (List Char)) :=
  match fuel with
  | 0 => .ok (false, [])
  | fuel + 1 => do
    let (b, rest) ← allOf fuel m standing words
    if standingOf rest.tail = .operator .either then
      let (c, rest') ← anyOf fuel m (standingOf (rest.drop 2)) (rest.drop 2)
      return (b || c, rest')
    else return (b, rest)

/-- Conditions all of which have to hold. -/
def allOf (fuel : Nat) (m : State) (standing : Standing) (words : List (List Char)) :
    Except Misuse (Bool × List (List Char)) :=
  match fuel with
  | 0 => .ok (false, [])
  | fuel + 1 => do
    let (b, rest) ← notOf fuel m standing words
    if standingOf rest.tail = .operator .both then
      let (c, rest') ← allOf fuel m (standingOf (rest.drop 2)) (rest.drop 2)
      return (b && c, rest')
    else return (b, rest)

/-- A condition that may be negated. -/
def notOf (fuel : Nat) (m : State) (standing : Standing) (words : List (List Char)) :
    Except Misuse (Bool × List (List Char)) :=
  match fuel with
  | 0 => .ok (false, [])
  | fuel + 1 =>
    if standing = .operator .negation then
      let next := standingOf words.tail
      (notOf fuel m next (if next = .ended then words else words.tail)).map fun (b, rest) => (!b, rest)
    else primary fuel m standing words

/-- One test, or a condition in parentheses. -/
def primary (fuel : Nat) (m : State) (standing : Standing) (words : List (List Char)) :
    Except Misuse (Bool × List (List Char)) :=
  match fuel, standing, words with
  | fuel + 1, .operator .opening, _ :: rest =>
    if standingOf rest = .operator .closing then .ok (false, rest)
    else do
      let (b, rest') ← anyOf fuel m (standingOf rest) rest
      if standingOf rest'.tail = .operator .closing then return (b, rest'.tail) else throw .unclosed
  | _, .operator .unary, operator :: rest =>
    match rest with
    | [] => .error (.noOperand operator)
    | operand :: _ => (unaryTest m (String.ofList operator) operand).map fun b => (b, rest)
  | _, .ended, _ => .ok (false, words)
  | _, _, left :: rest =>
    if standingOf rest = .operator .binary then
      match rest with
      | operator :: right :: more =>
        (binaryTest m left (String.ofList operator) right).map fun b => (b, right :: more)
      | operator :: [] => .error (.noOperand operator)
      | [] => .ok (false, [])
    else .ok (!left.isEmpty, words)
  | _, _, [] => .ok (false, [])

end

/-- Whether the condition that begins with a word of some standing holds; words that are left over are
a misuse. -/
def conditionFrom (m : State) (standing : Standing) (words : List (List Char)) :
    Except Misuse Bool := do
  let (b, rest) ← anyOf (4 * words.length + 8) m standing words
  match rest with
  | word :: _ :: _ => throw (.unexpected word)
  | _ => return b

/-- Whether a condition holds, or does not if `negated`.  Among three or four words negations in front
count once however many they are. -/
def holdsUnless (m : State) (negated : Bool) : List (List Char) → Except Misuse Bool
  | [] => .ok negated
  | words@(first :: rest) =>
    let conclude := fun (b : Except Misuse Bool) => b.map (negated != ·)
    let whole := conclude (conditionFrom m (standingOf words) words)
    if words.length = 3 ∧ (rest.head?.bind operatorKind?) = some .binary then
      conclude (conditionFrom m .operand words)
    else if words.length = 3 ∨ words.length = 4 then
      if first = ['('] ∧ words.getLast? = some [')'] then
        conclude (conditionFrom m (standingOf rest.dropLast) rest.dropLast)
      else if first = ['!'] then holdsUnless m true rest
      else whole
    else whole

/-- Whether a condition holds. -/
def holds (m : State) (words : List (List Char)) : Except Misuse Bool := holdsUnless m false words

/-- No words are no condition that holds. -/
theorem holds_nil (m : State) : holds m [] = .ok false := rfl

end LineShell.Machine.Script
