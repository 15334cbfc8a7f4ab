/-
**Arithmetic.**

An expression is made of whole numbers of 64 bits, variables, parentheses and the usual operators; an
assignment is an expression too.  What stands behind an operator that has already decided the result
is read but has no effect.

Main definitions:

* `LineShell.Machine.Script.calculate` — the value of an expression.
-/

import LineShell.Machine.Script.Number
import LineShell.Machine.Script.Word

set_option autoImplicit false

namespace LineShell.Machine.Script

/-! ### Tokens -/

/-- A part of an expression. -/
inductive Sign where
  /-- A number. -/
  | number (n : Int)
  /-- A variable. -/
  | variable_ (name : List Char)
  /-- An operator. -/
  | operator (text : String)
  /-- A character that has no meaning. -/
  | senseless
deriving DecidableEq

/-- The operators, longer ones first. -/
def signs : List String :=
  ["<<=", ">>=", "==", "!=", "<=", ">=", "&&", "||", "<<", ">>", "+=", "-=", "*=", "/=", "%=", "&=",
   "|=", "^=", "=", "<", ">", "!", "~", "+", "-", "*", "/", "%", "&", "|", "^", "?", ":", "(", ")"]

/-- The parts of an expression. -/
def signsOf : Nat → List Char → List Sign
  | 0, _ => []
  | _, [] => []
  | fuel + 1, c :: rest =>
    if c = ' ' ∨ c = '\t' ∨ c = '\n' then signsOf fuel rest
    else if c.isDigit then
      match naturalAt (c :: rest) with
      | (n, length) => .number (clamp n) :: signsOf fuel ((c :: rest).drop (max length 1))
    else if isNameStart c then
      .variable_ ((c :: rest).takeWhile isNameChar) ::
        signsOf fuel ((c :: rest).dropWhile isNameChar)
    else
      match signs.find? fun s => s.toList.isPrefixOf (c :: rest) with
      | some s => .operator s :: signsOf fuel ((c :: rest).drop s.length)
      | none => [.senseless]

/-! ### Values -/

/-- The variables that an expression reads and sets. -/
structure Scope where
  /-- The values before. -/
  before : List Char → Option (List Char)
  /-- The assignments so far, the newest first. -/
  assigned : List (List Char × Int)

/-- Why an expression has no value. -/
inductive Nonsense where
  /-- Something else is needed. -/
  | expecting (what : String)
  /-- A division by zero. -/
  | divisionByZero
  /-- A variable that is no number. -/
  | noNumber (text : List Char)

/-- A place in an expression. -/
structure Calculation where
  /-- What follows. -/
  rest : List Sign
  /-- The variables. -/
  scope : Scope

/-- The value of a variable. -/
def Scope.value (s : Scope) (name : List Char) : Except Nonsense Int :=
  match s.assigned.lookup name with
  | some n => .ok n
  | none =>
    let text := (s.before name).getD []
    match wholeNumber? text with
    | some n => .ok n
    | none => .error (.noNumber text)

/-- One for what holds and zero for what does not. -/
def truth (b : Bool) : Int := if b then 1 else 0

/-- The value of an operator with two operands. -/
def operate (o : String) (a b : Int) : Except Nonsense Int :=
  match o with
  | "*" => .ok (wrap (a * b))
  | "/" => if b = 0 then .error .divisionByZero else .ok (wrap (a.tdiv b))
  | "%" => if b = 0 then .error .divisionByZero else .ok (wrap (a.tmod b))
  | "+" => .ok (wrap (a + b))
  | "-" => .ok (wrap (a - b))
  | "<<" => .ok (wrap (a <<< (b % 64).toNat))
  | ">>" => .ok (a >>> (b % 64).toNat)
  | "<" => .ok (truth (a < b))
  | "<=" => .ok (truth (a ≤ b))
  | ">" => .ok (truth (b < a))
  | ">=" => .ok (truth (b ≤ a))
  | "==" => .ok (truth (a == b))
  | "!=" => .ok (truth (a != b))
  | "&" => .ok (wrap (wordOf a &&& wordOf b : Nat))
  | "^" => .ok (wrap (wordOf a ^^^ wordOf b : Nat))
  | _ => .ok (wrap (wordOf a ||| wordOf b : Nat))

/-- The operators with two operands by how tightly they bind, the tightest first. -/
def levels : List (List String) :=
  [["*", "/", "%"], ["+", "-"], ["<<", ">>"], ["<", "<=", ">", ">="], ["==", "!="], ["&"], ["^"], ["|"]]

/-- The operators that assign what they calculate. -/
def assigners : List String := ["=", "*=", "/=", "%=", "+=", "-=", "<<=", ">>=", "&=", "^=", "|="]

/-- The operator at a place. -/
def Calculation.operator? (c : Calculation) : Option String :=
  match c.rest with
  | .operator o :: _ => some o
  | _ => none

/-- The place behind the next part. -/
def Calculation.onward (c : Calculation) : Calculation := { c with rest := c.rest.tail }

mutual

/-- A number, a variable, an operator with one operand or parentheses; without effect unless it is
`live`. -/
def operand (fuel : Nat) (live : Bool) (c : Calculation) : Except Nonsense (Int × Calculation) :=
  match fuel with
  | 0 => .error (.expecting "primary")
  | fuel + 1 =>
    match c.rest with
    | .number n :: _ => .ok (n, c.onward)
    | .variable_ x :: _ =>
      if live then (c.scope.value x).map fun n => (n, c.onward) else .ok (0, c.onward)
    | .operator "(" :: _ => do
      let (n, r) ← assignment fuel live c.onward
      if r.operator? = some ")" then return (n, r.onward) else throw (.expecting "')'")
    | .operator "+" :: _ => operand fuel live c.onward
    | .operator "-" :: _ => (operand fuel live c.onward).map fun (n, r) => (wrap (-n), r)
    | .operator "!" :: _ => (operand fuel live c.onward).map fun (n, r) => (truth (n == 0), r)
    | .operator "~" :: _ => (operand fuel live c.onward).map fun (n, r) => (-n - 1, r)
    | _ => .error (.expecting "primary")

/-- Operands between operators of some levels. -/
def operation (fuel : Nat) (live : Bool) (ls : List (List String)) (c : Calculation) :
    Except Nonsense (Int × Calculation) :=
  match fuel, ls with
  | 0, _ => .error (.expecting "primary")
  | fuel + 1, [] => operand fuel live c
  | fuel + 1, l :: tighter => do
    let (n, r) ← operation fuel live tighter c
    operationAfter fuel live l tighter n r

/-- What follows an operand, as long as it is an operator of a level. -/
def operationAfter (fuel : Nat) (live : Bool) (l : List String) (tighter : List (List String))
    (n : Int) (c : Calculation) : Except Nonsense (Int × Calculation) :=
  match fuel, c.operator? with
  | fuel + 1, some o =>
    if l.contains o then do
      let (k, r) ← operation fuel live tighter c.onward
      operationAfter fuel live l tighter (← if live then operate o n k else .ok k) r
    else .ok (n, c)
  | _, _ => .ok (n, c)

/-- Operations all of which must hold. -/
def conjunction (fuel : Nat) (live : Bool) (c : Calculation) : Except Nonsense (Int × Calculation) :=
  match fuel with
  | 0 => .error (.expecting "primary")
  | fuel + 1 => do
    let (n, r) ← operation fuel live levels.reverse c
    if r.operator? = some "&&" then
      let (k, r') ← conjunction fuel (live && n != 0) r.onward
      return (truth (n != 0 && k != 0), r')
    else return (n, r)

/-- Conjunctions one of which must hold. -/
def disjunction (fuel : Nat) (live : Bool) (c : Calculation) : Except Nonsense (Int × Calculation) :=
  match fuel with
  | 0 => .error (.expecting "primary")
  | fuel + 1 => do
    let (n, r) ← conjunction fuel live c
    if r.operator? = some "||" then
      let (k, r') ← disjunction fuel (live && n == 0) r.onward
      return (truth (n != 0 || k != 0), r')
    else return (n, r)

/-- One of two values by a condition. -/
def alternative (fuel : Nat) (live : Bool) (c : Calculation) : Except Nonsense (Int × Calculation) :=
  match fuel with
  | 0 => .error (.expecting "primary")
  | fuel + 1 => do
    let (n, r) ← disjunction fuel live c
    if r.operator? = some "?" then
      let (a, r') ← assignment fuel (live && n != 0) r.onward
      if r'.operator? = some ":" then
        let (b, r'') ← alternative fuel (live && n == 0) r'.onward
        return (if n != 0 then a else b, r'')
      else throw (.expecting "':'")
    else return (n, r)

/-- An assignment, or an expression without one. -/
def assignment (fuel : Nat) (live : Bool) (c : Calculation) : Except Nonsense (Int × Calculation) :=
  match fuel with
  | 0 => .error (.expecting "primary")
  | fuel + 1 =>
    match c.rest with
    | .variable_ x :: .operator o :: rest =>
      if assigners.contains o then do
        let (n, r) ← assignment fuel live { c with rest := rest }
        if live then
          let value ←
            if o = "=" then .ok n
            else do operate (String.ofList o.toList.dropLast) (← r.scope.value x) n
          let scope := { r.scope with assigned := (x, value) :: r.scope.assigned }
          return (value, { r with scope := scope })
        else return (n, r)
      else alternative fuel live c
    | _ => alternative fuel live c

end

/-- The value of an expression, and the assignments in it, the newest first. -/
def calculate (before : List Char → Option (List Char)) (expression : List Char) :
    Except Nonsense (Int × List (List Char × Int)) := do
  let signs := signsOf (expression.length + 1) expression
  let (n, r) ← assignment (32 * (signs.length + 2)) true ⟨signs, before, []⟩
  if r.rest = [] then return (n, r.scope.assigned) else throw (.expecting "EOF")

end LineShell.Machine.Script
