/-
**Options of the installed programs.**

An argument that begins with a dash holds options, one letter each; some take a value, which is the
rest of the argument or the next one.  Behind two dashes stands the name of one option, and its value
behind an equals sign.  All other arguments are operands, and so is everything behind a double dash
alone.

Main definitions:

* `LineShell.Machine.Arguments`, `LineShell.Machine.Arguments.parse` — options and operands.

Main results:

* `LineShell.Machine.Arguments.parse_operands` — arguments without a dash in front are operands.
-/

import LineShell.Machine.Tools.Quoting

set_option autoImplicit false

namespace LineShell.Machine

/-- The options and the operands of a program. -/
structure Arguments where
  /-- The options with their values, in order. -/
  options : List (Char × List Char)
  /-- The operands. -/
  operands : List (List Char)

namespace Arguments

/-- The options in one argument, with `flags` that take no value and `valued` that take one; at the
end the option whose value is the next argument. -/
def cluster (flags valued : List Char) :
    List Char → Except String (List (Char × List Char) × Option Char)
  | [] => .ok ([], none)
  | c :: cs =>
    if c ∈ valued then if cs = [] then .ok ([], some c) else .ok ([(c, cs)], none)
    else if c ∈ flags then
      (cluster flags valued cs).map fun (found, last) => ((c, []) :: found, last)
    else .error ("invalid option -- '" ++ c.toString ++ "'")

/-- The option that a name stands for, which may be cut short if that leaves no doubt. -/
def named (names : List (String × Char)) (text : List Char) :
    Except String (List Char × Char × Option (List Char)) :=
  let name := text.takeWhile (· != '=')
  let value := if name.length < text.length then some (text.drop (name.length + 1)) else none
  let whole := names.filter fun n => n.1.toList == name
  let found := if whole.isEmpty then names.filter fun n => name.isPrefixOf n.1.toList else whole
  match found with
  | [] => .error ("unrecognized option '--" ++ String.ofList text ++ "'")
  | [(name, letter)] => .ok (name.toList, letter, value)
  | several =>
    .error ("option '--" ++ String.ofList text ++ "' is ambiguous; possibilities:" ++
      String.join (several.map fun n => " '--" ++ n.1 ++ "'"))

/-- The options and the operands of some arguments; `names` are the long names of options. -/
def parse (flags valued : List Char) (names : List (String × Char)) :
    List (List Char) → Except String Arguments
  | [] => .ok ⟨[], []⟩
  | ['-', '-'] :: rest => .ok ⟨[], rest⟩
  | ('-' :: '-' :: text) :: rest =>
    match named names text with
    | .error complaint => .error complaint
    | .ok (name, letter, value) =>
      let option := "option '--" ++ String.ofList name ++ "'"
      match valued.contains letter, value, rest with
      | false, none, rest =>
        (parse flags valued names rest).map fun a => { a with options := (letter, []) :: a.options }
      | false, some _, _ => .error (option ++ " doesn't allow an argument")
      | true, some value, rest =>
        (parse flags valued names rest).map fun a =>
          { a with options := (letter, value) :: a.options }
      | true, none, [] => .error (option ++ " requires an argument")
      | true, none, value :: rest =>
        (parse flags valued names rest).map fun a =>
          { a with options := (letter, value) :: a.options }
  | ('-' :: c :: cs) :: rest =>
    match cluster flags valued (c :: cs) with
    | .error text => .error text
    | .ok (found, none) =>
      (parse flags valued names rest).map fun a => { a with options := found ++ a.options }
    | .ok (found, some d) =>
      match rest with
      | [] => .error ("option requires an argument -- '" ++ d.toString ++ "'")
      | value :: rest =>
        (parse flags valued names rest).map fun a =>
          { a with options := found ++ (d, value) :: a.options }
  | operand :: rest =>
    (parse flags valued names rest).map fun a => { a with operands := operand :: a.operands }

/-- Whether an option is given. -/
def has (a : Arguments) (option : Char) : Bool := a.options.any (·.1 == option)

/-- Arguments that do not begin with a dash are operands. -/
theorem parse_operands {flags valued : List Char} {names : List (String × Char)}
    {arguments : List (List Char)} (h : ∀ a ∈ arguments, a.head? ≠ some '-') :
    parse flags valued names arguments = .ok ⟨[], arguments⟩ := by
  induction arguments with
  | nil => rfl
  | cons a rest ih =>
    have ha := h a (by simp)
    have ht := ih fun b hb => h b (by simp [hb])
    unfold parse
    split
    · next heq => simp at heq
    · next heq => simp only [List.cons.injEq] at heq; simp [heq.1] at ha
    · next heq => simp only [List.cons.injEq] at heq; simp [heq.1] at ha
    · next heq => simp only [List.cons.injEq] at heq; simp [heq.1] at ha
    · next heq =>
      simp only [List.cons.injEq] at heq
      rw [← heq.1, ← heq.2, ht]
      rfl

end Arguments

end LineShell.Machine
