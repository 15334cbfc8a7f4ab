/-
**Reading scripts.**

The tokens of a script are grouped into commands.  A script is read one line's worth of commands at a
time, so that what stands before a fault is carried out.  A complaint names the token that has no
meaning where it stands and, if only one has, the token that is needed there.

Each step is given some fuel; a text has fewer commands than tokens, so fuel in proportion to their
number is enough.

Main definitions:

* `LineShell.Machine.Script.nextCommands` — the commands up to the end of a line;
* `LineShell.Machine.Script.InnerScript.command` — those of a script whose output is wanted;
* `LineShell.Machine.Script.scriptTokens` — the tokens of a script.
-/

import LineShell.Machine.Script.Token

set_option autoImplicit false

namespace LineShell.Machine.Script

/-- What reading answers: what was read, or a fault and its line. -/
abbrev Faulty := Except (Fault × Nat)

/-! ### Reserved words -/

/-- The words that have a meaning of their own where a command begins. -/
def reserved : List String :=
  ["!", "case", "do", "done", "elif", "else", "esac", "fi", "for", "if", "in", "then", "until",
   "while", "\x7b", "\x7d"]

/-- The reserved word that a token is. -/
def Token.reserved? : Token → Option String
  | .word w => (w.plain?.map String.ofList).filter (reserved.contains ·)
  | _ => none

/-- How a text is named in a fault. -/
def shownToken (text : String) : String := "\"" ++ text ++ "\""

/-- How a token is named in a fault, with reserved words by themselves if they have a meaning. -/
def Token.display (meaningful : Bool) (t : Token) : String :=
  match t with
  | .word _ => if meaningful then (t.reserved?.map shownToken).getD "word" else "word"
  | .operator o => shownToken o
  | .redirect _ _ => "redirection"
  | .newline => "newline"
  | .ended | .fault _ => "end of file"

/-- The fault of finding some tokens where others are needed. -/
def faultAt {α : Type} (meaningful : Bool) (needed : Option String) :
    List Lexeme → Except (Fault × Nat) α
  | ⟨.fault cause, line⟩ :: _ => .error (cause, line)
  | ⟨t, line⟩ :: _ => .error (.unexpected (t.display meaningful) needed, line)
  | [] => .error (.unexpected "end of file" needed, 0)

/-- The tokens behind the ends of lines. -/
def skipNewlines : List Lexeme → List Lexeme
  | ⟨.newline, _⟩ :: rest => skipNewlines rest
  | ts => ts

/-- The reserved word at the front of some tokens. -/
def reservedAt (ts : List Lexeme) : Option String := ts.head?.bind fun t => t.token.reserved?

/-- The operator at the front of some tokens. -/
def operatorAt (ts : List Lexeme) : Option String :=
  match ts with
  | ⟨.operator o, _⟩ :: _ => some o
  | _ => none

/-- The line of the first of some tokens. -/
def lineAt (ts : List Lexeme) : Nat := (ts.head?.map Lexeme.line).getD 0

/-- The tokens behind a reserved word that must come next. -/
def expect (word : String) (ts : List Lexeme) : Faulty (List Lexeme) :=
  if reservedAt ts = some word then .ok ts.tail else faultAt true (some (shownToken word)) ts

/-- Whether some tokens begin with one that ends a list of commands. -/
def endsList (ts : List Lexeme) : Bool :=
  match ts with
  | ⟨.operator o, _⟩ :: _ => o == ")" || o == ";;"
  | ⟨.ended, _⟩ :: _ | ⟨.fault _, _⟩ :: _ | [] => true
  | _ =>
    match reservedAt ts with
    | some w => w ∈ ["then", "else", "elif", "fi", "do", "done", "esac", "\x7d"]
    | none => false

/-! ### Simple commands -/

/-- The name and the value of a word that is an assignment. -/
def assignmentOf (w : Word) : Option (List Char × Word) :=
  match w with
  | .text cs false :: rest =>
    let name := cs.takeWhile isNameChar
    match cs.dropWhile isNameChar with
    | '=' :: value =>
      if isName name then some (name, if value = [] then rest else .text value false :: rest)
      else none
    | _ => none
  | _ => none

/-- The commands that no function may be named like. -/
def specialCommands : List String :=
  [".", ":", "break", "continue", "eval", "exec", "exit", "export", "local", "readonly", "return",
   "set", "shift", "times", "trap", "unset"]

/-- The words at the front of some tokens, and what follows them. -/
def wordsOf : List Lexeme → List Word × List Lexeme
  | ⟨.word w, _⟩ :: rest => (w :: (wordsOf rest).1, (wordsOf rest).2)
  | ts => ([], ts)

/-- The redirections that stand next. -/
def redirectsOf : List Lexeme → Faulty (List Redirect × List Lexeme)
  | ⟨.redirect d kind, _⟩ :: ⟨.word w, _⟩ :: rest => do
    let (rs, r) ← redirectsOf rest
    return (⟨d, kind, w⟩ :: rs, r)
  | ⟨.redirect _ _, _⟩ :: ts => faultAt false none ts
  | ts => .ok ([], ts)

/-- The parts of a simple command: assignments first, then words, with redirections anywhere. -/
structure Parts where
  /-- The assignments. -/
  assignments : List (List Char × Word)
  /-- The words. -/
  words : List Word
  /-- The redirections. -/
  redirects : List Redirect

/-- The parts of a simple command that stand next. -/
def partsOf (p : Parts) : List Lexeme → Faulty (Parts × List Lexeme)
  | ⟨.word w, _⟩ :: rest =>
    match if p.words = [] then assignmentOf w else none with
    | some a => partsOf { p with assignments := p.assignments ++ [a] } rest
    | none => partsOf { p with words := p.words ++ [w] } rest
  | ⟨.redirect d kind, _⟩ :: ⟨.word w, _⟩ :: rest =>
    partsOf { p with redirects := p.redirects ++ [⟨d, kind, w⟩] } rest
  | ⟨.redirect _ _, _⟩ :: ts => faultAt false none ts
  | ts => .ok (p, ts)

/-! ### Commands -/

/-- A command after another one, if there is another one. -/
def Command.andThen (first : Option Command) (second : Command) : Command :=
  match first with
  | some c => .sequence c second
  | none => second

/-- A command that is left to itself. -/
def Command.leftAlone (line : Nat) : Command → Command
  | .pipeline cs _ => .pipeline cs true
  | .redirected line c rs => .subshell line c rs true
  | c => .subshell line c [] true

/-- A compound command with the redirections that follow it. -/
def withRedirects (line : Nat) (c : Command) (ts : List Lexeme) : Faulty (Command × List Lexeme) := do
  let (rs, r) ← redirectsOf ts
  if rs.isEmpty then return (c, r)
  match c with
  | .subshell line c _ background => return (.subshell line c rs background, r)
  | c => return (.redirected line c rs, r)

/-- What kind of list of commands is read. -/
inductive ListKind where
  /-- The commands of one line. -/
  | line
  /-- Commands between two reserved words. -/
  | inner
  /-- The commands of an arm of a choice, of which there may be none. -/
  | arm
deriving DecidableEq

/-- The arguments of the script, each by itself. -/
def allArguments : Word := [.parameter ['@'] none true]

mutual

/-- Commands one after the other, behind those that were read already. -/
def commandList (fuel : Nat) (kind : ListKind) (before : Option Command) (ts : List Lexeme) :
    Faulty (Command × List Lexeme) :=
  match fuel with
  | 0 => .ok (.nothing, [])
  | fuel + 1 =>
    let done := before.getD .nothing
    let ts := if kind = .line then ts else skipNewlines ts
    match ts with
    | ⟨.newline, _⟩ :: _ | ⟨.ended, _⟩ :: _ => .ok (done, ts)
    | _ =>
      if (kind = .arm ∨ (kind = .inner ∧ before.isSome = true)) ∧ endsList ts = true then
        .ok (done, ts)
      else do
        let (c, r) ← chain fuel ts
        match r with
        | ⟨.operator "&", _⟩ :: rest =>
          commandList fuel kind (some (.andThen before (c.leftAlone (lineAt ts)))) rest
        | ⟨.operator ";", _⟩ :: rest => commandList fuel kind (some (.andThen before c)) rest
        | ⟨.newline, _⟩ :: _ => commandList fuel kind (some (.andThen before c)) r
        | ⟨.ended, _⟩ :: _ => return (.andThen before c, r)
        | _ => if kind = .line then faultAt true none r else return (.andThen before c, r)

/-- Commands that depend on each other's success. -/
def chain (fuel : Nat) (ts : List Lexeme) : Faulty (Command × List Lexeme) :=
  match fuel with
  | 0 => .ok (.nothing, [])
  | fuel + 1 => do
    let (first, r) ← pipeline fuel ts
    chainAfter fuel first r

/-- What follows a command whose success or failure counts. -/
def chainAfter (fuel : Nat) (first : Command) (ts : List Lexeme) : Faulty (Command × List Lexeme) :=
  match fuel, operatorAt ts with
  | fuel + 1, some "&&" => do
    let (second, r) ← pipeline fuel (skipNewlines ts.tail)
    chainAfter fuel (.both first second) r
  | fuel + 1, some "||" => do
    let (second, r) ← pipeline fuel (skipNewlines ts.tail)
    chainAfter fuel (.either first second) r
  | _, _ => .ok (first, ts)

/-- Commands between bars, whose success may be exchanged with failure. -/
def pipeline (fuel : Nat) (ts : List Lexeme) : Faulty (Command × List Lexeme) :=
  match fuel with
  | 0 => .ok (.nothing, [])
  | fuel + 1 => do
    let negated := reservedAt ts = some "!"
    let (first, r) ← command fuel (if negated then ts.tail else ts)
    let (others, r') ← pipelineAfter fuel r
    let c := if others.isEmpty then first else .pipeline (first :: others) false
    return (if negated then .negation c else c, r')

/-- The commands behind a bar. -/
def pipelineAfter (fuel : Nat) (ts : List Lexeme) : Faulty (List Command × List Lexeme) :=
  match fuel, operatorAt ts with
  | fuel + 1, some "|" => do
    let (c, r) ← command fuel (skipNewlines ts.tail)
    let (cs, r') ← pipelineAfter fuel r
    return (c :: cs, r')
  | _, _ => .ok ([], ts)

/-- One command. -/
def command (fuel : Nat) (ts : List Lexeme) : Faulty (Command × List Lexeme) :=
  match fuel with
  | 0 => .ok (.nothing, [])
  | fuel + 1 =>
    let line := lineAt ts
    match ts with
    | ⟨.operator "(", _⟩ :: rest => do
      let (c, r) ← commandList fuel .inner none rest
      match r with
      | ⟨.operator ")", _⟩ :: r' => withRedirects line (.subshell line c [] false) r'
      | _ => faultAt true (some "\")\"") r
    | ⟨.redirect _ _, _⟩ :: _ => simple fuel line ts
    | ⟨.word w, _⟩ :: rest =>
      match (Token.word w).reserved? with
      | some "\x7b" => do
        let (c, r) ← commandList fuel .inner none rest
        withRedirects line c (← expect "\x7d" r)
      | some "while" => do
        let (condition, r) ← commandList fuel .inner none rest
        let (body, r') ← loopBody fuel r
        withRedirects line (.loop false condition body) r'
      | some "until" => do
        let (condition, r) ← commandList fuel .inner none rest
        let (body, r') ← loopBody fuel r
        withRedirects line (.loop true condition body) r'
      | some "if" => do
        let (c, r) ← conditional fuel rest
        withRedirects line c r
      | some "for" => do
        let (c, r) ← forLoop fuel line rest
        withRedirects line c r
      | some "case" =>
        match rest with
        | ⟨.word w, _⟩ :: r => do
          let (arms, r') ← arms fuel (← expect "in" (skipNewlines r))
          withRedirects line (.choice line w arms) r'
        | _ => faultAt false (some "word") rest
      | some _ => faultAt true none ts
      | none => simple fuel line ts
    | _ => faultAt true none ts

/-- A simple command, or the definition of a function. -/
def simple (fuel : Nat) (line : Nat) (ts : List Lexeme) : Faulty (Command × List Lexeme) :=
  match fuel with
  | 0 => .ok (.nothing, [])
  | fuel + 1 => do
    let (p, r) ← partsOf ⟨[], [], []⟩ ts
    match operatorAt r, p with
    | some "(", ⟨[], [name], []⟩ =>
      match r.tail with
      | ⟨.operator ")", at_⟩ :: r' =>
        let text := name.plain?.getD []
        if isName text ∧ !specialCommands.contains (String.ofList text) then
          let (body, r'') ← command fuel (skipNewlines r')
          return (.function text body, r'')
        else throw (.badFunctionName, at_)
      | r' => faultAt false (some "\")\"") r'
    | _, _ => return (.simple line p.assignments p.words p.redirects, r)

/-- The body of a loop. -/
def loopBody (fuel : Nat) (ts : List Lexeme) : Faulty (Command × List Lexeme) :=
  match fuel with
  | 0 => .ok (.nothing, [])
  | fuel + 1 => do
    let (c, r) ← commandList fuel .inner none (← expect "do" ts)
    return (c, ← expect "done" r)

/-- What follows the word `for`. -/
def forLoop (fuel : Nat) (line : Nat) (ts : List Lexeme) : Faulty (Command × List Lexeme) :=
  match fuel, ts with
  | fuel + 1, ⟨.word w, at_⟩ :: rest => do
    let name := w.plain?.getD []
    if !isName name then throw (.badLoopVariable, at_)
    let r := skipNewlines rest
    if reservedAt r = some "in" then
      let (words, r') := wordsOf r.tail
      match r' with
      | ⟨.newline, _⟩ :: _ | ⟨.operator ";", _⟩ :: _ =>
        let (body, r'') ← loopBody fuel (skipNewlines r'.tail)
        return (.forEach line name words body, r'')
      | ⟨.ended, _⟩ :: _ => faultAt true none r'
      | _ => faultAt false none r'
    else
      let (body, r') ←
        loopBody fuel (skipNewlines (if operatorAt r = some ";" then r.tail else r))
      return (.forEach line name [allArguments] body, r')
  | _, ⟨.fault cause, at_⟩ :: _ => .error (cause, at_)
  | _, _ => .error (.badLoopVariable, lineAt ts)

/-- What follows the word `if`. -/
def conditional (fuel : Nat) (ts : List Lexeme) : Faulty (Command × List Lexeme) :=
  match fuel with
  | 0 => .ok (.nothing, [])
  | fuel + 1 => do
    let (condition, r) ← commandList fuel .inner none ts
    let (whenTrue, r') ← commandList fuel .inner none (← expect "then" r)
    match reservedAt r' with
    | some "elif" =>
      let (whenFalse, r'') ← conditional fuel r'.tail
      return (.branch condition whenTrue whenFalse, r'')
    | some "else" =>
      let (whenFalse, r'') ← commandList fuel .inner none r'.tail
      return (.branch condition whenTrue whenFalse, ← expect "fi" r'')
    | _ => return (.branch condition whenTrue .nothing, ← expect "fi" r')

/-- The patterns of an arm, between bars, and what follows the closing parenthesis. -/
def patterns (fuel : Nat) (ts : List Lexeme) : Faulty (List Word × List Lexeme) :=
  match fuel, ts with
  | fuel + 1, ⟨.word w, _⟩ :: r =>
    match operatorAt r with
    | some "|" => do
      let (ws, r') ← patterns fuel r.tail
      return (w :: ws, r')
    | some ")" => return ([w], r.tail)
    | _ => faultAt false (some "\")\"") r
  | _, ⟨.ended, line⟩ :: _ => faultAt false (some "\")\"") [⟨.ended, line⟩]
  | _, _ => faultAt false (some "\")\"") ts.tail

/-- The arms of a choice. -/
def arms (fuel : Nat) (ts : List Lexeme) : Faulty (List (List Word × Command) × List Lexeme) :=
  match fuel with
  | 0 => .ok ([], [])
  | fuel + 1 =>
    let ts := skipNewlines ts
    if reservedAt ts = some "esac" then .ok ([], ts.tail)
    else do
      let (ps, r) ← patterns fuel (if operatorAt ts = some "(" then ts.tail else ts)
      let (c, r') ← commandList fuel .arm none r
      let r' := skipNewlines r'
      if reservedAt r' = some "esac" then return ([(ps, c)], r'.tail)
      else
        if operatorAt r' = some ";;" then
          let (others, r'') ← arms fuel r'.tail
          return ((ps, c) :: others, r'')
        else faultAt true (some "\";;\"") r'

end

/-- The commands up to the end of a line and the tokens behind it, which are none if the script ends
with the line; `none` at the end of the script. -/
def nextCommands (ts : List Lexeme) : Faulty (Option (Command × List Lexeme)) :=
  match skipNewlines ts with
  | [] | ⟨.ended, _⟩ :: _ => .ok none
  | ts => do
    let (c, r) ← commandList (8 * (ts.length + 2)) .line none ts
    match r with
    | ⟨.newline, _⟩ :: r' => return some (c, r')
    | _ => return some (c, [])

/-! ### Scripts -/

/-- The token with the fault of a script in it in its place, if there is one. -/
def Lexeme.checked (read : InnerScript → Faulty Command) (t : Lexeme) : Lexeme :=
  match t.token with
  | .word w =>
    let faultOf := fun (s : InnerScript) =>
      match read s with
      | .error fault => some fault
      | .ok _ => none
    match (scriptsIn w).findSome? faultOf with
    | some (cause, line) => ⟨.fault cause, line⟩
    | none => t
  | .fault (.unended s) =>
    match read s with
    | .error (cause, line) => ⟨.fault cause, line⟩
    | .ok _ => t
  | _ => t

/-- The commands of a script whose output is wanted.  Between backquotes what follows the commands does
not count. -/
def innerCommands : Nat → InnerScript → Faulty Command
  | 0, _ => .ok .nothing
  | fuel + 1, s => do
    let ts := (tokensFrom s.line s.text).map (Lexeme.checked (innerCommands fuel))
    let (c, r) ← commandList (8 * (ts.length + 2)) .arm none ts
    match s.enclosed, r with
    | true, ⟨.operator ")", _⟩ :: _ => return c
    | true, r => faultAt true (some "\")\"") r
    | false, ⟨.fault cause, line⟩ :: _ => throw (cause, line)
    | false, _ => return c

/-- The commands of a script whose output is wanted. -/
def InnerScript.command (s : InnerScript) : Faulty Command := innerCommands (s.text.length + 1) s

/-- The tokens of a script, with a fault in the place of a token that holds a script with one. -/
def scriptTokens (cs : List Char) : List Lexeme :=
  (tokensOf cs).map (Lexeme.checked InnerScript.command)

end LineShell.Machine.Script
