/-
**Reading words.**

A word ends at a blank, at the end of its line or at an operator.  A backslash takes the meaning of
the next character away, single quotes that of all characters up to the next one; between double
quotes parameters keep their meaning.

A script whose output is wanted is passed over word by word up to the parenthesis that closes it,
which is neither one of its own nor the end of a pattern.  Between backquotes lines are counted anew.
The text that a redirection holds is passed over line by line up to its mark.

Main definitions:

* `LineShell.Machine.Script.Fault` — why a text cannot be read;
* `LineShell.Machine.Script.openingAt` — what the braces of a parameter begin with;
* `LineShell.Machine.Script.pieces` — the pieces of a word;
* `LineShell.Machine.Script.scriptEnd`, `LineShell.Machine.Script.textAt` — where scripts and texts
  within a text end.
-/

import LineShell.Machine.Script.Sign

set_option autoImplicit false

namespace LineShell.Machine.Script

/-- Why a script cannot be read. -/
inductive Fault where
  /-- A quote has no partner. -/
  | unterminatedQuote
  /-- A brace has no partner. -/
  | missingBrace
  /-- An arithmetic expression has no end. -/
  | missingParentheses
  /-- A backquote has no partner. -/
  | unterminatedOutput
  /-- A script whose output is wanted has no end. -/
  | unended (script : InnerScript)
  /-- A token stands where another one is needed, or where it has no meaning. -/
  | unexpected (token : String) (needed : Option String)
  /-- A loop variable has no proper name. -/
  | badLoopVariable
  /-- A function has no proper name. -/
  | badFunctionName
  /-- A descriptor is no digit. -/
  | badDescriptor

/-- The wording of the fault. -/
def Fault.message : Fault → String
  | .unterminatedQuote => "Syntax error: Unterminated quoted string"
  | .missingBrace => "Syntax error: Missing '\x7d'"
  | .missingParentheses => "Syntax error: Missing '))'"
  | .unterminatedOutput => "Syntax error: EOF in backquote substitution"
  | .unended _ => "Syntax error: end of file unexpected (expecting \")\")"
  | .unexpected token none => "Syntax error: " ++ token ++ " unexpected"
  | .unexpected token (some needed) =>
    "Syntax error: " ++ token ++ " unexpected (expecting " ++ needed ++ ")"
  | .badLoopVariable => "Syntax error: Bad for loop variable"
  | .badFunctionName => "Syntax error: Bad function name"
  | .badDescriptor => "Syntax error: Bad fd number"

/-! ### Characters -/

/-- The character that begins the output of a script in its older form. -/
def backquote : Char := Char.ofNat 96

/-- The brace that begins a group. -/
def openBrace : Char := '\x7b'

/-- The brace that ends a parameter or a group. -/
def closeBrace : Char := '\x7d'

/-- The characters that end a word. -/
def endsWord (c : Char) : Bool :=
  c == ' ' || c == '\t' || c == '\n' || c == ';' || c == '&' || c == '|' || c == '<' || c == '>' ||
    c == '(' || c == ')'

/-- The first character of a name. -/
def isNameStart (c : Char) : Bool := c.isAlpha || c == '_'

/-- The further characters of a name. -/
def isNameChar (c : Char) : Bool := c.isAlphanum || c == '_'

/-- Whether a text is a name. -/
def isName (cs : List Char) : Bool := (cs.head?.map isNameStart).getD false && cs.all isNameChar

/-- The parameters that are named by one character of their own. -/
def isSpecial (c : Char) : Bool :=
  c == '@' || c == '*' || c == '#' || c == '?' || c == '$' || c == '!' || c == '-' || c.isDigit

/-! ### Scripts within words -/

/-- What a closing parenthesis may belong to. -/
inductive Opened where
  /-- An opening one. -/
  | parenthesis
  /-- A choice; whether its next command, or its next pattern, is still to come. -/
  | choice (pattern : Bool)
deriving DecidableEq

/-- What was passed over of a script. -/
structure Passage where
  /-- What is not closed yet, the innermost first. -/
  opened : List Opened
  /-- Whether a command begins here, or a pattern. -/
  start : Bool
  /-- The texts that are awaited. -/
  awaited : List Awaited

namespace Passage

/-- The passage before anything of a script. -/
def fresh : Passage := ⟨[], true, []⟩

/-- Whether patterns come next. -/
def inPatterns (p : Passage) : Bool := p.opened.head? == some (.choice true)

/-- The words behind which a command begins. -/
def leading : List String :=
  ["!", "do", "elif", "else", "if", "then", "until", "while", "\x7b"]

/-- The passage behind a word. -/
def word (p : Passage) (w : Word) : Passage :=
  match w.plain?.map String.ofList with
  | some "case" =>
    if p.start && !p.inPatterns then { p with opened := .choice true :: p.opened, start := false }
    else { p with start := false }
  | some "esac" =>
    match p.opened with
    | .choice _ :: rest => if p.start then ⟨rest, false, p.awaited⟩ else p
    | _ => { p with start := false }
  | some "in" => { p with start := !p.start && p.inPatterns }
  | some text => { p with start := p.start && !p.inPatterns && leading.contains text }
  | none => { p with start := false }

/-- The passage behind an operator; `none` if that is the parenthesis at the end of the script. -/
def operator (p : Passage) (o : String) : Option Passage :=
  match o, p.opened with
  | ")", [] => none
  | ")", .parenthesis :: rest => some { p with opened := rest, start := true }
  | ")", .choice true :: rest => some { p with opened := .choice false :: rest, start := true }
  | "(", .choice true :: _ => some p
  | "(", opened => some { p with opened := .parenthesis :: opened, start := true }
  | ";;", .choice _ :: rest => some { p with opened := .choice true :: rest, start := true }
  | _, .choice true :: _ => some { p with start := false }
  | _, _ => some { p with start := true }

end Passage

/-- A script between backquotes, with the backslashes that protect its characters taken out, and the
number of characters up to the closing backquote. -/
def backquoted (quoted : Bool) : List Char → Option (List Char × Nat)
  | [] => none
  | '\\' :: c :: cs =>
    let taken := c == '\\' || c == '$' || c == backquote || (quoted && c == '"')
    (backquoted quoted cs).map fun (ds, n) =>
      (if taken then c :: ds else if c = '\n' then ds else '\\' :: c :: ds, n + 2)
  | c :: cs =>
    if c = backquote then some ([], 0)
    else (backquoted quoted cs).map fun (ds, n) => (c :: ds, n + 1)

/-- The text that is awaited behind a sign and a word between two places. -/
def awaitedBy (sign : String) (w : Word) (start behind : Cursor) : Awaited :=
  let (mark, quoted) := (Word.literal? w).getD (start.upTo behind, false)
  ⟨mark, sign = "<<-", !quoted⟩

/-! ### Words -/

/-- Puts text in front of a word, joined with text of the same kind. -/
def addText (c : Char) (quoted : Bool) : Word → Word
  | .text cs q :: rest => if q = quoted then .text (c :: cs) q :: rest else
      .text [c] quoted :: .text cs q :: rest
  | w => .text [c] quoted :: w

/-- The characters of a kind at a place, of lines that are joined, and the place behind them. -/
def spanAt (p : Char → Bool) : Nat → Cursor → List Char × Cursor
  | 0, at_ => ([], at_)
  | fuel + 1, at_ =>
    match at_.next? with
    | some (c, r) =>
      if p c then
        match spanAt p fuel r with
        | (cs, r') => (c :: cs, r')
      else ([], at_)
    | none => ([], at_)

/-- The name or the number at a place, and the place behind it. -/
def nameAt (at_ : Cursor) : List Char × Cursor :=
  match at_.next? with
  | some (c, _) =>
    if isNameStart c then spanAt isNameChar at_.rest.length at_
    else if c.isDigit then spanAt Char.isDigit at_.rest.length at_
    else ([], at_)
  | none => ([], at_)

/-- The operation that a sign stands for, which may have a colon in front. -/
def operationOf (colon : Bool) (c : Char) : Option Operation :=
  match c with
  | '-' => some (.fallback colon)
  | '+' => some (.replacement colon)
  | '=' => some (.assignment colon)
  | '?' => some (.demand colon)
  | _ => none

/-- What the braces of a parameter begin with. -/
inductive Opening where
  /-- A parameter, and the closing brace. -/
  | value (name : List Char)
  /-- A parameter whose length is asked for, and the closing brace. -/
  | length (name : List Char)
  /-- A parameter and the sign of an operation. -/
  | operation (name : List Char) (o : Operation)
  /-- A parameter, and a closing brace behind a colon. -/
  | spoiled (name : List Char)
  /-- Something that has no meaning. -/
  | senseless

/-- What the braces of a parameter begin with whose name was read, and the place behind it.  A character
that is no sign of an operation is passed over. -/
def openingBehind (name : List Char) (at_ : Cursor) : Opening × Cursor :=
  match at_.next? with
  | none => (.senseless, at_)
  | some (':', r) =>
    match r.next? with
    | none => (.senseless, r)
    | some (c, r') =>
      if c = closeBrace then (.spoiled name, r')
      else (((operationOf true c).map (.operation name)).getD .senseless, r')
  | some (c, r) =>
    if c = closeBrace then (.value name, r)
    else if c = '#' ∨ c = '%' then
      let longest := r.ahead 1 == [c]
      (.operation name (if c = '#' then .cutFront longest else .cutEnd longest),
        if longest then r.past 1 else r)
    else (((operationOf false c).map (.operation name)).getD .senseless, r)

/-- What the braces of a parameter begin with, and the place behind it. -/
def openingAt (at_ : Cursor) : Opening × Cursor :=
  match nameAt at_, at_.next? with
  | (c :: cs, behind), _ => openingBehind (c :: cs) behind
  | ([], _), none => (.senseless, at_)
  | ([], _), some ('#', r) =>
    match nameAt r, r.ahead 2 with
    | (c :: cs, behind), _ =>
      if behind.ahead 1 = [closeBrace] then (.length (c :: cs), behind.past 1)
      else (.senseless, behind)
    | ([], _), [c, d] =>
      if d = closeBrace ∧ c ≠ closeBrace then
        if isSpecial c then (.length [c], r.past 2) else (.senseless, r.past 1)
      else openingBehind ['#'] r
    | ([], _), _ => openingBehind ['#'] r
  | ([], _), some (c, r) =>
    if c = closeBrace then (.senseless, at_)
    else if isSpecial c then openingBehind [c] r
    else (.senseless, r)

/-- Whether the word of an operation is a pattern. -/
def Operation.hasPattern : Operation → Bool
  | .cutFront _ | .cutEnd _ => true
  | _ => false

/-- How the text of a word is read. -/
inductive Mode where
  /-- Outside quotes. -/
  | plain
  /-- Between double quotes. -/
  | doubleQuoted
  /-- In the braces of a parameter, outside quotes. -/
  | braced
  /-- In the braces of a parameter, between double quotes. -/
  | bracedQuoted
  /-- In the text that a redirection holds. -/
  | document
  /-- In an arithmetic expression, within so many parentheses of its own. -/
  | arithmetic (depth : Nat)
deriving DecidableEq

/-- Whether text read this way is quoted. -/
def Mode.isQuoted : Mode → Bool
  | .plain | .braced => false
  | _ => true

/-- Whether a backslash protects a character in text that is quoted. -/
def Mode.protects (mode : Mode) (c : Char) : Bool :=
  c == '$' || c == '\\' || c == backquote ||
    match mode with
    | .document => false
    | .bracedQuoted => c == '"' || c == closeBrace
    | _ => c == '"'

/-- Whether a character with some text behind it ends what is read this way. -/
def Mode.endsAt : Mode → Char → List Char → Bool
  | .plain, c, _ => endsWord c
  | .doubleQuoted, c, _ => c == '"'
  | .braced, c, _ | .bracedQuoted, c, _ => c == closeBrace
  | .document, _, _ => false
  | .arithmetic depth, c, rest => depth == 0 && c == ')' && rest.head? == some ')'

/-- What is missing if the text ends here. -/
def Mode.fault : Mode → Option Fault
  | .plain | .document => none
  | .doubleQuoted | .bracedQuoted => some .unterminatedQuote
  | .braced => some .missingBrace
  | .arithmetic _ => some .missingParentheses

mutual

/-- The pieces of a word up to the character that ends them, and the place of that. -/
def pieces (fuel : Nat) (mode : Mode) (at_ : Cursor) : Except (Fault × Nat) (Word × Cursor) :=
  match fuel, at_.rest with
  | 0, _ => .ok ([], at_)
  | _, [] =>
    match mode.fault with
    | none => .ok ([], at_)
    | some fault => .error (fault, at_.line)
  | fuel + 1, c :: rest =>
    if mode.endsAt c (at_.ahead 2).tail then .ok ([], at_)
    else if c = '\\' then
      match rest with
      | [] => .ok ([.text ['\\'] true], at_.skip 1)
      | d :: _ =>
        if d = '\n' then pieces fuel mode (at_.skip 2)
        else if mode.isQuoted && !mode.protects d then do
          let (w, r) ← pieces fuel mode (at_.skip 1)
          return (addText '\\' true w, r)
        else do
          let (w, r) ← pieces fuel mode (at_.skip 2)
          return (addText d true w, r)
    else if c = '"' && mode != .document then
      match mode with
      | .arithmetic _ => pieces fuel mode (at_.skip 1)
      | _ => do
        let (inner, r) ← pieces fuel .doubleQuoted (at_.skip 1)
        let (w, r') ← pieces fuel mode (r.skip 1)
        return ((if inner = [] then [.text [] true] else inner) ++ w, r')
    else if c = '\'' && !mode.isQuoted then
      if rest.contains '\'' then do
        let text := rest.takeWhile (· != '\'')
        let (w, r) ← pieces fuel mode (at_.skip (text.length + 2))
        return (.text text true :: w, r)
      else .error (.unterminatedQuote, at_.toEnd.line)
    else if c = '$' then parameter fuel mode (at_.skip 1)
    else if c = backquote then
      match backquoted (mode.isQuoted && mode != .document) rest with
      | some (script, n) => do
        let (w, r) ← pieces fuel mode (at_.skip (n + 2))
        return (.output ⟨script, 1, false⟩ mode.isQuoted :: w, r)
      | none => .error (.unterminatedOutput, at_.toEnd.line)
    else
      let mode' :=
        match mode, c with
        | .arithmetic depth, '(' => .arithmetic (depth + 1)
        | .arithmetic depth, ')' => .arithmetic (depth - 1)
        | _, _ => mode
      do
        let (w, r) ← pieces fuel mode' (at_.skip 1)
        return (addText c mode.isQuoted w, r)

/-- A parameter, behind its dollar sign, and the pieces that follow it. -/
def parameter (fuel : Nat) (mode : Mode) (at_ : Cursor) : Except (Fault × Nat) (Word × Cursor) :=
  match fuel with
  | 0 => .ok ([], at_)
  | fuel + 1 =>
    let quoted := mode.isQuoted
    let followedBy := fun (piece : Piece) (r : Cursor) => do
      let (w, r') ← pieces fuel mode r
      return (piece :: w, r')
    let plain := fun (_ : Unit) => do
      let (w, r) ← pieces fuel mode at_
      return (addText '$' quoted w, r)
    match at_.next? with
    | some ('(', start) =>
      if start.ahead 1 = ['('] then do
        let (inner, r) ← pieces fuel (.arithmetic 0) (start.past 1)
        followedBy (.number inner quoted) (r.past 2)
      else
        match scriptEnd fuel .fresh start with
        | some r =>
          let length := start.rest.length - r.rest.length
          followedBy (.output ⟨start.rest.take (length + 1), start.line, true⟩ quoted) (r.skip 1)
        | none => .error (.unended ⟨start.rest, start.line, true⟩, at_.toEnd.line)
    | some (c, start) =>
      if c = openBrace then
        let inner := if quoted then Mode.bracedQuoted else Mode.braced
        match openingAt start with
        | (.value name, r) => followedBy (.parameter name none quoted) r
        | (.length name, r) => followedBy (.length name quoted) r
        | (.operation name operation, r) => do
          let (word, r') ← pieces fuel (if operation.hasPattern then .braced else inner) r
          followedBy (.parameter name (some (operation, word)) quoted) (r'.skip 1)
        | (.spoiled name, r) => do
          let (word, r') ← pieces fuel inner r
          let (_, r'') ← pieces fuel mode (r'.skip 1)
          return (.parameter name none quoted :: word, r'')
        | (.senseless, r) => do
          let (_, r') ← pieces fuel inner r
          followedBy .senseless (r'.skip 1)
      else if isNameStart c then
        match nameAt at_ with
        | (name, r) => followedBy (.parameter name none quoted) r
      else if isSpecial c then followedBy (.parameter [c] none quoted) start
      else plain ()
    | none => plain ()

/-- The place of the parenthesis that closes a script whose output is wanted. -/
def scriptEnd (fuel : Nat) (p : Passage) (at_ : Cursor) : Option Cursor :=
  match fuel, at_.rest with
  | 0, _ => none
  | _, [] => none
  | fuel + 1, c :: rest =>
    if c = ' ' ∨ c = '\t' then scriptEnd fuel p (at_.skip 1)
    else if c = '\n' then
      scriptEnd fuel { p with start := p.start || !p.inPatterns, awaited := [] }
        (behindTexts fuel (at_.skip 1) p.awaited)
    else if c = '#' then scriptEnd fuel p (at_.skipWhile (· != '\n'))
    else if c = '\\' ∧ rest.head? = some '\n' then scriptEnd fuel p (at_.skip 2)
    else
      match redirectOf (at_.ahead signLength), operatorOf (at_.ahead signLength) with
      | some (sign, _, kind, n), _ =>
        let start := (at_.past n).pastBlanks
        match pieces fuel .plain start with
        | .error _ => none
        | .ok (w, r) =>
          if kind = .document then
            scriptEnd fuel { p with awaited := p.awaited ++ [awaitedBy sign w start r] } r
          else scriptEnd fuel p r
      | none, some o =>
        match p.operator o with
        | none => some at_
        | some p' => scriptEnd fuel p' (at_.past o.length)
      | none, none =>
        match pieces fuel .plain at_ with
        | .error _ => none
        | .ok (w, r) => scriptEnd fuel (p.word w) r

/-- The place behind the end of a line.  Lines that are joined, and those of a script whose output is
wanted, are parts of it. -/
def lineEnd (fuel : Nat) (at_ : Cursor) : Cursor :=
  match fuel, at_.rest with
  | 0, _ => at_
  | _, [] => at_
  | fuel + 1, c :: rest =>
    if c = '\n' then at_.skip 1
    else if c = '\\' then lineEnd fuel (at_.skip 2)
    else if c = backquote then
      match backquoted false rest with
      | some (_, n) => lineEnd fuel (at_.skip (n + 2))
      | none => at_.toEnd
    else if c = '$' ∧ at_.rest.take 2 = ['$', '('] ∧ at_.rest.take 3 ≠ ['$', '(', '('] then
      match scriptEnd fuel .fresh (at_.skip 2) with
      | some r => lineEnd fuel (r.skip 1)
      | none => at_.toEnd
    else lineEnd fuel (at_.skip 1)

/-- The lines of a text up to its mark, the place of that and the place behind it. -/
def textAt (fuel : Nat) (a : Awaited) (at_ : Cursor) : List Char × Cursor × Cursor :=
  match fuel with
  | 0 => ([], at_, at_)
  | fuel + 1 =>
    let start := if a.expanded then at_.joined else at_
    let inner := if a.indented then start.skipWhile (· == '\t') else start
    let plainEnd := (inner.skipWhile (· != '\n'))
    if at_.rest = [] then ([], at_, at_)
    else if inner.upTo plainEnd = a.mark then (at_.upTo start, start, plainEnd.skip 1)
    else
      let behind := if a.expanded then lineEnd fuel inner else plainEnd.skip 1
      match textAt fuel a behind with
      | (text, r) => (at_.upTo start ++ inner.upTo behind ++ text, r)

/-- The place behind the texts that are awaited. -/
def behindTexts (fuel : Nat) (at_ : Cursor) (awaited : List Awaited) : Cursor :=
  match fuel, awaited with
  | 0, _ => at_
  | _, [] => at_
  | fuel + 1, a :: rest => behindTexts fuel (textAt fuel a at_).2.2 rest

end

/-- More steps than the pieces of a text need. -/
def wordFuel (cs : List Char) : Nat := 4 * cs.length + 8

/-- A text that was awaited as a word; where it is not `expanded` nothing in it has a meaning. -/
def Awaited.wordAt (a : Awaited) (at_ : Cursor) : Except (Fault × Nat) Word :=
  let (text, mark, behind) := textAt (wordFuel at_.rest) a at_
  if a.expanded then
    match pieces (wordFuel text) .document ⟨text, at_.line⟩ with
    | .ok (w, _) => .ok w
    | .error (.unterminatedQuote, line) => .error (.missingBrace, line + (behind.line - mark.line))
    | .error (.unended s, line) => .error (.unended s, line)
    | .error (.unterminatedOutput, line) => .error (.unterminatedOutput, line)
    | .error (fault, line) => .error (fault, line + (behind.line - mark.line))
  else .ok [.text text true]

end LineShell.Machine.Script
