/-
**The tokens of scripts.**

A script is cut into words, operators, signs of redirections and ends of lines.  The text that a
redirection holds stands on the lines after it, up to a line that is its mark; it takes the place of
the mark in the sequence of tokens.

Each token knows the line of its end.  A text that cannot be read ends in a token that says why.

Main definitions:

* `LineShell.Machine.Script.Token`, `LineShell.Machine.Script.Lexeme` — tokens and their lines;
* `LineShell.Machine.Script.tokensOf` — the tokens of a script.
-/

import LineShell.Machine.Script.Word

set_option autoImplicit false

namespace LineShell.Machine.Script

/-- A word, an operator or the end of a line. -/
inductive Token where
  /-- A word. -/
  | word (w : Word)
  /-- An operator. -/
  | operator (text : String)
  /-- The sign of a redirection. -/
  | redirect (descriptor : Nat) (kind : RedirectKind)
  /-- The end of a line. -/
  | newline
  /-- The end of the text. -/
  | ended
  /-- The place where the text cannot be read. -/
  | fault (cause : Fault)

/-- A token and the line on which it ends. -/
structure Lexeme where
  /-- The token. -/
  token : Token
  /-- The line. -/
  line : Nat

/-- The texts that are awaited. -/
def documentsAt (at_ : Cursor) : List Awaited → List (Except (Fault × Nat) Word)
  | [] => []
  | a :: rest => a.wordAt at_ :: documentsAt (behindTexts (wordFuel at_.rest) at_ [a]) rest

/-! ### Tokens -/

/-- The tokens of a text, and the texts that are awaited in it. -/
def tokens (fuel : Nat) (at_ : Cursor) (awaited : List Awaited) :
    List Lexeme × List (Except (Fault × Nat) Word) :=
  match fuel, at_.rest with
  | 0, _ => ([], [])
  | _, [] => ([⟨.ended, at_.line⟩], documentsAt at_ awaited)
  | fuel + 1, c :: rest =>
    let before := fun (t : Token) (r : Cursor) =>
      match tokens fuel r awaited with
      | (ts, ws) => (⟨t, r.line⟩ :: ts, ws)
    if c = ' ' ∨ c = '\t' then tokens fuel (at_.skip 1) awaited
    else if c = '\n' then
      let behind := behindTexts (wordFuel rest) (at_.skip 1) awaited
      (⟨.newline, at_.line + 1⟩ :: (tokens fuel behind []).1, documentsAt (at_.skip 1) awaited)
    else if c = '#' then tokens fuel (at_.skipWhile (· != '\n')) awaited
    else if c = '\\' ∧ rest.head? = some '\n' then tokens fuel (at_.skip 2) awaited
    else
      match redirectOf (at_.ahead signLength), operatorOf (at_.ahead signLength) with
      | some (sign, descriptor, .document, n), _ =>
        let start := (at_.past n).pastBlanks
        match pieces (wordFuel start.rest) .plain start with
        | .error (cause, line) => ([⟨.fault cause, line⟩], [])
        | .ok ([], _) => before (.redirect descriptor .document) (at_.past n)
        | .ok (w, r) =>
          match tokens fuel r (awaited ++ [awaitedBy sign w start r]) with
          | (ts, ws) =>
            let text : Lexeme := match ws[awaited.length]? with
              | some (.ok w) => ⟨.word w, r.line⟩
              | some (.error (cause, line)) => ⟨.fault cause, line⟩
              | none => ⟨.word [], r.line⟩
            (⟨.redirect descriptor .document, at_.line⟩ :: text :: ts, ws)
      | some (_, descriptor, kind, n), _ => before (.redirect descriptor kind) (at_.past n)
      | none, some o => before (.operator o) (at_.past o.length)
      | none, none =>
        match pieces (wordFuel (c :: rest)) .plain at_ with
        | .error (cause, line) => ([⟨.fault cause, line⟩], [])
        | .ok (w, r) => before (.word w) r

/-- The tokens of a script whose first line has a number. -/
def tokensFrom (line : Nat) (cs : List Char) : List Lexeme :=
  (tokens (cs.length + 1) ⟨cs, line⟩ []).1

/-- The tokens of a script. -/
def tokensOf (cs : List Char) : List Lexeme := tokensFrom 1 cs

end LineShell.Machine.Script
