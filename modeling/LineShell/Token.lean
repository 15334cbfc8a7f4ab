/-
**Cutting a line into tokens.**

A line is a sequence of tokens with blanks around them.  A token is a marker, `<` or `>`, or a
word.  A word is a non-empty sequence of parts written side by side: a bare run of characters, a
text in double quotes, in which a backslash makes the next character stand for itself, or a text
in single quotes, in which every character stands for itself.  The word's value is the parts'
values joined.

Tokens are taken off the front of the line while one is found.  A quote without its partner ends
the word it stands in, so what is left over then starts at that quote; white space that is not a
blank cannot begin a token either.  The line is good exactly if the rest is white space.

Main definitions:

* `LineShell.Token.bare`, `LineShell.Token.doubleQuoted`, `LineShell.Token.singleQuoted` — the
  three kinds of part;
* `LineShell.Token.word`, `LineShell.Token.token`, `LineShell.Token.all` — one word, one token, as
  many tokens as there are;
* `LineShell.tokenize` — the tokens of a line, or the error that a quote has no partner.

Main results:

* `LineShell.Token.advances_part`, `LineShell.Token.advances_word`,
  `LineShell.Token.advances_token` — whatever is taken off the line, it is not nothing;
* `LineShell.Token.exists_all` — taking tokens off a line never fails by itself;
* `LineShell.tokenize_of_isBare` — a line of one bare word is that word.
-/

import LineShell.Text.Reader
import LineShell.Text.Whitespace

set_option autoImplicit false

namespace LineShell

open Text (Reader Refusal)

/-- Why a line cannot be cut into tokens. -/
inductive LexError where
  /-- A quote has no partner. -/
  | unterminatedQuote
deriving DecidableEq

/-- The wording of the error. -/
def LexError.message : LexError → String
  | .unterminatedQuote => "Unterminated quote"

namespace Token

/-! ### Parts of a word -/

/-- The markers of a redirection, which are tokens of their own. -/
def isMarker (c : Char) : Bool := c == '<' || c == '>'

/-- A quote of either kind. -/
def isQuote (c : Char) : Bool := c == '"' || c == '\''

/-- The characters of a bare run: all but white space, quotes and markers. -/
def isBare (c : Char) : Bool := !Text.isWhitespace c && !isQuote c && !isMarker c

/-- A marker. -/
def marker : Reader (List Char) := (Reader.one isMarker).map ([·])

/-- A bare run. -/
def bare : Reader (List Char) := Reader.spanSome isBare

/-- A double quote. -/
def doubleQuote : Reader Char := Reader.one (· == '"')

/-- A single quote. -/
def singleQuote : Reader Char := Reader.one (· == '\'')

/-- A character that a backslash makes stand for itself, whatever it is. -/
def escaped : Reader (List Char) :=
  ((Reader.one (· == '\\')).andThen (Reader.one fun _ => true)).map ([·])

/-- A piece of a double-quoted text: a run without quotes and backslashes, or an escaped
character. -/
def doublePiece : Reader (List Char) :=
  (Reader.spanSome fun c => c != '"' && c != '\\').orElse escaped

/-- A text in double quotes. -/
def doubleQuoted : Reader (List Char) :=
  doubleQuote.between (doublePiece.fold (· ++ ·) []) doubleQuote

/-- A text in single quotes. -/
def singleQuoted : Reader (List Char) :=
  singleQuote.between ((Reader.spanSome (· != '\'')).optional.map (·.getD [])) singleQuote

/-- One part of a word. -/
def part : Reader (List Char) := (bare.orElse doubleQuoted).orElse singleQuoted

/-! ### Words and tokens -/

/-- A word: as many parts as stand side by side. -/
def word : Reader (List Char) := part.foldSome (· ++ ·) []

/-- One token after any blanks. -/
def token : Reader (List Char) := (Reader.span Text.isBlank).andThen (marker.orElse word)

/-- As many tokens as can be taken off the line.  What is left begins with the blanks before the
place where no token begins. -/
def all : Reader (List (List Char)) := token.repeated

/-! ### Progress -/

theorem advances_marker : marker.Advances := (Reader.advances_one _).map _

theorem plain_marker : marker.Plain := (Reader.plain_one _).map _

theorem advances_bare : bare.Advances := Reader.advances_spanSome _

theorem plain_bare : bare.Plain := Reader.plain_spanSome _

theorem advances_doublePiece : doublePiece.Advances :=
  (Reader.advances_spanSome _).orElse (((Reader.advances_one _).andThen_left _).map _)

theorem plain_doublePiece : doublePiece.Plain :=
  (Reader.plain_spanSome _).orElse (((Reader.plain_one _).andThen (Reader.plain_one _)).map _)

theorem advances_doubleQuoted : doubleQuoted.Advances := (Reader.advances_one _).between _ _

theorem plain_doubleQuoted : doubleQuoted.Plain :=
  (Reader.plain_one _).between (plain_doublePiece.fold advances_doublePiece _ _)
    (Reader.plain_one _)

theorem advances_singleQuoted : singleQuoted.Advances := (Reader.advances_one _).between _ _

theorem plain_singleQuoted : singleQuoted.Plain :=
  (Reader.plain_one _).between ((Reader.plain_spanSome _).optional.map _) (Reader.plain_one _)

/-- A part takes at least one character off the line. -/
theorem advances_part : part.Advances :=
  (advances_bare.orElse advances_doubleQuoted).orElse advances_singleQuoted

theorem plain_part : part.Plain := (plain_bare.orElse plain_doubleQuoted).orElse plain_singleQuoted

/-- A word takes at least one character off the line. -/
theorem advances_word : word.Advances := advances_part.foldSome _ _

theorem plain_word : word.Plain := plain_part.foldSome advances_part _ _

/-- A token takes at least one character off the line. -/
theorem advances_token : token.Advances :=
  (advances_marker.orElse advances_word).andThen_right _

theorem plain_token : token.Plain := (Reader.plain_span _).andThen (plain_marker.orElse plain_word)

/-- Tokens are taken off the line until none begins where the rest does. -/
theorem exists_all (cs : List Char) :
    ∃ tokens rest, all.run cs = .ok (tokens, rest) ∧ token.run rest = .error .mismatch :=
  Reader.exists_foldFrom advances_token plain_token _ _ _ cs

end Token

/-- The tokens of a line.  A line that leaves more than white space over has a quote without a
partner. -/
def tokenize (line : String) : Except LexError (List String) :=
  match Token.all.run line.toList with
  | .error _ => .error .unterminatedQuote
  | .ok (tokens, rest) =>
    if Text.isAllWhitespace rest then .ok (tokens.map String.ofList)
    else .error .unterminatedQuote

/-! ### Bare words -/

section

variable {w : List Char} (hne : w ≠ []) (h : ∀ c ∈ w, Token.isBare c = true)

include hne h

theorem Token.run_part_of_isBare : part.run w = .ok (w, []) := by
  have htake : w.takeWhile isBare = w := by
    simpa using @List.takeWhile_append_of_pos _ isBare w [] h
  have hdrop : w.dropWhile isBare = [] := by
    simpa using @List.dropWhile_append_of_pos _ isBare w [] h
  have hbare : bare.run w = .ok (w, []) := by
    simp only [bare, Reader.spanSome, htake, hdrop, if_neg hne]
  simp [part, Reader.orElse, hbare]

theorem Token.run_token_of_isBare : token.run w = .ok (w, []) := by
  have hword : word.run w = .ok (w, []) := by
    simp only [word, Reader.foldSome, run_part_of_isBare hne h]
    exact Reader.foldFrom_of_error (e := .mismatch) rfl rfl
  obtain ⟨c, w, rfl⟩ := List.exists_cons_of_ne_nil hne
  have hc := h c (List.mem_cons_self ..)
  simp only [isBare, Bool.and_eq_true, Bool.not_eq_true'] at hc
  have hblank : Text.isBlank c = false := by
    cases hb : Text.isBlank c with
    | false => rfl
    | true =>
        rw [Text.isWhitespace_of_isBlank hb] at hc
        cases hc.1.1
  simp [token, Reader.andThen, Reader.span, hblank, Reader.orElse, marker, Reader.map, Reader.one,
    hc, hword, Refusal.isFinal]

/-- A line of one bare word is that word. -/
theorem tokenize_of_isBare : tokenize (String.ofList w) = .ok [String.ofList w] := by
  have hall : Token.all.run w = .ok ([w], []) := by
    refine (Reader.foldFrom_of_ok (Token.run_token_of_isBare hne h) ?_).trans ?_
    · exact List.length_pos_iff.2 hne
    · exact Reader.foldFrom_of_error (e := .mismatch) rfl rfl
  simp [tokenize, hall]

end

end LineShell
