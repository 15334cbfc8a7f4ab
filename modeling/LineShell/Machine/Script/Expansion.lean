/-
**The values of words.**

The pieces of a word are replaced by what they stand for: values of parameters, the output of other
scripts, numbers.  What that gives is cut into fields, or taken as one text, or as a pattern.  A tilde
in front of a word stands for the home directory.

Main definitions:

* `LineShell.Machine.Script.withHome` — a word with its tildes replaced;
* `LineShell.Machine.Script.partsOfWord` — what the pieces of a word give;
* `LineShell.Machine.Script.fieldsOfWord`, `LineShell.Machine.Script.textOfWord`,
  `LineShell.Machine.Script.patternOfWord` — a word as fields, as a text and as a pattern.
-/

import LineShell.Machine.Script.Arithmetic
import LineShell.Machine.Script.Field
import LineShell.Machine.Script.Runner

set_option autoImplicit false

namespace LineShell.Machine.Script

/-! ### Home directories -/

/-- The home directory of the user of a name; the empty name stands for the present one. -/
def homeOf (home : Option (List Char)) (name : List Char) : Option (List Char) :=
  if name = [] then home else if name = "root".toList then some "/root".toList else none

/-- A tilde and what follows it in a piece of text, which is the last one if `last`, with the home
directory in its place. -/
def homeAt (home : Option (List Char)) (assigned last : Bool) (cs : List Char) : Option Word :=
  match cs with
  | '~' :: rest =>
    let name := rest.takeWhile fun c => c != '/' && !(assigned && c == ':')
    let behind := rest.drop name.length
    if behind = [] ∧ last = false then none
    else (homeOf home name).map fun path => [.text path (path != []), .text behind false]
  | _ => none

/-- A text of an assignment with the home directory behind each colon. -/
def homesIn (home : Option (List Char)) (last : Bool) : Nat → List Char → Word
  | 0, cs => [.text cs false]
  | fuel + 1, cs =>
    let front := cs.takeWhile (· != ':')
    match cs.drop front.length with
    | [] => [.text front false]
    | colon :: rest =>
      .text (front ++ [colon]) false ::
        match homeAt home true last rest with
        | some (path :: .text behind _ :: _) => path :: homesIn home last fuel behind
        | _ => homesIn home last fuel rest

/-- A word with its tildes replaced by the home directory. -/
def withHome (home : Option (List Char)) (assigned : Bool) (w : Word) : Word :=
  let first :=
    match w with
    | .text cs false :: rest =>
      match homeAt home assigned rest.isEmpty cs with
      | some front => front ++ rest
      | none => w
    | _ => w
  if assigned then
    first.zipIdx.flatMap fun (piece, n) =>
      match piece with
      | .text cs false => homesIn home (n + 1 == first.length) (cs.length + 1) cs
      | piece => [piece]
  else first

mutual

/-- A piece with the tildes in the words in it replaced.  Between quotes a tilde means something only in
a word that is cut off. -/
def Piece.withHomes (home : Option (List Char)) (assigned : Bool) : Piece → Piece
  | .parameter name (some (operation, word)) quoted =>
    let inner := homesInside home assigned word
    let meant := match operation with
      | .cutFront _ | .cutEnd _ => true
      | _ => !quoted
    .parameter name (some (operation, if meant then withHome home assigned inner else inner)) quoted
  | .number expression quoted => .number (homesInside home false expression) quoted
  | p => p

/-- Pieces with the tildes in the words in them replaced. -/
def homesInside (home : Option (List Char)) (assigned : Bool) : List Piece → List Piece
  | [] => []
  | p :: rest => p.withHomes home assigned :: homesInside home assigned rest

end

/-! ### Parameters -/

/-- Texts with a text between each two. -/
def joinWith (separator : List Char) (texts : List (List Char)) : List Char :=
  (texts.intersperse separator).flatten

/-- The letters of the options that can be set, in the order in which they are shown. -/
def optionLetters : List Char := "bavCEVxsmnIifue".toList

/-- The value of a parameter as one text. -/
def Running.parameter? (r : Running) (name : List Char) : Option (List Char) :=
  let runner := r.runner
  match name with
  | ['@'] | ['*'] => some (joinWith (runner.separators.take 1) runner.arguments)
  | ['#'] => some (toString runner.arguments.length).toList
  | ['?'] => some (toString runner.status).toList
  | ['$'] => some (toString runner.root).toList
  | ['!'] => runner.background.map fun id => (toString id).toList
  | ['-'] => some (optionLetters.filter runner.options.contains)
  | c :: cs =>
    if c.isDigit then
      match (digitsAt 10 (c :: cs)).1 with
      | 0 => some runner.name
      | n + 1 => runner.arguments[n]?
    else runner.value? (c :: cs)
  | [] => none

/-- What is done with the pieces of a word. -/
inductive Cutting where
  /-- They become one text. -/
  | none
  /-- They are cut into fields, but text is not. -/
  | values
  /-- They are cut into fields, and text is as well. -/
  | all
deriving DecidableEq

/-- How the words within a word are cut. -/
def Cutting.inner : Cutting → Cutting
  | .none => .none
  | .values | .all => .all

/-- The value of a parameter, with borders between arguments that become fields of their own. -/
def Running.joined? (r : Running) (cut : Cutting) (name : List Char) (quoted : Bool) :
    Option (List (Option Char)) :=
  if cut ≠ .none ∧ (name = ['@'] ∨ (name = ['*'] ∧ quoted = false)) then
    some ((r.runner.arguments.map fun a => a.map some).intersperse [Option.none] |>.flatten)
  else (r.parameter? name).map fun cs => cs.map some

/-- What a value of a parameter gives.  Quotes around all arguments make no field if there are none. -/
def Running.valueParts (r : Running) (name : List Char) (quoted : Bool) (value : List (Option Char)) :
    List Part :=
  (if quoted ∧ (name ≠ ['@'] ∨ r.runner.arguments ≠ []) then [.quotes] else []) ++
    partsOfJoined value quoted

/-- A parameter without a value is an error if an option says so. -/
def demandValue (name : List Char) : Doing Unit := do
  let r ← get
  if r.runner.has 'u' && (r.parameter? name).isNone then
    fail (name ++ ": parameter not set".toList)

/-- The wording of why an expression has no value. -/
def Nonsense.message (expression : List Char) : Nonsense → List Char
  | .expecting what =>
    "arithmetic expression: expecting ".toList ++ what.toList ++ ": \"".toList ++ expression ++ ['"']
  | .divisionByZero =>
    "arithmetic expression: division by zero: \"".toList ++ expression ++ ['"']
  | .noNumber text => "Illegal number: ".toList ++ text

/-- The value of an arithmetic expression, whose assignments are carried out. -/
def calculated (expression : List Char) : Doing (List Char) := do
  let r ← theRunner
  match calculate r.value? expression with
  | .error cause => fail (cause.message expression)
  | .ok (n, assigned) =>
    for (name, value) in assigned.reverse do
      assign name (toString value).toList
    return (toString n).toList

/-- Whether a value counts as missing. -/
def isMissing (orEmpty : Bool) (value : Option (List (Option Char))) : Bool :=
  if orEmpty then value.getD [] == [] else value.isNone

/-! ### Words -/

variable (output : InnerScript → Doing (List Char))

mutual

/-- What a piece of a word gives; `output` runs scripts. -/
def partsOfPiece (cut : Cutting) (p : Piece) : Doing (List Part) := do
  match p with
  | .text cs quoted => return if cut = .all then partsOfValue cs quoted else partsOfText cs quoted
  | .parameter name none quoted => do
    demandValue name
    let r ← get
    return r.valueParts name quoted ((r.joined? cut name quoted).getD [])
  | .parameter name (some (operation, word)) quoted => do
    let r ← get
    let value := r.joined? cut name quoted
    let asItIs := r.valueParts name quoted (value.getD [])
    let whole : Doing (List Glyph) := wholeOf <$> partsOfPieces .none word
    let instead : Doing (List Part) := do
      let parts ← partsOfPieces cut.inner word
      return if quoted then .quotes :: parts else parts
    match operation with
    | .fallback orEmpty => if isMissing orEmpty value then instead else return asItIs
    | .replacement orEmpty =>
      if isMissing orEmpty value then return if quoted then [.quotes] else [] else instead
    | .assignment orEmpty =>
      if isMissing orEmpty value then
        let text := textOfGlyphs (← whole)
        assign name text
        return partsOfValue text quoted
      else return asItIs
    | .demand orEmpty =>
      if isMissing orEmpty value then
        let text := textOfGlyphs (← whole)
        fail (name ++ ": ".toList ++ (if word.isEmpty then
          "parameter not set".toList ++ (if orEmpty then " or null".toList else []) else text))
      else return asItIs
    | .cutFront longest => do
      demandValue name
      match value with
      | none => return asItIs
      | some text => do
        let pattern := patternOf (← whole)
        return (← get).valueParts name quoted (withoutFront longest pattern text)
    | .cutEnd longest => do
      demandValue name
      match value with
      | none => return asItIs
      | some text => do
        let pattern := patternOf (← whole)
        return (← get).valueParts name quoted (withoutEnd longest pattern text)
  | .length name quoted => do
    demandValue name
    let value := (← get).joined? cut name quoted
    return partsOfValue (toString (value.getD []).length).toList quoted
  | .output script quoted => do
    return partsOfValue (← output script) quoted
  | .number expression quoted => do
    let parts ← partsOfPieces .none expression
    return partsOfValue (← calculated (textOfGlyphs (wholeOf parts))) quoted
  | .senseless => fail "Bad substitution".toList

/-- What the pieces of a word give. -/
def partsOfPieces (cut : Cutting) (w : List Piece) : Doing (List Part) := do
  match w with
  | [] => return []
  | p :: rest => do
    let front ← partsOfPiece cut p
    return front ++ (← partsOfPieces cut rest)

end

/-- What the pieces of a word give, behind its home directory. -/
def partsOfWord (cut : Cutting) (assigned : Bool) (w : Word) : Doing (List Part) := do
  let home := (← theRunner).value? "HOME".toList
  partsOfPieces output cut (withHome home assigned (homesInside home assigned w))

/-- A word as one text whose characters may be quoted. -/
def patternOfWord (w : Word) : Doing (List Glyph) := wholeOf <$> partsOfWord output .none false w

/-- A word as one text. -/
def textOfWord (w : Word) : Doing (List Char) := textOfGlyphs <$> patternOfWord output w

/-- A value that is assigned, as one text. -/
def textOfValue (w : Word) : Doing (List Char) :=
  (textOfGlyphs ∘ wholeOf) <$> partsOfWord output .none true w

/-- A field, or the paths of the files that it fits. -/
def pathsOfField (field : List Glyph) : Doing (List (List Char)) := do
  let r ← get
  if isPattern field && !r.runner.has 'f' then
    match fittingPaths r.machine field with
    | [] => return [textOfGlyphs field]
    | paths => return paths
  else return [textOfGlyphs field]

/-- The fields of a word, with paths in the place of those that are patterns. -/
def fieldsOfWord (w : Word) : Doing (List (List Char)) := do
  let parts ← partsOfWord output .values false w
  let fields := fieldsOf (← theRunner).separators parts
  return (← fields.mapM pathsOfField).flatten

/-- The fields of several words. -/
def fieldsOfWords (ws : List Word) : Doing (List (List Char)) := do
  return (← ws.mapM (fieldsOfWord output)).flatten

end LineShell.Machine.Script
