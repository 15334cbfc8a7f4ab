/-
**The modes of a terminal.**

A terminal has modes that are on or off, and characters with a special meaning.  What is typed at a
fresh terminal is taken line by line: a carriage return is typed for a line feed, the end-of-input
character hands on what was typed so far, and if that is nothing, says that the input has ended.
Other characters take back what was typed: the last byte, the last word, the whole line or everything.
A line that is too long for the terminal keeps its beginning.

Main definitions:

* `LineShell.Machine.Modes.fresh` — the modes of a fresh terminal;
* `LineShell.Machine.Modes.set` — the modes after settings in words;
* `LineShell.Machine.Modes.summary` — the modes that are not the usual ones;
* `LineShell.Machine.typedPieces` — what is typed, one piece for each read.

Main results:

* `LineShell.Machine.Modes.set_nil` — without settings nothing changes;
* `LineShell.Machine.length_typeByte_le` — a line never holds more than the terminal keeps.
-/

import LineShell.Input.Line
import LineShell.Machine.State

set_option autoImplicit false

namespace LineShell.Machine

namespace Modes

/-- The modes that can be set. -/
def names : List String :=
  ["parenb", "parodd", "cmspar", "hupcl", "cstopb", "cread", "clocal", "crtscts", "ignbrk", "brkint",
   "ignpar", "parmrk", "inpck", "istrip", "inlcr", "igncr", "icrnl", "ixon", "ixoff", "iuclc",
   "ixany", "imaxbel", "iutf8", "opost", "olcuc", "ocrnl", "onlcr", "onocr", "onlret", "ofill",
   "ofdel", "isig", "icanon", "iexten", "echo", "echoe", "echok", "echonl", "noflsh", "xcase",
   "tostop", "echoprt", "echoctl", "echoke", "flusho", "extproc"]

/-- The special characters. -/
def characterNames : List String :=
  ["intr", "quit", "erase", "kill", "eof", "eol", "eol2", "swtch", "start", "stop", "susp", "rprnt",
   "werase", "lnext", "discard", "min", "time"]

/-- The modes of a fresh terminal. -/
def fresh : Modes where
  flags := ["cread", "icrnl", "ixon", "opost", "onlcr", "isig", "icanon", "iexten", "echo", "echoe",
    "echok", "echoctl", "echoke"]
  characters := [("intr", "^C"), ("quit", "^\\"), ("erase", "^?"), ("kill", "^U"), ("eof", "^D"),
    ("eol", ""), ("eol2", ""), ("swtch", ""), ("start", "^Q"), ("stop", "^S"), ("susp", "^Z"),
    ("rprnt", "^R"), ("werase", "^W"), ("lnext", "^V"), ("discard", "^O"), ("min", "1"),
    ("time", "0")]

/-- The modes with one of them on or off; they stay in the order of their names. -/
def setFlag (m : Modes) (name : String) (on : Bool) : Modes :=
  { m with flags := names.filter fun n => if n = name then on else m.flags.contains n }

/-- The modes with a value for a special character. -/
def setCharacter (m : Modes) (name value : String) : Modes :=
  { m with characters := m.characters.map fun (n, v) => (n, if n = name then value else v) }

/-- Several modes on or off. -/
def setFlags (m : Modes) (on : Bool) (ns : List String) : Modes := ns.foldl (·.setFlag · on) m

/-- The modes that line-by-line input needs. -/
def cooked : List String := ["brkint", "ignpar", "icrnl", "ixon", "opost", "isig", "icanon"]

/-- The usual modes. -/
def sane : Modes := (fresh.setFlag "brkint" true).setFlag "imaxbel" true

/-- Settings that stand for several others. -/
def combination (m : Modes) : String → Option Modes
  | "sane" => some sane
  | "raw" | "-cooked" => some (m.setFlags false (cooked ++ ["inpck", "istrip", "ixoff", "ixany"]))
  | "cooked" | "-raw" => some (m.setFlags true cooked)
  | "cbreak" => some (m.setFlag "icanon" false)
  | "-cbreak" => some (m.setFlag "icanon" true)
  | "nl" => some (m.setFlags false ["icrnl", "onlcr"])
  | "-nl" => some (m.setFlags true ["icrnl", "onlcr"])
  | _ => none

/-- Why the modes cannot be set. -/
inductive Refusal where
  /-- A word is no setting. -/
  | unknown (word : String)
  /-- A setting needs a value. -/
  | incomplete (word : String)
  /-- A value is neither a character nor a number. -/
  | noCharacter (value : String)

/-- Whether a word stands for a special character: itself, a control character behind a caret, none
at all, or the one of a number. -/
def isCharacter (value : String) : Bool :=
  match value.toList with
  | [_] | '^' :: _ :: _ => true
  | cs => value == "undef" || cs.all Char.isDigit

/-- The modes after settings in words; the first that is refused, if there is one. -/
def set (m : Modes) : List String → Except Refusal Modes
  | [] => .ok m
  | word :: rest =>
    let bare := String.ofList (word.toList.drop 1)
    match m.combination word with
    | some m' => m'.set rest
    | none =>
      if names.contains word then (m.setFlag word true).set rest
      else if word.startsWith "-" && names.contains bare then (m.setFlag bare false).set rest
      else if characterNames.contains word then
        match rest with
        | [] => .error (.incomplete word)
        | value :: rest' =>
          if isCharacter value then
            (m.setCharacter word (if value = "undef" ∨ value = "^-" then "" else value)).set rest'
          else .error (.noCharacter value)
      else .error (.unknown word)

theorem set_nil (m : Modes) : m.set [] = .ok m := by rw [set]

/-- The modes that are told of when they differ from the usual ones, in their four groups. -/
def reported : List (List String) :=
  [["cread"],
   ["ignbrk", "brkint", "inlcr", "igncr", "icrnl", "ixoff", "iuclc", "ixany", "imaxbel", "iutf8"],
   ["opost", "olcuc", "ocrnl", "onlcr", "onocr", "onlret", "ofill", "ofdel"],
   ["isig", "icanon", "iexten", "echo", "echoe", "echok", "echonl", "noflsh", "xcase", "tostop",
    "echoprt", "echoctl", "echoke", "flusho", "extproc"]]

/-- Words on a line of their own; nothing if there are none. -/
def lineOfWords (words : List String) : String :=
  if words.isEmpty then "" else " ".intercalate words ++ "\n"

/-- The modes that differ from the usual ones, in words. -/
def summary (m : Modes) : String :=
  let changed := (m.characters.zip sane.characters).filter fun (now, usual) =>
    now.2 != usual.2 && now.1 != "min" && now.1 != "time"
  let characters := changed.map fun (now, _) =>
    now.1 ++ " = " ++ (if now.2 = "" then "<undef>" else now.2) ++ ";"
  let times := if m.flags.contains "icanon" then [] else
    ["min", "time"].map fun name => name ++ " = " ++ (m.characters.lookup name).getD "" ++ ";"
  let flags := reported.map fun group => lineOfWords <| group.filterMap fun name =>
    match m.flags.contains name, sane.flags.contains name with
    | true, false => some name
    | false, true => some ("-" ++ name)
    | _, _ => none
  "speed 38400 baud; line = 0;\n" ++ lineOfWords (characters ++ times) ++ String.join flags

end Modes

/-! ### Typing -/

/-- The end-of-input character. -/
def endOfInput : UInt8 := 4

/-- The most bytes of a line, its end included. -/
def lineCapacity : Nat := 4096

/-- A line, the newest byte first, with one byte more; the last place is taken again and again. -/
def typeByte (line : Bytes) (b : UInt8) : Bytes :=
  if line.length < lineCapacity then b :: line else b :: line.drop (line.length + 1 - lineCapacity)

/-- Whether a byte belongs to a word: a letter of the first 256 characters, a digit or an
underscore. -/
def isWordByte (b : UInt8) : Bool :=
  let c := Char.ofNat b.toNat
  c.isAlphanum || c == '_' || (decide (192 ≤ b.toNat) && b != 215 && b != 247)

/-- A line, the newest byte first, without its last word. -/
def withoutWord (line : Bytes) : Bytes :=
  (line.dropWhile (!isWordByte ·)).dropWhile isWordByte

/-- What is typed, one piece for each read: `pieces` are those so far, the newest first, and `line`
holds what was typed since the last one, the newest byte first; after `literal` the next byte has no
special meaning.  The characters that stop a program take back all that was not read yet. -/
def typedAfter (pieces : List Bytes) (line : Bytes) (literal : Bool) : Bytes → List Bytes
  | [] => (if line = [] then pieces else line.reverse :: pieces).reverse
  | b :: rest =>
    if literal then typedAfter pieces (typeByte line b) false rest
    else if b = lineFeed ∨ b = carriageReturn then
      typedAfter ((typeByte line lineFeed).reverse :: pieces) [] false rest
    else if b = endOfInput then typedAfter (line.reverse :: pieces) [] false rest
    else if b = 127 then typedAfter pieces line.tail false rest
    else if b = 21 then typedAfter pieces [] false rest
    else if b = 23 then typedAfter pieces (withoutWord line) false rest
    else if b = 22 then typedAfter pieces line true rest
    else if b = 3 ∨ b = 26 ∨ b = 28 then typedAfter [] [] false rest
    else if b = 17 ∨ b = 18 ∨ b = 19 then typedAfter pieces line false rest
    else typedAfter pieces (typeByte line b) false rest

/-- What is typed at a fresh terminal, one piece for each read.  At the end of all typing the input
has ended. -/
def typedPieces (bytes : Bytes) : List Bytes := typedAfter [] [] false bytes

theorem lineCapacity_pos : 0 < lineCapacity := Nat.succ_pos _

theorem length_typeByte_le {line : Bytes} (h : line.length ≤ lineCapacity) (b : UInt8) :
    (typeByte line b).length ≤ lineCapacity := by
  have hpos := lineCapacity_pos
  rw [typeByte]
  generalize lineCapacity = capacity at *
  split
  · rw [List.length_cons]
    omega
  · rw [List.length_cons, List.length_drop]
    omega

/-- A fresh terminal at which something is typed. -/
def Terminal.fresh (controlling : Bool) (bytes : Bytes) : Terminal :=
  ⟨controlling, typedPieces bytes, Modes.fresh⟩

end LineShell.Machine
