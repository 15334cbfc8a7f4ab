/-
**Bytes and UTF-8.**

Paths, file contents and input lines are byte strings; tokens are text.  This module goes between
the two: `encode` writes text as UTF-8, `decode?` reads UTF-8 strictly, and `decodeLossy` reads any
byte string, putting U+FFFD for each malformed piece.

A malformed piece is the longest run that begins like a well-formed sequence without completing
one: a truncated sequence counts as one piece, and a byte that no sequence starts with as one.

Main definitions:

* `LineShell.Utf8.first` — one character, or one malformed piece, off the front of a byte string;
* `LineShell.Utf8.pieces` — the byte string cut into characters and malformed pieces;
* `LineShell.Utf8.decode?`, `LineShell.Utf8.decodeLossy` — the strict and the lossy reading.

Main results:

* `LineShell.Utf8.first_length_le` — taking a piece off never lengthens what is left;
* `LineShell.Utf8.decode?_eq_none_iff` — the strict reading fails exactly on a malformed piece.
-/

set_option autoImplicit false

namespace LineShell

/-- A byte string. -/
abbrev Bytes := List UInt8

namespace Utf8

/-! ### Writing -/

/-- The UTF-8 bytes of a list of characters. -/
def encodeChars (cs : List Char) : Bytes := cs.flatMap String.utf8EncodeChar

/-- The UTF-8 bytes of a text. -/
def encode (s : String) : Bytes := encodeChars s.toList

@[simp] theorem encodeChars_nil : encodeChars [] = [] := rfl

@[simp] theorem encodeChars_cons (c : Char) (cs : List Char) :
    encodeChars (c :: cs) = String.utf8EncodeChar c ++ encodeChars cs := rfl

@[simp] theorem encodeChars_append (as bs : List Char) :
    encodeChars (as ++ bs) = encodeChars as ++ encodeChars bs := by
  simp [encodeChars]

/-! ### Reading -/

/-- A continuation byte, `80` to `BF`. -/
def isContinuation (b : UInt8) : Bool := 0x80 ≤ b && b ≤ 0xBF

/-- The six payload bits of a continuation byte. -/
def payload (b : UInt8) : Nat := b.toNat % 64

/-- Reads two continuation bytes, the first of them between `low` and `high`, after the lead bits
`lead` of a three-byte sequence. -/
def tripleTail (lead : Nat) (low high : UInt8) : Bytes → Option Char × Bytes
  | b :: rest =>
    if low ≤ b && b ≤ high then
      match rest with
      | c :: rest' =>
        if isContinuation c then (some (Char.ofNat ((lead * 64 + payload b) * 64 + payload c)), rest')
        else (none, rest)
      | [] => (none, [])
    else (none, b :: rest)
  | [] => (none, [])

/-- Reads three continuation bytes, the first of them between `low` and `high`, after the lead bits
`lead` of a four-byte sequence. -/
def quadTail (lead : Nat) (low high : UInt8) : Bytes → Option Char × Bytes
  | b :: rest =>
    if low ≤ b && b ≤ high then tripleTail (lead * 64 + payload b) 0x80 0xBF rest
    else (none, b :: rest)
  | [] => (none, [])

/-- Takes one character off the front of `b :: rest`, or one malformed piece (`none`), and gives
what follows it.  The bounds on the second byte shut out overlong forms, surrogates and numbers
above U+10FFFF. -/
def first (b : UInt8) (rest : Bytes) : Option Char × Bytes :=
  if b < 0x80 then (some (Char.ofNat b.toNat), rest)
  else if b < 0xC2 then (none, rest)
  else if b < 0xE0 then
    match rest with
    | c :: rest' =>
      if isContinuation c then (some (Char.ofNat ((b.toNat - 0xC0) * 64 + payload c)), rest')
      else (none, rest)
    | [] => (none, [])
  else if b < 0xF0 then
    tripleTail (b.toNat - 0xE0) (if b = 0xE0 then 0xA0 else 0x80) (if b = 0xED then 0x9F else 0xBF)
      rest
  else if b < 0xF5 then
    quadTail (b.toNat - 0xF0) (if b = 0xF0 then 0x90 else 0x80) (if b = 0xF4 then 0x8F else 0xBF)
      rest
  else (none, rest)

theorem tripleTail_length_le (lead : Nat) (low high : UInt8) (bs : Bytes) :
    (tripleTail lead low high bs).2.length ≤ bs.length := by
  unfold tripleTail
  grind

theorem quadTail_length_le (lead : Nat) (low high : UInt8) (bs : Bytes) :
    (quadTail lead low high bs).2.length ≤ bs.length := by
  unfold quadTail
  split
  · split
    · exact Nat.le_trans (tripleTail_length_le ..) (Nat.le_succ _)
    · exact Nat.le_refl _
  · exact Nat.le_refl _

/-- What is left after one piece is no longer than what followed its first byte. -/
theorem first_length_le (b : UInt8) (rest : Bytes) : (first b rest).2.length ≤ rest.length := by
  unfold first
  split
  · exact Nat.le_refl _
  split
  · exact Nat.le_refl _
  split
  · grind
  split
  · exact tripleTail_length_le ..
  split
  · exact quadTail_length_le ..
  · exact Nat.le_refl _

/-- A byte string as characters, with `none` for each malformed piece. -/
def pieces : Bytes → List (Option Char)
  | [] => []
  | b :: rest => (first b rest).1 :: pieces (first b rest).2
termination_by bs => bs.length
decreasing_by exact Nat.lt_succ_of_le (first_length_le b rest)

@[simp] theorem pieces_nil : pieces [] = [] := by rw [pieces]

theorem pieces_cons (b : UInt8) (rest : Bytes) :
    pieces (b :: rest) = (first b rest).1 :: pieces (first b rest).2 := by rw [pieces]

/-- Reads well-formed UTF-8; `none` if some piece is malformed. -/
def decode? (bs : Bytes) : Option String := ((pieces bs).mapM id).map String.ofList

/-- Reads any byte string, with U+FFFD for each malformed piece. -/
def decodeLossy (bs : Bytes) : String :=
  String.ofList ((pieces bs).map (·.getD (Char.ofNat 0xFFFD)))

/-- The strict reading fails exactly when there is a malformed piece. -/
theorem decode?_eq_none_iff (bs : Bytes) : decode? bs = none ↔ none ∈ pieces bs := by
  have key : ∀ l : List (Option Char), l.mapM id = none ↔ none ∈ l := by
    intro l
    induction l with
    | nil => simp
    | cons x xs ih =>
      cases x with
      | none => simp
      | some c =>
        cases h : List.mapM id xs with
        | none => simp_all
        | some ys => simp_all
  simp [decode?, key]

end Utf8

end LineShell
