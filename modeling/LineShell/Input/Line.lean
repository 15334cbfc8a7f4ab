/-
**Lines and the bytes that end them.**

A line ends with a line feed, which the last one may lack; a carriage return before the line feed
belongs to the line's end too.  Readers differ in what they do with a carriage return at the end of
the input, where no line feed follows: one kind takes it away, the other keeps it.

Main definitions:

* `LineShell.lineEnd?` — the place behind the first line feed;
* `LineShell.rawLines` — a byte string cut behind each line feed;
* `LineShell.lineBody`, `LineShell.strictLineBody` — a line without the bytes that end it.

Main results:

* `LineShell.flatten_rawLines` — the lines make up the byte string;
* `LineShell.lineBody_eq_strictLineBody` — the two bodies differ at most where there is no line feed.
-/

import LineShell.Text.Utf8

set_option autoImplicit false

namespace LineShell

/-- The byte that ends a line. -/
def lineFeed : UInt8 := 10

/-- The byte that may stand before a line feed. -/
def carriageReturn : UInt8 := 13

/-- The place behind the first line feed, if there is one. -/
def lineEnd? (bs : Bytes) : Option Nat := (bs.findIdx? (· == lineFeed)).map (· + 1)

theorem lineEnd?_le {bs : Bytes} {n : Nat} (h : lineEnd? bs = some n) : 0 < n ∧ n ≤ bs.length := by
  obtain ⟨i, hi, rfl⟩ := Option.map_eq_some_iff.1 h
  have := (List.findIdx?_eq_some_iff_getElem.1 hi).1
  omega

@[simp] theorem lineEnd?_nil : lineEnd? [] = none := rfl

theorem lineEnd?_eq_none_iff {bs : Bytes} : lineEnd? bs = none ↔ lineFeed ∉ bs := by
  simp only [lineEnd?, Option.map_eq_none_iff, List.findIdx?_eq_none_iff, beq_eq_false_iff_ne]
  exact ⟨fun h hmem => h _ hmem rfl, fun h b hb hbf => h (hbf ▸ hb)⟩

/-- The first line feed of two byte strings stands in the first, if there is one. -/
theorem lineEnd?_append (as bs : Bytes) :
    lineEnd? (as ++ bs) = (lineEnd? as).or ((lineEnd? bs).map (· + as.length)) := by
  simp only [lineEnd?, List.findIdx?_append]
  cases as.findIdx? (· == lineFeed) with
  | some i => rfl
  | none =>
      cases bs.findIdx? (· == lineFeed) with
      | none => rfl
      | some j =>
          simp only [Option.map_some, Option.or, Option.map_none, Option.some.injEq]
          omega

/-- The place behind a line feed that no other comes before. -/
theorem lineEnd?_append_cons {piece : Bytes} (h : lineFeed ∉ piece) (rest : Bytes) :
    lineEnd? (piece ++ lineFeed :: rest) = some (piece.length + 1) := by
  have hfirst : lineEnd? (lineFeed :: rest) = some 1 := by
    simp [lineEnd?, List.findIdx?_cons]
  rw [lineEnd?_append, lineEnd?_eq_none_iff.2 h, hfirst, Nat.add_comm]
  rfl

/-- A byte string cut behind each line feed. -/
def rawLines : Bytes → List Bytes
  | [] => []
  | b :: rest =>
    if b = lineFeed then [b] :: rawLines rest
    else
      match rawLines rest with
      | [] => [[b]]
      | line :: lines => (b :: line) :: lines

/-- The lines, joined, are the byte string. -/
theorem flatten_rawLines (bs : Bytes) : (rawLines bs).flatten = bs := by
  induction bs with
  | nil => rfl
  | cons b rest ih =>
    rw [rawLines]
    split
    · simp [ih]
    · split
      · next h => simpa [h] using ih
      · next h => simpa [h] using ih

/-- A byte string without one byte `b` at its end. -/
def dropLastByte (b : UInt8) (bs : Bytes) : Bytes := if bs.getLast? = some b then bs.dropLast else bs

/-- Whether a line ends with a line feed. -/
def isTerminated (bs : Bytes) : Bool := bs.getLast? == some lineFeed

/-- A line without its line feed, and then without one carriage return. -/
def lineBody (bs : Bytes) : Bytes := dropLastByte carriageReturn (dropLastByte lineFeed bs)

/-- A line without its line feed and one carriage return before that; a line without a line feed is
kept whole. -/
def strictLineBody (bs : Bytes) : Bytes := if isTerminated bs then lineBody bs else bs

theorem dropLastByte_length_le (b : UInt8) (bs : Bytes) :
    (dropLastByte b bs).length ≤ bs.length := by
  unfold dropLastByte
  split <;> simp

theorem length_le_dropLastByte (b : UInt8) (bs : Bytes) :
    bs.length ≤ (dropLastByte b bs).length + 1 := by
  unfold dropLastByte
  split
  · rw [List.length_dropLast]
    omega
  · omega

@[simp] theorem dropLastByte_concat (b : UInt8) (bs : Bytes) : dropLastByte b (bs ++ [b]) = bs := by
  simp [dropLastByte]

@[simp] theorem isTerminated_append (piece : Bytes) :
    isTerminated (piece ++ [lineFeed]) = true := by
  simp [isTerminated]

theorem isTerminated_of_not_mem {bs : Bytes} (h : lineFeed ∉ bs) : isTerminated bs = false := by
  simp only [isTerminated, beq_eq_false_iff_ne]
  exact fun hlast => h (List.mem_of_getLast? hlast)

@[simp] theorem lineBody_append (piece : Bytes) :
    lineBody (piece ++ [lineFeed]) = dropLastByte carriageReturn piece := by
  simp [lineBody, dropLastByte]

theorem lineBody_of_not_mem {bs : Bytes} (h : lineFeed ∉ bs) :
    lineBody bs = dropLastByte carriageReturn bs := by
  have hlast : bs.getLast? ≠ some lineFeed := fun hlast => h (List.mem_of_getLast? hlast)
  simp only [lineBody, dropLastByte, if_neg hlast]

/-- Where there is a line feed the two bodies are the same. -/
theorem lineBody_eq_strictLineBody {bs : Bytes} (h : isTerminated bs = true) :
    strictLineBody bs = lineBody bs := by
  simp [strictLineBody, h]

end LineShell
