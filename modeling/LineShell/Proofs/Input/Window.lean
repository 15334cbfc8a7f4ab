/-
**Every limit, up to the largest number.**

The reader of limited lines looks for a line in a window that is two bytes larger than the limit, and
computes the window in 64 bits.  For all limits but two the sum fits, and the reader answers for
every line of its input before it answers that the input has ended.

For the two largest numbers, of which the larger is the one by which one would ask for no limit, the
sum does not fit.  Adding breaks the program off before a byte is taken: there is no answer for any
line, and none for the end of the input either, whatever the input holds.

Main definitions:

* `LineShell.ReadsThrough` — under a limit the end of the input is answered only at its end, and the
  answers before that are those for its lines.

Main results:

* `LineShell.lineWindow_eq_some_iff` — which limits have a window, and how large it is;
* `LineShell.items_of_overflow` — what is left of reading without a window;
* `LineShell.readsThrough_iff` — **the limits under which the input is read to its end**.
-/

import LineShell.Proofs.Input.Bounded
import LineShell.Proofs.Text.Utf8

set_option autoImplicit false

namespace LineShell

variable {limit : UInt64}

/-! ### The window -/

/-- The window, where there is one, is two bytes larger than the limit; there is one exactly if that
number fits into 64 bits. -/
theorem lineWindow_eq_some_iff {window : Nat} :
    lineWindow limit = some window ↔ limit.toNat + 2 < UInt64.size ∧ window = limit.toNat + 2 := by
  rcases Nat.lt_or_ge (limit.toNat + 2) UInt64.size with hlt | hge
  · rw [lineWindow_eq_some hlt, Option.some.injEq]
    exact ⟨fun h => ⟨hlt, h.symm⟩, fun h => h.2.symm⟩
  · rw [lineWindow_eq_none hge]
    exact ⟨nofun, fun h => absurd h.1 (Nat.not_lt.2 hge)⟩

/-- Without a window the first answer is the last, and nothing has been taken off the feed. -/
theorem items_of_overflow {ω : Type} (h : UInt64.size ≤ limit.toNat + 2) (f : Feed) (w : ω) :
    (boundedLines ω limit).items f w = ([.error .overflow], f, w) :=
  (Answers.last (boundedLine_of_none (lineWindow_eq_none h) f) rfl).items_eq w

/-! ### The end of the input -/

theorem pieceItem_ne_none (limit : UInt64) (piece : Bytes) : pieceItem limit piece ≠ .ok none := by
  intro hnone
  have hlast := isLast_pieceItem limit piece
  rw [hnone] at hlast
  cases hlast

/-- While bytes remain, no answer is that the input has ended, whether the limit has a window or
not. -/
theorem boundedLine_ne_none (limit : UInt64) {f : Feed} {bs : Bytes} {failure : Option IoError}
    (h : f.Delivers bs failure) (hne : bs ≠ []) : (boundedLine limit f).1 ≠ .ok none := by
  rcases Nat.lt_or_ge (limit.toNat + 2) UInt64.size with hlimit | hover
  · by_cases hmem : lineFeed ∈ bs
    · obtain ⟨piece, rest, rfl, hp⟩ := List.eq_append_cons_of_mem hmem
      obtain ⟨f', hanswer, -⟩ := boundedLine_terminated hlimit hp h
      rw [hanswer]
      exact pieceItem_ne_none limit piece
    · obtain ⟨f', hanswer, -⟩ := boundedLine_unterminated hlimit hmem h
      rw [hanswer]
      cases failure with
      | none =>
          rw [lastItem, if_neg hne]
          exact pieceItem_ne_none limit bs
      | some cause =>
          intro hnone
          cases hnone
  · rw [boundedLine_of_none (lineWindow_eq_none hover)]
    intro hnone
    cases hnone

/-! ### The limits under which the input is read -/

/-- Under the limit the end of the input is never answered while bytes remain, and all answers for an
input are those for its lines: every line that is not longer than the limit is delivered. -/
def ReadsThrough (limit : UInt64) : Prop :=
  ∀ ⦃f : Feed⦄ ⦃bs : Bytes⦄ ⦃failure : Option IoError⦄, f.Delivers bs failure → bs ≠ [] →
    (boundedLine limit f).1 ≠ .ok none ∧
      (boundedLines Unit limit).items f () = (splitItems limit bs failure, ⟨[], [], failure⟩, ())

theorem readsThrough_of_lt (hlimit : limit.toNat + 2 < UInt64.size) : ReadsThrough limit :=
  fun _ _ _ h hne => ⟨boundedLine_ne_none limit h hne, items_boundedLines hlimit h ()⟩

/-- One byte is a line, which is not delivered under a limit without a window. -/
theorem not_readsThrough_of_le (h : UInt64.size ≤ limit.toNat + 2) : ¬ ReadsThrough limit := by
  intro hreads
  have hdel : (⟨[97], [], none⟩ : Feed).Delivers [97] none := ⟨rfl, by decide, rfl⟩
  obtain ⟨-, hitems⟩ := hreads hdel (by decide)
  rw [items_of_overflow h, splitItems_none_of_not_mem limit (by decide) (by decide),
    Prod.mk.injEq] at hitems
  cases congrArg List.length hitems.1

/-- **The limits under which the input is read to its end**: the window can be computed, and the
reader answers for every line of any input before it answers that the input has ended, exactly if the
limit and two fit into 64 bits.  Under the two other limits reading anything breaks the program off
with all of the input still there.  That an input with bytes left has ended is answered under no
limit. -/
theorem readsThrough_iff (limit : UInt64) :
    (lineWindow limit = some (limit.toNat + 2) ↔ limit.toNat + 2 < UInt64.size) ∧
    (ReadsThrough limit ↔ limit.toNat + 2 < UInt64.size) ∧
    (UInt64.size ≤ limit.toNat + 2 → lineWindow limit = none ∧
      ∀ f : Feed, boundedLine limit f = (.error .overflow, f) ∧
        (boundedLines Unit limit).items f () = ([.error .overflow], f, ())) ∧
    ∀ (f : Feed) (bs : Bytes) (failure : Option IoError), f.Delivers bs failure → bs ≠ [] →
      (boundedLine limit f).1 ≠ .ok none := by
  refine ⟨?_, ⟨fun hreads => ?_, readsThrough_of_lt⟩, fun hover => ?_, fun f bs failure h hne => ?_⟩
  · rw [lineWindow_eq_some_iff, and_iff_left rfl]
  · exact Nat.lt_of_not_le fun hle => not_readsThrough_of_le hle hreads
  · have hwindow := lineWindow_eq_none hover
    exact ⟨hwindow, fun f => ⟨boundedLine_of_none hwindow f, items_of_overflow hover f ()⟩⟩
  · exact boundedLine_ne_none limit h hne

/-- One line in two pieces, under the three largest limits: the smallest of them delivers it, the two
others leave it where it is. -/
theorem readsThrough_iff_largest :
    let f : Feed := ⟨[97], [[98, 10]], none⟩
    f.Delivers [97, 98, 10] none ∧
      ((0xFFFFFFFFFFFFFFFD : UInt64).toNat + 2 < UInt64.size ∧
        (boundedLines Unit 0xFFFFFFFFFFFFFFFD).items f () =
          ([.ok (some "ab"), .ok none], ⟨[], [], none⟩, ())) ∧
      (UInt64.size ≤ (0xFFFFFFFFFFFFFFFE : UInt64).toNat + 2 ∧
        (boundedLines Unit 0xFFFFFFFFFFFFFFFE).items f () = ([.error .overflow], f, ())) ∧
      UInt64.size ≤ (0xFFFFFFFFFFFFFFFF : UInt64).toNat + 2 ∧
        (boundedLines Unit 0xFFFFFFFFFFFFFFFF).items f () = ([.error .overflow], f, ()) := by
  intro f
  have hdel : f.Delivers [97, 98, 10] none := ⟨rfl, by decide, rfl⟩
  have hfits : (0xFFFFFFFFFFFFFFFD : UInt64).toNat + 2 < UInt64.size := by decide
  have hover : UInt64.size ≤ (0xFFFFFFFFFFFFFFFE : UInt64).toNat + 2 := by decide
  have hlargest : UInt64.size ≤ (0xFFFFFFFFFFFFFFFF : UInt64).toNat + 2 := by decide
  have hitems : splitItems 0xFFFFFFFFFFFFFFFD [97, 98, 10] none = [.ok (some "ab"), .ok none] := by
    rw [← Utf8.decodeLossy_encode "ab"]
    rfl
  refine ⟨hdel, ⟨hfits, ?_⟩, ⟨hover, ?_⟩, hlargest, ?_⟩
  · rw [← hitems]
    exact ((readsThrough_iff _).2.1.2 hfits hdel (by decide)).2
  · exact (((readsThrough_iff _).2.2.1 hover).2 f).2
  · exact (((readsThrough_iff _).2.2.1 hlargest).2 f).2

end LineShell
