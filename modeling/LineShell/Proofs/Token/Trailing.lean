/-
**White space behind a line.**

Where a line ends in white space the scan has either come between two tokens, or leaves a word at
the first of these characters, or is in quotes, and then still is at the end.  In no case does it
give anything that it would not give without them, and it fails if it would fail without.  So a line
may lose white space from its end, as it does when it is read as a line of a script, and it is the
same line.

Main results:

* `LineShell.Token.scan_of_isAllWhitespace` — over white space the scan does what it does at the
  end;
* `LineShell.Token.scan_append_of_isAllWhitespace` — **white space behind a line adds nothing to the
  scan**.
-/

import LineShell.Proofs.Token.Scan

set_option autoImplicit false

namespace LineShell.Token

open Text (isAllWhitespace isWhitespace)

/-- Between two tokens white space is passed over, or left for the end. -/
theorem scan_between_of_isAllWhitespace {cs : List Char} (h : isAllWhitespace cs = true) :
    scan .between cs = .ok [] := by
  induction cs with
  | nil => rfl
  | cons c cs ih =>
      have hwhite : isWhitespace c = true ∧ isAllWhitespace cs = true := by
        simpa using h
      cases hblank : Text.isBlank c with
      | true =>
          rw [scan_of_step (step_between_of_isBlank hblank), ih hwhite.2]
      | false =>
          rw [scan_between_of_isWhitespace hblank hwhite.1, if_pos h]

/-- White space is no quote, and no backslash. -/
theorem ne_of_isWhitespace {c : Char} (h : isWhitespace c = true) :
    (c == '"') = false ∧ (c == '\'') = false ∧ (c == '\\') = false := by
  refine ⟨?_, ?_, ?_⟩ <;>
    · rw [beq_eq_false_iff_ne]
      rintro rfl
      revert h
      decide

/-- Over white space the scan does what it does at the end of the line, wherever it stands. -/
theorem scan_of_isAllWhitespace (place : Place) {cs : List Char} (h : isAllWhitespace cs = true) :
    scan place cs = place.finish := by
  induction cs generalizing place with
  | nil => rfl
  | cons c cs ih =>
      have hwhite : isWhitespace c = true ∧ isAllWhitespace cs = true := by
        simpa using h
      obtain ⟨hdouble, hsingle, hbackslash⟩ := ne_of_isWhitespace hwhite.1
      cases place with
      | between => exact scan_between_of_isAllWhitespace h
      | inWord word =>
          -- the word ends, and the scan goes on as if it had stood behind it
          have hends : endsWord c = true := by
            rw [endsWord, hwhite.1, Bool.true_or]
          rw [scan_inWord_of_endsWord hends, scan_between_of_isAllWhitespace h]
          rfl
      | inDouble word =>
          have hstep : (Place.inDouble word).step c = ([], some (.inDouble (word ++ [c]))) := by
            simp only [Place.step, hdouble, hbackslash, Bool.false_eq_true, if_false]
          rw [scan_of_step hstep, ih _ hwhite.2]
          rfl
      | escaped word =>
          have hstep : (Place.escaped word).step c = ([], some (.inDouble (word ++ [c]))) := rfl
          rw [scan_of_step hstep, ih _ hwhite.2]
          rfl
      | inSingle word =>
          have hstep : (Place.inSingle word).step c = ([], some (.inSingle (word ++ [c]))) := by
            simp only [Place.step, hsingle, Bool.false_eq_true, if_false]
          rw [scan_of_step hstep, ih _ hwhite.2]
          rfl

/-- **White space behind a line adds nothing to the scan**, whether it gives tokens or fails. -/
theorem scan_append_of_isAllWhitespace (place : Place) (cs : List Char) {white : List Char}
    (h : isAllWhitespace white = true) : scan place (cs ++ white) = scan place cs := by
  induction cs generalizing place with
  | nil => exact scan_of_isAllWhitespace place h
  | cons c cs ih =>
      rw [List.cons_append, scan, scan]
      cases place.step c with
      | mk tokens next =>
        cases next with
        | some next =>
            simp only
            rw [ih]
        | none =>
            -- the scan has stopped, and only asks whether all the rest is white space
            have hrest : isAllWhitespace (c :: (cs ++ white)) = isAllWhitespace (c :: cs) := by
              simp only [Text.isAllWhitespace_cons, Text.isAllWhitespace_append, h, Bool.and_true]
            simp only [hrest]

end LineShell.Token
