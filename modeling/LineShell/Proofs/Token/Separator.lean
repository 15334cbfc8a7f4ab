/-
**Lines that are cut at a separator.**

A separator is a run of blanks or a marker.  Where one is put between two lines, the tokens of the
whole are those of the line in front of it, the marker itself if it is one, and those of the line
behind it; and if the line behind it cannot be cut into tokens, neither can the whole.

What has to be seen is that nothing is open at the cut.  The scan of the line in front of it ends
well, so at its end it stands between two tokens or in a word, not in quotes, and the separator ends
the word.  Only the line in front is asked for something besides: its white space has to be blanks.
Between two tokens any other white space stops the scan.  At the end of a line that is allowed, and
in the middle it is not.

Main definitions:

* `LineShell.Token.Separator` — the separators, and what tokens they are.

Main results:

* `LineShell.Token.exists_step` — the scan is only stopped by white space that is no blank;
* `LineShell.Token.scan_append_of_endsWord` — **a scan that ends well goes on between tokens** at a
  character that ends a word;
* `LineShell.Token.Separator.scan_append` — the scan over a separator;
* `LineShell.tokenize_append_separator` — **cutting into tokens respects separators**.
-/

import LineShell.Proofs.Token.Scan
import Mathlib.Tactic.SplitIfs

set_option autoImplicit false

namespace LineShell

namespace Token

open Text (isBlank isWhitespace)

/-- A text that separates what stands around it, and the tokens that it is itself. -/
inductive Separator : String → List String → Prop where
  /-- Blanks, of which there is at least one, are no token. -/
  | blanks {text : String} (nonempty : text ≠ "") (isBlank : ∀ c ∈ text.toList, isBlank c = true) :
    Separator text []
  /-- A marker is one. -/
  | marker {text : String} (isMarker : text = "<" ∨ text = ">") : Separator text [text]

/-! ### The line in front of the separator -/

/-- The scan goes on at every character that is not white space, and at every blank. -/
theorem exists_step (place : Place) {c : Char} (h : isWhitespace c = true → isBlank c = true) :
    ∃ tokens next, place.step c = (tokens, some next) := by
  have hbetween : ∃ tokens next, stepBetween c = (tokens, some next) := by
    rw [stepBetween]
    split_ifs with hblank hwhite
    · exact ⟨_, _, rfl⟩
    · exact absurd (h hwhite) hblank
    all_goals exact ⟨_, _, rfl⟩
  cases place with
  | between => exact hbetween
  | inWord word =>
      obtain ⟨tokens, next, hstep⟩ := hbetween
      rw [Place.step, hstep]
      split_ifs <;> exact ⟨_, _, rfl⟩
  | inDouble word =>
      rw [Place.step]
      split_ifs <;> exact ⟨_, _, rfl⟩
  | escaped word => exact ⟨_, _, rfl⟩
  | inSingle word =>
      rw [Place.step]
      split_ifs <;> exact ⟨_, _, rfl⟩

/-- A place where the line may end is left by a character that ends a word. -/
theorem scan_of_finish {place : Place} {tokens : List (List Char)} (h : place.finish = .ok tokens)
    {c : Char} (hends : endsWord c = true) (rest : List Char) :
    scan place (c :: rest) = emit tokens (scan .between (c :: rest)) := by
  cases place with
  | between =>
      cases h
      rw [emit_nil]
  | inWord word =>
      cases h
      exact scan_inWord_of_endsWord hends word rest
  | inDouble word | escaped word | inSingle word => cases h

/-- **A scan that ends well goes on between tokens** where a character that ends a word stands
behind the text, if the white space of the text is blanks. -/
theorem scan_append_of_endsWord {place : Place} {cs : List Char} {tokens : List (List Char)}
    (h : scan place cs = .ok tokens) (hwhite : ∀ c ∈ cs, isWhitespace c = true → isBlank c = true)
    {d : Char} (hends : endsWord d = true) (rest : List Char) :
    scan place (cs ++ d :: rest) = emit tokens (scan .between (d :: rest)) := by
  -- along the text the place changes, and what is given before is given in front of the rest
  induction cs generalizing place tokens with
  | nil => exact scan_of_finish h hends rest
  | cons c cs ih =>
      obtain ⟨given, next, hstep⟩ := exists_step place (hwhite c (List.mem_cons_self ..))
      rw [scan_cons hstep] at h
      obtain ⟨others, hscan, rfl⟩ := exists_of_emit_eq_ok h
      rw [List.cons_append, scan_cons hstep,
        ih hscan fun c hc => hwhite c (List.mem_cons_of_mem _ hc), emit_emit]

/-! ### The separator -/

/-- Between two tokens a separator gives the tokens that it is. -/
theorem Separator.scan_between {text : String} {tokens : List String}
    (h : Separator text tokens) (cs : List Char) :
    scan .between (text.toList ++ cs) = emit (tokens.map String.toList) (scan .between cs) := by
  cases h with
  | blanks nonempty isBlank =>
      rw [scan_between_append isBlank]
      exact (emit_nil _).symm
  | marker isMarker =>
      rcases isMarker with rfl | rfl
      · exact scan_marker (c := '<') (by decide) cs
      · exact scan_marker (c := '>') (by decide) cs

/-- A separator ends the word in front of it. -/
theorem Separator.exists_cons {text : String} {tokens : List String}
    (h : Separator text tokens) : ∃ d rest, text.toList = d :: rest ∧ endsWord d = true := by
  cases h with
  | blanks nonempty isBlank =>
      cases htext : text.toList with
      | nil => exact absurd (String.toList_eq_nil_iff.1 htext) nonempty
      | cons d rest =>
          have hblank := isBlank d (htext ▸ List.mem_cons_self ..)
          exact ⟨d, rest, rfl, by rw [endsWord, Text.isWhitespace_of_isBlank hblank, Bool.true_or]⟩
  | marker isMarker =>
      rcases isMarker with rfl | rfl
      · exact ⟨'<', [], rfl, by decide⟩
      · exact ⟨'>', [], rfl, by decide⟩

/-- The scan over a separator is the scan of what stands in front of it, then that of what stands
behind it. -/
theorem Separator.scan_append {text : String} {own : List String} (hseparator : Separator text own)
    {cs : List Char} {tokens : List (List Char)} (h : scan .between cs = .ok tokens)
    (hwhite : ∀ c ∈ cs, isWhitespace c = true → isBlank c = true) (rest : List Char) :
    scan .between (cs ++ (text.toList ++ rest)) =
      emit (tokens ++ own.map String.toList) (scan .between rest) := by
  obtain ⟨d, others, htext, hends⟩ := hseparator.exists_cons
  have hfront : scan .between (cs ++ (text.toList ++ rest)) =
      emit tokens (scan .between (text.toList ++ rest)) := by
    rw [htext]
    exact scan_append_of_endsWord h hwhite hends (others ++ rest)
  rw [hfront, hseparator.scan_between, emit_emit]

end Token

open Token

/-- **Cutting into tokens respects separators.**  A line that has tokens, and no white space but
blanks, may be put in front of any separator and any other line: the tokens are those of the three
one behind the other, and there are none if the other line has a quote without a partner. -/
theorem tokenize_append_separator {a : String} {ts : List String} (h : tokenize a = .ok ts)
    (hwhite : ∀ c ∈ a.toList, Text.isWhitespace c = true → Text.isBlank c = true)
    {s : String} {own : List String} (hseparator : Separator s own) (b : String) :
    (∀ us, tokenize b = .ok us → tokenize (a ++ s ++ b) = .ok (ts ++ own ++ us)) ∧
    (∀ e, tokenize b = .error e → tokenize (a ++ s ++ b) = .error .unterminatedQuote) := by
  obtain ⟨scanned, hscan, rfl⟩ := exists_scan_of_tokenize h
  have hwhole : scan .between (a ++ s ++ b).toList =
      emit (scanned ++ own.map String.toList) (scan .between b.toList) := by
    rw [String.toList_append, String.toList_append, List.append_assoc]
    exact hseparator.scan_append hscan hwhite b.toList
  refine ⟨fun us hb => ?_, fun e hb => ?_⟩
  · obtain ⟨others, hothers, rfl⟩ := exists_scan_of_tokenize hb
    rw [hothers] at hwhole
    rw [tokenize_of_scan hwhole]
    simp
  · cases e
    rw [scan_of_tokenize_error hb] at hwhole
    exact tokenize_of_scan_error hwhole

/-- A quoted marker in front of a tab and of a marker, with a good line behind the one and a quote
that is never closed behind the other. -/
theorem tokenize_append_separator_quoted :
    tokenize "echo \"a > b\"\t <f" = .ok ["echo", "a > b", "<", "f"] ∧
      tokenize "echo \"a > b\">'f" = .error .unterminatedQuote := by
  have hfront : tokenize "echo \"a > b\"" = .ok ["echo", "a > b"] :=
    @tokenize_of_scan _ ["echo".toList, "a > b".toList] rfl
  have hall : ("echo \"a > b\"".toList.all
      fun c => !Text.isWhitespace c || Text.isBlank c) = true := by decide
  have hwhite : ∀ c ∈ "echo \"a > b\"".toList,
      Text.isWhitespace c = true → Text.isBlank c = true := by
    intro c hc hwhite
    simpa [hwhite] using List.all_eq_true.1 hall c hc
  have hblanks : Separator "\t " [] := .blanks (by decide) (List.all_eq_true.1 (by decide))
  have hmarker : Separator ">" [">"] := .marker (.inr rfl)
  exact ⟨(tokenize_append_separator hfront hwhite hblanks "<f").1 ["<", "f"]
      (@tokenize_of_scan _ ["<".toList, "f".toList] rfl),
    (tokenize_append_separator hfront hwhite hmarker "'f").2 _ (tokenize_of_scan_error rfl)⟩

end LineShell
