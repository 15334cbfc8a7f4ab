/-
**Lines without quotes.**

The tokens of a line that has no quotes can be read off at a glance: they are its longest runs of
bare characters, and each of its markers.  No quote can lack its partner there, so one would not
expect such a line to be refused.

But a token begins behind blanks only, while any white space ends a word.  So white space that is
not a blank, such as a vertical tab or a no-break space, is harmless at the end of a line and
nowhere else: with anything but white space behind it, no token begins there, and the line is
refused as if a quote had no partner.  There is no other way for a line without quotes to be
refused.

The scan of such a line is followed a character at a time, between two tokens and in a word at once,
since a character that ends a word is met again between tokens.

Main definitions:

* `LineShell.Token.shownTokens` — the longest runs of bare characters and the markers of a line;
* `LineShell.Token.HasStray` — white space that is not a blank, with something else behind it.

Main results:

* `LineShell.Token.shownTokens_append_cons` — the tokens shown on both sides of the end of a word;
* `LineShell.Token.agrees_scan` — what the scan gives for the rest of a line without quotes;
* `LineShell.tokenize_unquoted` — **a line without quotes has the tokens that it shows, unless it
  has stray white space**, and then it is refused.
-/

import LineShell.Proofs.Token.Scan
import Mathlib.Data.List.SplitBy

set_option autoImplicit false

namespace LineShell

namespace Token

/-! ### What a line shows -/

/-- Two bare characters side by side belong to one word. -/
def joins (c d : Char) : Bool := isBare c && isBare d

/-- The tokens that a line without quotes shows: the line is cut wherever two neighbours do not
belong to one word, and the pieces that are white space are left out. -/
def shownTokens (line : List Char) : List (List Char) :=
  (line.splitBy joins).filter fun piece => !Text.isAllWhitespace piece

/-- White space that is not a blank stands in front of something other than white space. -/
def HasStray (line : List Char) : Prop :=
  ∃ before c after, line = before ++ c :: after ∧ Text.isWhitespace c = true ∧
    Text.isBlank c = false ∧ Text.isAllWhitespace after = false

theorem isWhitespace_of_isBare {c : Char} (h : isBare c = true) : Text.isWhitespace c = false := by
  simp only [isBare, Bool.and_eq_true, Bool.not_eq_true'] at h
  exact h.1.1

theorem isBare_of_endsWord {c : Char} (h : endsWord c = true) : isBare c = false := by
  rcases Bool.or_eq_true_iff.1 h with hwhite | hmarker
  · simp [isBare, hwhite]
  · simp [isBare, hmarker]

theorem shownTokens_of_isAllWhitespace {line : List Char} (h : Text.isAllWhitespace line = true) :
    shownTokens line = [] := by
  refine List.filter_eq_nil_iff.2 fun piece hpiece => ?_
  have hall : ∀ c ∈ line, Text.isWhitespace c = true := List.all_eq_true.1 h
  have hwhite : Text.isAllWhitespace piece = true := by
    refine List.all_eq_true.2 fun c hc => hall c ?_
    rw [← List.flatten_splitBy joins line]
    exact List.mem_flatten.2 ⟨piece, hpiece, hc⟩
  simp [hwhite]

section

variable {word : List Char} (hne : word ≠ []) (hbare : ∀ c ∈ word, isBare c = true)

include hne hbare

/-- A run of bare characters is one token. -/
theorem shownTokens_of_isBare : shownTokens word = [word] := by
  have hchain : word.IsChain fun c d => joins c d = true := by
    refine (List.pairwise_of_forall_mem_list fun c hc d hd => ?_).isChain
    simp [joins, hbare c hc, hbare d hd]
  obtain ⟨c, rest, rfl⟩ := List.exists_cons_of_ne_nil hne
  have hc : Text.isWhitespace c = false := isWhitespace_of_isBare (hbare c (List.mem_cons_self ..))
  rw [shownTokens, List.splitBy_of_isChain hne hchain]
  simp [hc]

/-- **A character that is not bare ends the token in front of it.** -/
theorem shownTokens_append_cons {c : Char} (h : isBare c = false) (line : List Char) :
    shownTokens (word ++ c :: line) = word :: shownTokens (c :: line) := by
  have hcut : ∀ d ∈ word.getLast?, joins d c = false := by
    intro d _
    simp [joins, h]
  have hword := shownTokens_of_isBare hne hbare
  rw [shownTokens] at hword
  rw [shownTokens, List.splitBy_append_cons line hcut, List.filter_append, hword]
  rfl

end

/-- A character that is not bare is a piece of its own. -/
theorem shownTokens_cons {c : Char} (h : isBare c = false) (line : List Char) :
    shownTokens (c :: line) =
      if Text.isWhitespace c then shownTokens line else [c] :: shownTokens line := by
  have hcut : ∀ d ∈ [c].getLast?, ∀ e ∈ line.head?, joins d e = false := by
    intro d hd e _
    have hdc : c = d := by simpa using hd
    simp [joins, ← hdc, h]
  have hsplit : (c :: line).splitBy joins = [c] :: line.splitBy joins := by
    rw [← List.singleton_append, List.splitBy_append hcut]
    rfl
  rw [shownTokens, hsplit, List.filter_cons]
  cases hc : Text.isWhitespace c with
  | true => simp [hc, shownTokens]
  | false => simp [hc, shownTokens]

theorem not_hasStray_nil : ¬ HasStray [] := by
  rintro ⟨before, c, after, hline, -⟩
  simp at hline

theorem hasStray_cons {c : Char} {line : List Char} :
    HasStray (c :: line) ↔
      (Text.isWhitespace c = true ∧ Text.isBlank c = false ∧ Text.isAllWhitespace line = false) ∨
        HasStray line := by
  constructor
  · rintro ⟨before, d, after, hline, hd⟩
    cases before with
    | nil =>
        cases hline
        exact .inl hd
    | cons b before =>
        cases hline
        exact .inr ⟨before, d, after, rfl, hd⟩
  · rintro (hc | ⟨before, d, after, rfl, hd⟩)
    · exact ⟨[], c, line, rfl, hc⟩
    · exact ⟨c :: before, d, after, rfl, hd⟩

theorem isAllWhitespace_of_hasStray {line : List Char} (h : HasStray line) :
    Text.isAllWhitespace line = false := by
  obtain ⟨before, c, after, rfl, -, -, hafter⟩ := h
  simp [hafter]

/-! ### What the scan gives -/

/-- The answer fits the rest of a line behind some characters of a word. -/
structure Agrees (word rest : List Char) (r : Except LexError (List (List Char))) : Prop where
  /-- Stray white space is refused. -/
  stray : HasStray rest → r = .error .unterminatedQuote
  /-- Otherwise the tokens are those that are shown. -/
  shown : ¬ HasStray rest → r = .ok (shownTokens (word ++ rest))

section

variable {word rest : List Char} {c : Char} {r : Except LexError (List (List Char))}

/-- The next character of a word may as well be counted as one of those that it has. -/
theorem Agrees.cons_of_isBare (h : Agrees (word ++ [c]) rest r) (hc : isBare c = true) :
    Agrees word (c :: rest) r := by
  have hiff : HasStray (c :: rest) ↔ HasStray rest := by
    simp [hasStray_cons, isWhitespace_of_isBare hc]
  constructor
  · intro hstray
    exact h.stray (hiff.1 hstray)
  · intro hstray
    rw [h.shown (mt hiff.2 hstray), List.append_assoc]
    rfl

/-- Where a word ends, it is given in front of what else there is. -/
theorem Agrees.emit_of_endsWord (h : Agrees [] (c :: rest) r) (hne : word ≠ [])
    (hbare : ∀ d ∈ word, isBare d = true) (hc : endsWord c = true) :
    Agrees word (c :: rest) (emit [word] r) := by
  constructor
  · intro hstray
    rw [h.stray hstray]
    rfl
  · intro hstray
    rw [h.shown hstray, shownTokens_append_cons hne hbare (isBare_of_endsWord hc)]
    rfl

/-- Blanks are passed over. -/
theorem Agrees.cons_of_isBlank (h : Agrees [] rest (scan .between rest))
    (hc : Text.isBlank c = true) : Agrees [] (c :: rest) (scan .between (c :: rest)) := by
  have hwhite : Text.isWhitespace c = true := Text.isWhitespace_of_isBlank hc
  have hbare : isBare c = false := by simp [isBare, hwhite]
  have hscan : scan .between (c :: rest) = scan .between rest :=
    scan_of_step (step_between_of_isBlank hc) rest
  have hiff : HasStray (c :: rest) ↔ HasStray rest := by simp [hasStray_cons, hc]
  constructor
  · intro hstray
    rw [hscan, h.stray (hiff.1 hstray)]
  · intro hstray
    rw [hscan, h.shown (mt hiff.2 hstray), List.nil_append, List.nil_append,
      shownTokens_cons hbare, if_pos hwhite]

/-- Any other white space has to be at the end. -/
theorem agrees_of_isWhitespace (hwhite : Text.isWhitespace c = true)
    (hblank : Text.isBlank c = false) (rest : List Char) :
    Agrees [] (c :: rest) (scan .between (c :: rest)) := by
  have hscan := scan_between_of_isWhitespace hblank hwhite rest
  constructor
  · intro hstray
    rw [hscan, isAllWhitespace_of_hasStray hstray]
    rfl
  · intro hstray
    have hall : Text.isAllWhitespace (c :: rest) = true := by
      rw [Text.isAllWhitespace_cons, hwhite, Bool.true_and]
      by_contra hrest
      exact hstray (hasStray_cons.2 (.inl ⟨hwhite, hblank, eq_false_of_ne_true hrest⟩))
    rw [hscan, if_pos hall, List.nil_append, shownTokens_of_isAllWhitespace hall]

/-- A marker is a token. -/
theorem Agrees.cons_of_isMarker (h : Agrees [] rest (scan .between rest))
    (hc : isMarker c = true) (hwhite : Text.isWhitespace c = false) :
    Agrees [] (c :: rest) (scan .between (c :: rest)) := by
  have hbare : isBare c = false := by simp [isBare, hc]
  have hiff : HasStray (c :: rest) ↔ HasStray rest := by simp [hasStray_cons, hwhite]
  constructor
  · intro hstray
    rw [scan_marker hc, h.stray (hiff.1 hstray)]
    rfl
  · intro hstray
    rw [scan_marker hc, h.shown (mt hiff.2 hstray), List.nil_append, List.nil_append,
      shownTokens_cons hbare, hwhite]
    rfl

theorem Agrees.cons_of_endsWord (h : Agrees [] rest (scan .between rest))
    (hc : endsWord c = true) : Agrees [] (c :: rest) (scan .between (c :: rest)) := by
  by_cases hblank : Text.isBlank c = true
  · exact h.cons_of_isBlank hblank
  by_cases hwhite : Text.isWhitespace c = true
  · exact agrees_of_isWhitespace hwhite (eq_false_of_ne_true hblank) rest
  · have hmarker : isMarker c = true := by
      rcases Bool.or_eq_true_iff.1 hc with hw | hm
      · exact absurd hw hwhite
      · exact hm
    exact h.cons_of_isMarker hmarker (eq_false_of_ne_true hwhite)

end

theorem isBare_of_isQuote_eq_false {c : Char} (h : isQuote c = false) (hc : endsWord c = false) :
    isBare c = true := by
  have hquotes := h
  simp only [isQuote, Bool.or_eq_false_iff, beq_eq_false_iff_ne] at hquotes
  exact isBare_of_not_endsWord hc hquotes.1 hquotes.2

/-- **The rest of a line without quotes**, between two tokens and in a word. -/
theorem agrees_scan {rest : List Char} (h : ∀ c ∈ rest, isQuote c = false) :
    Agrees [] rest (scan .between rest) ∧
      ∀ word, word ≠ [] → (∀ c ∈ word, isBare c = true) →
        Agrees word rest (scan (.inWord word) rest) := by
  induction rest with
  | nil =>
      refine ⟨⟨fun hstray => absurd hstray not_hasStray_nil, fun _ => rfl⟩, ?_⟩
      intro word hne hbare
      refine ⟨fun hstray => absurd hstray not_hasStray_nil, fun _ => ?_⟩
      rw [List.append_nil, shownTokens_of_isBare hne hbare]
      rfl
  | cons c rest ih =>
      obtain ⟨hbetween, hword⟩ := ih fun d hd => h d (List.mem_cons_of_mem c hd)
      have hquote : isQuote c = false := h c (List.mem_cons_self ..)
      cases hends : endsWord c with
      | true =>
          have hhere := hbetween.cons_of_endsWord hends
          refine ⟨hhere, ?_⟩
          intro word hne hbare
          rw [scan_inWord_of_endsWord hends]
          exact hhere.emit_of_endsWord hne hbare hends
      | false =>
          have hc : isBare c = true := isBare_of_isQuote_eq_false hquote hends
          -- the character joins the word, which may have none yet
          have hjoin : ∀ word, (∀ d ∈ word, isBare d = true) →
              Agrees word (c :: rest) (scan (.inWord word) (c :: rest)) := by
            intro word hbare
            rw [scan_of_step (step_inWord_of_isBare hc word)]
            refine (hword (word ++ [c]) (by simp) ?_).cons_of_isBare hc
            intro d hd
            rcases List.mem_append.1 hd with hd | hd
            · exact hbare d hd
            · rw [List.mem_singleton.1 hd]
              exact hc
          refine ⟨?_, fun word _ hbare => hjoin word hbare⟩
          rw [scan_between_of_not_endsWord hends]
          exact hjoin [] (by simp)

end Token

open Token

/-- **A line without quotes has the tokens that it shows, unless it has stray white space**: white
space that is not a blank, with something other than white space behind it.  Then it is refused. -/
theorem tokenize_unquoted {line : String} (h : ∀ c ∈ line.toList, isQuote c = false) :
    (tokenize line = .error .unterminatedQuote ↔ HasStray line.toList) ∧
      (¬ HasStray line.toList →
        tokenize line = .ok ((shownTokens line.toList).map String.ofList)) := by
  have hagrees : Agrees [] line.toList (scan .between line.toList) := (agrees_scan h).1
  have hshown : ¬ HasStray line.toList →
      tokenize line = .ok ((shownTokens line.toList).map String.ofList) := by
    intro hstray
    exact tokenize_of_scan (hagrees.shown hstray)
  refine ⟨⟨?_, ?_⟩, hshown⟩
  · intro hrefused
    by_contra hstray
    rw [hshown hstray] at hrefused
    cases hrefused
  · intro hstray
    exact tokenize_of_scan_error (hagrees.stray hstray)

/-- A no-break space between two letters, and a line that shows its tokens. -/
theorem tokenize_unquoted_noBreakSpace :
    tokenize "a\u00a0b" = .error .unterminatedQuote ∧
      tokenize "a|b>c\u00a0" = .ok ["a|b", ">", "c"] := by
  have hstray : ∀ c ∈ ['a', '\u00a0', 'b'], isQuote c = false := by simp [isQuote]
  have hshown : ∀ c ∈ ['a', '|', 'b', '>', 'c', '\u00a0'], isQuote c = false := by simp [isQuote]
  constructor
  · refine (@tokenize_unquoted "a\u00a0b" hstray).1.2 ?_
    exact ⟨['a'], '\u00a0', ['b'], rfl, by decide, by decide, by decide⟩
  · refine (@tokenize_unquoted "a|b>c\u00a0" hshown).2 ?_
    show ¬ HasStray ['a', '|', 'b', '>', 'c', '\u00a0']
    simp only [hasStray_cons, not_hasStray_nil]
    decide

end LineShell
