/-
**Lines without a command.**

What a line holds besides white space begins a token or breaks the line, so a line without tokens is
a line of white space: blanks, which may stand between tokens, or white space of any other kind,
which is passed over at the end of a line only.  Three tests meet here.  One passes over the blanks
in front of a token, one ends a word at any white space and forgives white space at the end, and one
asks what is left of a line without the white space at its ends.  All three agree on which lines
have no command.

The editor asks by the last test which lines leave no trace in the history.  A session asks by the
first two, and does nothing for a line without tokens: whatever its surroundings are, none of their
operations is used, and the session stays as it was.  Every other line comes to hand on output at
the least, or fails before that.

Main definitions:

* `LineShell.Text.trim` — a text without the white space at its ends;
* `LineShell.Host.refusing` — surroundings that refuse everything.

Main results:

* `LineShell.Token.isAllWhitespace_of_scan`, `LineShell.tokenize_eq_nil_iff` — a line without tokens
  is a line of white space;
* `LineShell.Typist.history_nextLine` — what a line that was accepted leaves in the history;
* `LineShell.Session.exists_error_of_tokens` — a line with a token does not go by unnoticed;
* `LineShell.Session.lines_without_command` — **the lines that leave no trace in the history are
  those for which a session does nothing**, and white space behind a line makes no difference.
-/

import LineShell.Input.Edited
import LineShell.Proofs.Session.Course
import LineShell.Proofs.Token.Trailing
import Mathlib.Data.List.DropRight

set_option autoImplicit false

namespace LineShell

/-! ### Lines without tokens -/

/-- A text without the white space at its two ends. -/
def Text.trim (text : String) : String :=
  String.ofList ((text.toList.dropWhile isWhitespace).rdropWhile isWhitespace)

/-- Nothing is left of a text that holds nothing but white space. -/
theorem Text.trim_eq_empty_iff (text : String) :
    trim text = "" ↔ isAllWhitespace text.toList = true := by
  rw [← String.toList_inj, trim, String.toList_ofList, isAllWhitespace, List.all_eq_true]
  show List.rdropWhile _ _ = [] ↔ _
  rw [List.rdropWhile_eq_nil_iff]
  constructor
  · intro h
    -- what stands behind the white space in front is white space, so nothing stands there
    have hnone : text.toList.dropWhile isWhitespace = [] := by
      by_contra hne
      have hfirst := List.head_dropWhile_not isWhitespace hne
      rw [h _ (List.head_mem hne)] at hfirst
      cases hfirst
    exact List.dropWhile_eq_nil_iff.1 hnone
  · intro h c hc
    exact h c ((List.dropWhile_suffix _).mem hc)

namespace Token

open Text (isAllWhitespace isWhitespace)

/-- In a word the scan ends the word, or goes on without leaving it. -/
theorem exists_step_of_ne_between {place : Place} (h : place ≠ .between) (c : Char) :
    (∃ word, place = .inWord word ∧ endsWord c = true) ∨
      ∃ next, place.step c = ([], some next) ∧ next ≠ .between := by
  cases place with
  | between => exact absurd rfl h
  | inWord word =>
      cases hends : endsWord c with
      | true => exact .inl ⟨word, rfl, rfl⟩
      | false =>
          right
          simp only [Place.step, hends, Bool.false_eq_true, if_false]
          split
          · exact ⟨_, rfl, by simp⟩
          split
          · exact ⟨_, rfl, by simp⟩
          · exact ⟨_, rfl, by simp⟩
  | inDouble word =>
      right
      simp only [Place.step]
      split
      · exact ⟨_, rfl, by simp⟩
      split
      · exact ⟨_, rfl, by simp⟩
      · exact ⟨_, rfl, by simp⟩
  | escaped word => exact .inr ⟨_, rfl, by simp⟩
  | inSingle word =>
      right
      simp only [Place.step]
      split
      · exact ⟨_, rfl, by simp⟩
      · exact ⟨_, rfl, by simp⟩

/-- A word that was begun is a token, if the scan ends well. -/
theorem ne_nil_of_scan {place : Place} (h : place ≠ .between) {cs : List Char}
    {tokens : List (List Char)} (hscan : scan place cs = .ok tokens) : tokens ≠ [] := by
  -- the place changes along the word, but until the word ends it is one inside a word
  induction cs generalizing place with
  | nil =>
      cases place with
      | between => exact absurd rfl h
      | inWord word =>
          cases hscan
          exact List.cons_ne_nil word []
      | inDouble word | escaped word | inSingle word => cases hscan
  | cons c cs ih =>
      rcases exists_step_of_ne_between h c with ⟨word, rfl, hends⟩ | ⟨next, hstep, hnext⟩
      · rw [scan_inWord_of_endsWord hends] at hscan
        obtain ⟨others, -, rfl⟩ := exists_of_emit_eq_ok hscan
        exact List.cons_ne_nil word others
      · rw [scan_of_step hstep] at hscan
        exact ih hnext hscan

/-- **A scan that gives no token has gone over white space.** -/
theorem isAllWhitespace_of_scan {cs : List Char} (h : scan .between cs = .ok []) :
    isAllWhitespace cs = true := by
  induction cs with
  | nil => rfl
  | cons c cs ih =>
      cases hblank : Text.isBlank c with
      | true =>
          rw [scan_of_step (step_between_of_isBlank hblank)] at h
          rw [Text.isAllWhitespace_cons, Text.isWhitespace_of_isBlank hblank, ih h, Bool.true_and]
      | false =>
        cases hends : endsWord c with
        | false =>
            rw [scan_between_of_not_endsWord hends] at h
            exact absurd rfl (@ne_nil_of_scan (.inWord []) (by simp) _ _ h)
        | true =>
          cases hwhite : isWhitespace c with
          | true =>
              -- white space of this kind is passed over only where nothing else follows
              rw [scan_between_of_isWhitespace hblank hwhite] at h
              split at h
              · next hall => exact hall
              · cases h
          | false =>
              have hmarker : isMarker c = true := by simpa [endsWord, hwhite] using hends
              rw [scan_marker hmarker] at h
              obtain ⟨others, -, hnil⟩ := exists_of_emit_eq_ok h
              cases hnil

end Token

/-- **A line has no tokens exactly if nothing is left of it without white space at its ends.** -/
theorem tokenize_eq_nil_iff (line : String) : tokenize line = .ok [] ↔ Text.trim line = "" := by
  rw [Text.trim_eq_empty_iff]
  constructor
  · intro h
    obtain ⟨scanned, hscan, hnil⟩ := exists_scan_of_tokenize h
    rw [List.map_eq_nil_iff.1 hnil.symm] at hscan
    exact Token.isAllWhitespace_of_scan hscan
  · intro h
    exact tokenize_of_scan (Token.scan_of_isAllWhitespace .between h)

/-! ### What is kept in the history -/

namespace Typist

theorem remember_of_trim_eq_empty {line : String} (h : Text.trim line = "") (history : History) :
    remember history line = history := by
  rw [remember, if_pos ((Text.trim_eq_empty_iff line).1 h)]

theorem remember_of_trim_ne_empty {line : String} (h : Text.trim line ≠ "") (history : History) :
    remember history line = history.add line := by
  rw [remember, if_neg (mt (Text.trim_eq_empty_iff line).2 h)]

/-- A line that leaves no trace in any history has nothing but white space. -/
theorem trim_eq_empty_of_remember {line : String}
    (h : ∀ history, remember history line = history) : Text.trim line = "" := by
  by_contra hne
  -- an empty history would keep any other line
  have hadded := h .empty
  have hempty : line ≠ "" := by
    rintro rfl
    exact hne rfl
  have hkept : ¬ (line = "" ∨ History.empty.entries.getLast? = some line) := by
    simpa [History.empty] using hempty
  rw [remember_of_trim_ne_empty hne, History.add, if_neg hkept] at hadded
  cases hadded

/-- **What a line that was accepted leaves in the history**: itself, as far as the history keeps it,
unless it has nothing but white space. -/
theorem history_nextLine {limit : UInt64} {t t' : Typist} {line : String}
    (h : t.nextLine limit = (.ok (some line), t')) :
    t'.history = if Text.trim line = "" then t.history else t.history.add line := by
  have hkept : t'.history = remember t.history line := by
    unfold nextLine at h
    split at h
    · cases h
    · cases h
    split at h
    · cases h
    split at h
    · cases h
      rfl
    · cases h
  rw [hkept]
  split
  · next htrim => exact remember_of_trim_eq_empty htrim _
  · next htrim => exact remember_of_trim_ne_empty htrim _

end Typist

/-! ### Lines for which nothing is done -/

/-- Surroundings that refuse everything that may be refused. -/
def Host.refusing (ω : Type) : Host ω where
  probe _ _ := .missing
  workingDirectory _ := .error (.system Errno.noEntry)
  changeDirectory _ := throw (.system Errno.noEntry)
  write _ := throw (.system Errno.badDescriptor)
  flush := throw (.system Errno.badDescriptor)
  flushStandardOutput := throw (.system Errno.badDescriptor)
  diagnose _ w := w
  launch _ := throw (.forkFailed Errno.interrupted)
  takeInterrupt w := (false, w)

namespace Session

variable {ω : Type}

/-- A line that is good and has tokens comes to hand on output. -/
theorem Course.flush_of_ok {host : Host ω} {line : String} {s s' : Session ω} {flow : Flow}
    (h : Course host line s (.ok flow) s') (htokens : tokenize line ≠ .ok []) :
    ∃ w w', host.flush w = (.ok (), w') := by
  cases h with
  | blank tokens => exact absurd tokens htokens
  | builtin command invoked flushed => exact ⟨_, _, flushed⟩
  | ran launches launched settled =>
      obtain ⟨program, prepared, flushed, emptied⟩ := launches
      exact ⟨_, _, flushed⟩

/-- **A line with a token does not go by unnoticed**: where everything is refused it fails. -/
theorem exists_error_of_tokens {line : String} (htokens : tokenize line ≠ .ok [])
    (s : Session ω) : ∃ cause, (tryLine (Host.refusing ω) line s).1 = .error cause := by
  have hcourse := course_tryLine (Host.refusing ω) line s
  cases hanswer : (tryLine (Host.refusing ω) line s).1 with
  | error cause => exact ⟨cause, rfl⟩
  | ok flow =>
      rw [hanswer] at hcourse
      obtain ⟨w, w', hflush⟩ := hcourse.flush_of_ok htokens
      cases hflush

/-- A session does nothing for a line exactly if the line has no tokens. -/
theorem tokenize_eq_nil_iff_untouched (line : String) (s : Session ω) :
    tokenize line = .ok [] ↔ ∀ host : Host ω, tryLine host line s = (.ok .proceed, s) := by
  constructor
  · intro h host
    have hcourse : Course host line s (.ok .proceed) s := .blank h
    exact hcourse.tryLine_eq
  · intro h
    by_contra htokens
    obtain ⟨cause, herror⟩ := exists_error_of_tokens htokens s
    rw [h] at herror
    cases herror

/-- **The lines that leave no trace in the history are those for which a session does nothing.**
White space behind a line makes no difference to its tokens, nor to its not having any: if it cannot
be cut into tokens it still cannot.  A line has no tokens exactly if nothing is left of it without
the white space at its ends.  Of the lines that the editor accepts these, and only these, are not
given to the history; and these, and only these, leave every session as it was, with whatever
surroundings. -/
theorem lines_without_command (line : String) :
    (∀ white : String, (∀ c ∈ white.toList, Text.isWhitespace c = true) →
      tokenize (line ++ white) = tokenize line) ∧
    (tokenize line = .ok [] ↔ Text.trim line = "") ∧
    (∀ limit t t', Typist.nextLine limit t = (.ok (some line), t') →
      t'.history = if Text.trim line = "" then t.history else t.history.add line) ∧
    ((∀ history, Typist.remember history line = history) ↔ tokenize line = .ok []) ∧
    ∀ {ω : Type} (s : Session ω),
      tokenize line = .ok [] ↔ ∀ host : Host ω, tryLine host line s = (.ok .proceed, s) := by
  refine ⟨fun white hwhite => ?_, tokenize_eq_nil_iff line,
    fun limit t t' => Typist.history_nextLine, ⟨fun h => ?_, fun h => ?_⟩,
    tokenize_eq_nil_iff_untouched line⟩
  · have hall : Text.isAllWhitespace white.toList = true := List.all_eq_true.2 hwhite
    refine tokenize_congr ?_
    rw [String.toList_append, Token.scan_append_of_isAllWhitespace .between _ hall]
  · exact (tokenize_eq_nil_iff line).2 (Typist.trim_eq_empty_of_remember h)
  · exact Typist.remember_of_trim_eq_empty ((tokenize_eq_nil_iff line).1 h)

/-- A no-break space and a tab, typed in two pieces, and another wide space behind them. -/
theorem lines_without_command_noBreakSpace :
    let line := "\u00a0\t"
    let t : Typist := ⟨⟨[], [[0xC2], [0xA0, 9, 10]], none⟩, ⟨["ls"], false⟩⟩
    (t.nextLine 4096).1 = .ok (some line) ∧ (t.nextLine 4096).2.history = ⟨["ls"], false⟩ ∧
      tokenize (line ++ "\u2003\r") = tokenize line ∧ tokenize line = .ok [] := by
  intro line t
  have hwhite : ∀ c ∈ "\u2003\r".toList, Text.isWhitespace c = true :=
    List.all_eq_true.1 (by decide)
  have hanswer : (t.nextLine 4096).1 = .ok (some line) := by decide +kernel
  have hnext : t.nextLine 4096 = (.ok (some line), (t.nextLine 4096).2) := by rw [← hanswer]
  have htrim : Text.trim line = "" := by decide
  obtain ⟨hbehind, htokens, hhistory, -, -⟩ := lines_without_command line
  have hkept := hhistory 4096 t _ hnext
  rw [if_pos htrim] at hkept
  exact ⟨hanswer, hkept, hbehind _ hwhite, htokens.2 htrim⟩

end Session

end LineShell
