/-
**A receiver that becomes full.**

A session may write to a receiver that accepts only so many bytes in all.  What it does is the same
as if there were no limit: every line answers the same, the same programs are launched in the same
order, and the surroundings are the same after every line.  The receiver has the first bytes of what
it would have without the limit.

The limit shows in one place.  A line that calls `help`, `?` or `pwd` and whose output does not fit
is reported and recorded with the status 1, where it would have had the status 0; and lines without
tokens that follow it leave that status alone.

Main definitions:

* `LineShell.Host.logging` — the host that keeps a list of the launches;
* `LineShell.Session.after` — the session after a number of lines;
* `LineShell.Session.Overruns`, `LineShell.Session.EndsOverrun` — a line whose output does not fit,
  and lines the last of which that has tokens is such a line.

Main results:

* `LineShell.Session.Follows.executeLine` — one line;
* `LineShell.Session.full_sink_changes_nothing` — **any number of lines**.
-/

import LineShell.Machine.Boot
import LineShell.Machine.Host
import LineShell.Proofs.Session.Line
import LineShell.Proofs.Session.Output
import LineShell.Proofs.Token.Scan
import Mathlib.Data.List.Induction

set_option autoImplicit false

namespace LineShell

namespace Session

variable {ω : Type}

/-! ### One line -/

/-- What was accepted of the session's output. -/
def received (s : Session ((List String × Sink) × ω)) : Bytes := s.world.1.2.received

/-- The session, with a new receiver for its output. -/
def limited (limit : Option Nat) (s : Session ω) : Session ((List String × Sink) × ω) :=
  s.beside ([], .empty limit false)

/-- A session that writes to a receiver goes as one that is not heard, up to the recorded status;
the receiver holds what was to be written by then. -/
structure Follows (limit : Option Nat) (unheard : Session ω) (written : Bytes)
    (s : Session ((List String × Sink) × ω)) : Prop where
  /-- No prompts are shown. -/
  quiet : unheard.settings.interactive = false
  /-- What there is beside the session that is not heard. -/
  exists_eq : ∃ said, s = (unheard.withStatus s.lastStatus).beside (said, .holding limit written)

variable {host : Host ω} {limit : Option Nat} {unheard : Session ω} {written : Bytes}
variable {s : Session ((List String × Sink) × ω)}

theorem follows_limited (hs : unheard.settings.interactive = false) :
    Follows limit unheard [] (unheard.limited limit) where
  quiet := hs
  exists_eq := ⟨[], by rw [Sink.holding_nil]; rfl⟩

theorem Follows.world_eq (h : Follows limit unheard written s) : s.world.2 = unheard.world := by
  obtain ⟨said, heq⟩ := h.exists_eq
  rw [heq]
  rfl

theorem Follows.received_eq (h : Follows limit unheard written s) :
    s.received = (Sink.holding limit written).received := by
  obtain ⟨said, heq⟩ := h.exists_eq
  rw [heq]
  rfl

/-- What a line has to write, in bytes. -/
def outputBytes (host : Host ω) (line : String) (s : Session ω) : Bytes :=
  encodePieces (output host line s)

/-- A line whose output does not fit does nothing but succeed, if it is not heard. -/
theorem executeLine_mute_of_not_fits {line : String}
    (h : Sink.fits limit written (outputBytes host line unheard) = false) :
    executeLine host.mute line unheard = (.proceed, unheard.withStatus 0) := by
  have hne : output host line unheard ≠ [] := by
    intro hnil
    rw [outputBytes, hnil, encodePieces_nil, Sink.fits_nil] at h
    cases h
  rw [Session.executeLine, tryLine_mute_of_output_ne_nil hne]

/-- The status after a line that has tokens. -/
def statusAfter (host : Host ω) (limit : Option Nat) (written : Bytes) (line : String)
    (unheard : Session ω) : Int :=
  if Sink.fits limit written (outputBytes host line unheard) then
    (executeLine host.mute line unheard).2.lastStatus
  else 1

/-- **One line**: it answers what it answers unheard, and the session goes on as one that is not
heard, but for the status of a line whose output does not fit. -/
theorem Follows.executeLine (h : Follows limit unheard written s) {line : String}
    (htokens : tokenize line ≠ .ok []) :
    ∃ said, Session.executeLine (host.apart Sink.writer) line s =
      ((Session.executeLine host.mute line unheard).1,
        ((Session.executeLine host.mute line unheard).2.withStatus
          (statusAfter host limit written line unheard)).beside
            (said, .holding limit (written ++ outputBytes host line unheard))) := by
  obtain ⟨said, heq⟩ := h.exists_eq
  have hwrite : Sink.writer.writeAll (output host line (unheard.withStatus s.lastStatus))
      (.holding limit written) = _ :=
    Sink.writeAll_holding limit written (output host line unheard)
  have hflush := Sink.flush_holding limit (written ++ outputBytes host line unheard)
  obtain ⟨said', hline⟩ := @executeLine_apart _ _ host line (unheard.withStatus s.lastStatus)
    Sink.writer (.holding limit written) h.quiet (by rw [hwrite]; exact hflush) said
  refine ⟨said', ?_⟩
  rw [hwrite, executeLine_withStatus htokens] at hline
  rw [heq, hline]
  unfold statusAfter outputBytes
  cases hfits : Sink.fits limit written (encodePieces (output host line unheard)) with
  | true => rfl
  | false =>
      rw [executeLine_mute_of_not_fits hfits]
      rfl

theorem outputBytes_of_blank {line : String} (htokens : tokenize line = .ok []) :
    outputBytes host line unheard = [] := by
  rw [outputBytes, output, htokens]
  rfl

/-- A line answers what it answers unheard, and the sessions go on together. -/
theorem Follows.next (h : Follows limit unheard written s) (line : String) :
    (Session.executeLine (host.apart Sink.writer) line s).1 =
        (Session.executeLine host.mute line unheard).1 ∧
      Follows limit (Session.executeLine host.mute line unheard).2
        (written ++ outputBytes host line unheard)
        (Session.executeLine (host.apart Sink.writer) line s).2 := by
  by_cases htokens : tokenize line = .ok []
  · rw [executeLine_of_blank htokens, executeLine_of_blank htokens, outputBytes_of_blank htokens,
      List.append_nil]
    exact ⟨rfl, h⟩
  · obtain ⟨said, hline⟩ := h.executeLine htokens
    rw [hline]
    exact ⟨rfl, (keeps_executeLine _ line unheard).1.symm ▸ h.quiet, said, rfl⟩

/-! ### Any number of lines -/

/-- The session after lines that are executed one after the other. -/
def after {ω : Type} (host : Host ω) (lines : List String) (s : Session ω) : Session ω :=
  lines.foldl (fun s line => (Session.executeLine host line s).2) s

theorem after_concat {ω : Type} (host : Host ω) (lines : List String) (line : String)
    (s : Session ω) :
    after host (lines ++ [line]) s = (Session.executeLine host line (after host lines s)).2 := by
  rw [after, List.foldl_append]
  rfl

/-- Whatever the limit, the session after some lines follows the same session that is not heard. -/
theorem exists_follows (host : Host ω) {s : Session ω} (hs : s.settings.interactive = false)
    (lines : List String) :
    ∃ unheard written, ∀ limit,
      Follows limit unheard written (after (host.apart Sink.writer) lines (s.limited limit)) := by
  -- the induction is on the last line, the one that is executed when the others are done
  induction lines using List.reverseRecOn with
  | nil => exact ⟨s, [], fun limit => follows_limited hs⟩
  | append_singleton earlier line ih =>
      obtain ⟨unheard, written, hfollows⟩ := ih
      refine ⟨(Session.executeLine host.mute line unheard).2,
        written ++ outputBytes host line unheard, fun limit => ?_⟩
      rw [after_concat]
      exact ((hfollows limit).next line).2

/-- The line calls `help`, `?` or `pwd`, and writes more than there is room for, if `n` bytes are
accepted in all; the session is the one without a limit. -/
def Overruns (host : Host ω) (n : Nat) (line : String) (s : Session ((List String × Sink) × ω)) :
    Prop :=
  (∃ name rest, tokenize line = .ok (name :: rest) ∧ name ∈ ["?", "help", "pwd"]) ∧
    n - s.received.length <
      (Session.executeLine (host.apart Sink.writer) line s).2.received.length - s.received.length

/-- The last of the lines that has tokens overruns. -/
def EndsOverrun (host : Host ω) (n : Nat) (lines : List String) (s : Session ω) : Prop :=
  ∃ earlier line blanks, lines = earlier ++ line :: blanks ∧
    (∀ blank ∈ blanks, tokenize blank = .ok []) ∧
    Overruns host n line (after (host.apart Sink.writer) earlier (s.limited none))

theorem Follows.overruns_iff (h : Follows none unheard written s) (n : Nat) (line : String) :
    Overruns host n line s ↔
      Sink.fits (some n) written (outputBytes host line unheard) = false := by
  have hbefore : s.received = written := h.received_eq
  have hafter : (Session.executeLine (host.apart Sink.writer) line s).2.received =
      written ++ outputBytes host line unheard := (h.next line).2.received_eq
  rw [Overruns, hbefore, hafter, List.length_append, Nat.add_sub_cancel_left, Sink.fits,
    decide_eq_false_iff_not, Nat.not_le]
  refine ⟨And.right, fun hmore => ⟨?_, hmore⟩⟩
  have hne : output host line unheard ≠ [] := by
    intro hnil
    rw [outputBytes, hnil] at hmore
    exact absurd hmore (Nat.not_lt_zero _)
  exact exists_name_of_output_ne_nil hne

theorem Overruns.not_blank {n : Nat} {line : String} (h : Overruns host n line s) :
    tokenize line ≠ .ok [] := by
  obtain ⟨⟨name, rest, tokens, -⟩, -⟩ := h
  rw [tokens]
  simp

/-- A line that has tokens decides, and one that has none leaves it as it was. -/
theorem endsOverrun_concat (host : Host ω) (n : Nat) (lines : List String) (line : String)
    (s : Session ω) :
    EndsOverrun host n (lines ++ [line]) s ↔
      (tokenize line = .ok [] ∧ EndsOverrun host n lines s) ∨
        Overruns host n line (after (host.apart Sink.writer) lines (s.limited none)) := by
  constructor
  · rintro ⟨earlier, last, blanks, heq, hblanks, hover⟩
    -- the last line is the one that overruns, or the last of the blanks behind it
    induction blanks using List.reverseRecOn with
    | nil =>
        obtain ⟨rfl, hlast⟩ := List.append_inj' heq rfl
        cases hlast
        exact .inr hover
    | append_singleton blanks blank _ =>
        rw [← List.cons_append, ← List.append_assoc] at heq
        obtain ⟨rfl, hlast⟩ := List.append_inj' heq rfl
        cases hlast
        refine .inl ⟨hblanks line (by simp), earlier, last, blanks, rfl, ?_, hover⟩
        exact fun blank hblank => hblanks blank (by simp [hblank])
  · rintro (⟨htokens, earlier, last, blanks, rfl, hblanks, hover⟩ | hover)
    · refine ⟨earlier, last, blanks ++ [line], by simp, fun blank hblank => ?_, hover⟩
      rcases List.mem_append.1 hblank with hmem | hmem
      · exact hblanks blank hmem
      · rw [List.mem_singleton.1 hmem]
        exact htokens
    · exact ⟨lines, line, [], rfl, by simp, hover⟩

/-- **The status with a limit**: 1 in place of 0 after a line whose output does not fit, and also
after lines without tokens behind it; and that without a limit otherwise. -/
theorem lastStatus_limited (host : Host ω) (n : Nat) {s : Session ω}
    (hs : s.settings.interactive = false) (lines : List String) :
    (EndsOverrun host n lines s →
      (after (host.apart Sink.writer) lines (s.limited (some n))).lastStatus = 1 ∧
        (after (host.apart Sink.writer) lines (s.limited none)).lastStatus = 0) ∧
      (¬ EndsOverrun host n lines s →
        (after (host.apart Sink.writer) lines (s.limited (some n))).lastStatus =
          (after (host.apart Sink.writer) lines (s.limited none)).lastStatus) := by
  induction lines using List.reverseRecOn with
  | nil =>
      refine ⟨?_, fun _ => rfl⟩
      rintro ⟨earlier, line, blanks, heq, -⟩
      simp at heq
  | append_singleton earlier line ih =>
      obtain ⟨unheard, written, hfollows⟩ := exists_follows host hs earlier
      rw [endsOverrun_concat, after_concat, after_concat]
      by_cases htokens : tokenize line = .ok []
      · have hover : ¬ Overruns host n line
            (after (host.apart Sink.writer) earlier (s.limited none)) :=
          fun h => h.not_blank htokens
        rw [executeLine_of_blank htokens, executeLine_of_blank htokens]
        simpa only [htokens, hover, true_and, or_false] using ih
      · -- both sessions follow one that is not heard, so their statuses can be compared
        obtain ⟨_, hfull⟩ := (hfollows (some n)).executeLine htokens
        obtain ⟨_, hfree⟩ := (hfollows none).executeLine htokens
        rw [hfull, hfree, (hfollows none).overruns_iff]
        simp only [htokens, false_and, false_or]
        refine ⟨fun hfits => ⟨?_, ?_⟩, fun hfits => ?_⟩
        · show statusAfter host (some n) written line unheard = 1
          rw [statusAfter, hfits]
          rfl
        · show (Session.executeLine host.mute line unheard).2.lastStatus = 0
          rw [executeLine_mute_of_not_fits hfits]
          rfl
        · show statusAfter host (some n) written line unheard =
            statusAfter host none written line unheard
          rw [statusAfter, statusAfter, eq_true_of_ne_false hfits]
          rfl

end Session

/-! ### Launches -/

/-- The host that keeps a list of the launches. -/
def Host.logging {ω : Type} (host : Host ω) : Host (List Invocation × ω) where
  probe s := host.probe s.2
  workingDirectory s := host.workingDirectory s.2
  changeDirectory path := (host.changeDirectory path).within
  write bytes := (host.write bytes).within
  flush := host.flush.within
  flushStandardOutput := host.flushStandardOutput.within
  diagnose text s := (s.1, host.diagnose text s.2)
  launch invocation := fun (launched, w) =>
    match host.launch invocation w with
    | (r, w') => (r, launched ++ [invocation], w')
  takeInterrupt s := ((host.takeInterrupt s.2).1, s.1, (host.takeInterrupt s.2).2)

namespace Session

variable {ω : Type}

/-- The programs that were launched, in order. -/
def launched (s : Session ((List String × Sink) × List Invocation × ω)) : List Invocation :=
  s.world.2.1

/-- The surroundings but for what is written and reported: the files, the working directory, and all
else that a program or a built-in command can change. -/
def surroundings (s : Session ((List String × Sink) × List Invocation × ω)) : ω := s.world.2.2

/-- The session before anything is written or launched, with a new receiver for its output. -/
def watched (limit : Option Nat) (s : Session ω) :
    Session ((List String × Sink) × List Invocation × ω) := (s.beside []).limited limit

/-- **A full receiver changes nothing but a status.**  Two sessions start alike, and one has a
receiver that accepts `n` bytes in all.  After any lines, the next line answers the same in both,
the same programs have been launched, the surroundings are the same, and the receiver has the first
`n` bytes of what the other has.  The recorded status is the same, unless the last line that has
tokens calls `help`, `?` or `pwd` and its output did not fit; then it is 1 in place of 0. -/
theorem full_sink_changes_nothing (host : Host ω) (n : Nat) {s : Session ω}
    (hs : s.settings.interactive = false) (lines : List String) :
    let watching := host.logging.apart Sink.writer
    let free := after watching lines (s.watched none)
    let full := after watching lines (s.watched (some n))
    (∀ line, (executeLine watching line full).1 = (executeLine watching line free).1) ∧
      full.launched = free.launched ∧ full.surroundings = free.surroundings ∧
      full.received = free.received.take n ∧
      (EndsOverrun host.logging n lines (s.beside []) →
        full.lastStatus = 1 ∧ free.lastStatus = 0) ∧
      (¬ EndsOverrun host.logging n lines (s.beside []) → full.lastStatus = free.lastStatus) := by
  intro watching free full
  obtain ⟨unheard, written, hfollows⟩ :=
    @exists_follows _ host.logging (s.beside ([] : List Invocation)) hs lines
  have hfree : Follows none unheard written free := hfollows none
  have hfull : Follows (some n) unheard written full := hfollows (some n)
  have hworld : full.world.2 = free.world.2 := hfull.world_eq.trans hfree.world_eq.symm
  have hstatus := @lastStatus_limited _ host.logging n (s.beside ([] : List Invocation)) hs lines
  refine ⟨fun line => ?_, ?_, ?_, ?_, hstatus⟩
  · rw [(hfull.next line).1, (hfree.next line).1]
  · exact congrArg Prod.fst hworld
  · exact congrArg Prod.snd hworld
  · rw [hfull.received_eq, hfree.received_eq]
    rfl

/-! ### A list of commands that does not fit -/

theorem tokenize_help : tokenize "help" = .ok ["help"] :=
  @tokenize_of_scan "help" ["help".toList] rfl

theorem tokenize_empty : tokenize "" = .ok [] := @tokenize_of_scan "" [] rfl

theorem length_encodePieces_helpPieces : (encodePieces Builtin.helpPieces).length = 188 := by cbv

/-- The list of commands does not fit where fewer than 188 bytes are accepted. -/
theorem endsOverrun_help (host : Host ω) {n : Nat} (hn : n < 188) {s : Session ω}
    (hs : s.settings.interactive = false) {blanks : List String}
    (hblanks : ∀ blank ∈ blanks, tokenize blank = .ok []) :
    EndsOverrun host n ("help" :: blanks) s := by
  have command : BuiltinLine "help" 1 "help" [] := ⟨tokenize_help, rfl⟩
  have hbytes : outputBytes host "help" s = encodePieces Builtin.helpPieces := by
    rw [outputBytes, output_of_builtinLine command]
    rfl
  refine ⟨[], "help", blanks, rfl, hblanks, ((follows_limited hs).overruns_iff n "help").2 ?_⟩
  rw [hbytes, Sink.fits, length_encodePieces_helpPieces, decide_eq_false_iff_not]
  exact Nat.not_le.2 (Nat.lt_of_le_of_lt (Nat.sub_le _ _) hn)

/-- A receiver that accepts seven bytes, and the list of commands. -/
theorem full_sink_changes_nothing_help :
    let s : Session Machine.State :=
      .start {} (Machine.boot Machine.furnished .null [] Machine.FileTree.root)
    let watching := Machine.host.logging.apart Sink.writer
    let free := after watching ["help"] (s.watched none)
    let full := after watching ["help"] (s.watched (some 7))
    s.settings.interactive = false ∧ full.surroundings = free.surroundings ∧
      full.received = free.received.take 7 ∧ full.lastStatus = 1 ∧ free.lastStatus = 0 := by
  intro s watching free full
  have hs : s.settings.interactive = false := rfl
  have hover : EndsOverrun Machine.host.logging 7 ["help"] (s.beside []) :=
    @endsOverrun_help _ _ 7 (by decide) (s.beside []) hs [] (by simp)
  obtain ⟨-, -, hsurroundings, hreceived, hstatus, -⟩ :=
    full_sink_changes_nothing Machine.host 7 hs ["help"]
  exact ⟨hs, hsurroundings, hreceived, hstatus hover⟩

/-- A line without tokens behind the list of commands: the status differs, though that line writes
nothing. -/
theorem lastStatus_differs_after_blank :
    let s : Session Machine.State :=
      .start {} (Machine.boot Machine.furnished .null [] Machine.FileTree.root)
    let watching := Machine.host.logging.apart Sink.writer
    let free := after watching ["help", ""] (s.watched none)
    let full := after watching ["help", ""] (s.watched (some 0))
    ¬ (full.lastStatus ≠ free.lastStatus →
      Overruns Machine.host.logging 0 "" (after watching ["help"] (s.watched none)) ∧
        full.lastStatus = 1) := by
  intro s watching free full hclaim
  have hover : EndsOverrun Machine.host.logging 0 ["help", ""] (s.beside []) :=
    @endsOverrun_help _ _ 0 (by decide) _ rfl [""] (by simp [tokenize_empty])
  have hstatus := @lastStatus_limited _ Machine.host.logging 0 (s.beside ([] : List Invocation)) rfl
    ["help", ""]
  obtain ⟨hfull, hfree⟩ := hstatus.1 hover
  have hdiffers : full.lastStatus ≠ free.lastStatus := by
    show (after _ _ (limited _ _)).lastStatus ≠ (after _ _ (limited _ _)).lastStatus
    rw [hfull, hfree]
    decide
  exact (hclaim hdiffers).1.not_blank tokenize_empty

end Session

end LineShell
