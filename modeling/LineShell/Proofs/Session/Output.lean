/-
**What a line writes, and what it does.**

In a session that is not interactive only `help`, `?` and `pwd` write to the session's output.  So a
line does the same whatever receives the output: its answer, its program, the surroundings
afterwards and the recorded status are those of a session that is not heard at all.  Only if the
receiver fails in the middle of the output is there a difference, and then the line changes nothing
and is reported.

Nothing that a line does depends on what was recorded or reported before it.

Main definitions:

* `LineShell.Session.beside` — a session with a part of its surroundings more;
* `LineShell.Session.output` — the pieces that a line writes;
* `LineShell.Host.apart` — the host whose sessions write to a receiver of their own, and whose
  diagnostics are kept apart.

Main results:

* `LineShell.Session.executeLine_withStatus` — a line that has tokens forgets the status before it;
* `LineShell.Session.tryLine_writingTo` — **a line does what it does unheard, and writes its
  output**;
* `LineShell.Session.executeLine_apart` — the same of a line whose failure is reported.
-/

import LineShell.Proofs.Builtin.Output
import LineShell.Proofs.Session.Course

set_option autoImplicit false

namespace LineShell

namespace Session

variable {κ ω : Type}

/-- The session with a part of its surroundings more. -/
def beside (k : κ) (s : Session ω) : Session (κ × ω) :=
  ⟨s.settings, s.lineNumber, s.lastStatus, k, s.world⟩

/-- The pieces that a line writes. -/
def output (host : Host ω) (line : String) (s : Session ω) : List String :=
  match tokenize line with
  | .ok (name :: _) =>
    match Builtin.lookup name with
    | some index => Builtin.outputAt host index s.world
    | none => []
  | _ => []

section

variable {host : Host ω} {line : String} {s : Session ω} {writer : Writer κ} {k k' : κ}

theorem output_of_builtinLine {index : Nat} {name : String} {rest : List String}
    (command : BuiltinLine line index name rest) :
    output host line s = Builtin.outputAt host index s.world := by
  rw [output, command.tokens]
  simp only [command.found]

/-- Only built-in commands write. -/
theorem exists_builtinLine_of_output_ne_nil (h : output host line s ≠ []) :
    ∃ index name rest, BuiltinLine line index name rest := by
  unfold output at h
  split at h
  · next name rest tokens =>
    split at h
    · next index found => exact ⟨index, name, rest, tokens, found⟩
    · exact absurd rfl h
  · exact absurd rfl h

/-! ### Another receiver -/

/-- What a line amounts to: what it does unheard, unless its output cannot be written. -/
def heard (writer : Writer κ) (pieces : List String)
    (unheard : Except SessionError Flow × Session ω) (k : κ) (s : Session ω) :
    Except SessionError Flow × Session (κ × ω) :=
  match writer.writeAll pieces k with
  | (.ok (), k') => (unheard.1, unheard.2.beside k')
  | (.error e, k') => (.error (.builtin (.io e)), s.beside k')

theorem flush_writingTo (hflush : writer.flush k = (.ok (), k')) (w : ω) :
    (host.writingTo writer).flush (k, w) = (.ok (), k', w) := by
  simp only [Host.writingTo, hflush]

/-- A built-in command does what it does unheard, and writes its output. -/
theorem tryLine_writingTo_of_builtinLine {index : Nat} {name : String} {rest : List String}
    (command : BuiltinLine line index name rest)
    (hflush : writer.flush (writer.writeAll (output host line s) k).2 =
      (.ok (), (writer.writeAll (output host line s) k).2)) :
    tryLine (host.writingTo writer) line (s.beside k) =
      heard writer (output host line s) (tryLine host.mute line s) k s := by
  rw [output_of_builtinLine command] at hflush ⊢
  have hinvoke := Builtin.invoke_writingTo host writer index (name :: rest) k s.world
  unfold Builtin.heard at hinvoke
  rw [tryLine_of_builtinLine command, tryLine_of_builtinLine command]
  cases hmute : Builtin.invoke host.mute index (name :: rest) s.world with
  | mk answer w =>
    cases hwrite : writer.writeAll (Builtin.outputAt host index s.world) k with
    | mk r k' =>
      rw [hwrite] at hflush hinvoke
      rw [hmute] at hinvoke
      rw [runBuiltin_of_invoke hmute, heard, hwrite]
      -- the output is handed on before the answer is looked at, whatever that is
      cases r with
      | error e =>
          rw [runBuiltin_of_invoke (s := s.beside k) hinvoke, flush_writingTo hflush]
          rfl
      | ok _ =>
          rw [runBuiltin_of_invoke (s := s.beside k) hinvoke, flush_writingTo hflush]
          cases answer with
          | error cause => rfl
          | ok flow => rfl

/-- A line that comes to launch a program does so whatever receives the output. -/
theorem Launches.beside {invocation : Invocation} {w : ω}
    (h : Launches host.mute line s invocation w)
    (hs : s.settings.interactive = false) (hflush : writer.flush k = (.ok (), k')) :
    Launches (host.writingTo writer) line (s.beside k) invocation (k', w) := by
  obtain ⟨program, prepared, flushed, emptied⟩ := h
  cases flushed
  have h : Launches (host.writingTo writer) line (s.beside k) invocation
      (ready (host.writingTo writer) s.settings _) :=
    .intro program prepared (flush_writingTo hflush s.world) (Act.within_of_eq emptied k')
  simpa only [ready, hs, Bool.false_eq_true, if_false] using h

/-- Any other line goes as it goes unheard, and at most hands on what was written before. -/
theorem Course.exists_beside {r : Except SessionError Flow} {s' : Session ω}
    (h : Course host.mute line s r s') (hs : s.settings.interactive = false)
    (hflush : writer.flush k = (.ok (), k'))
    (hline : ∀ index name rest, ¬ BuiltinLine line index name rest) :
    ∃ k'', (k'' = k ∨ k'' = k') ∧
      Course (host.writingTo writer) line (s.beside k) r (s'.beside k'') := by
  cases h with
  | unlexable tokens => exact ⟨k, .inl rfl, .unlexable tokens⟩
  | blank tokens => exact ⟨k, .inl rfl, .blank tokens⟩
  | builtin command invoked flushed => exact absurd command (hline _ _ _)
  | builtinFailed command invoked flushed => exact absurd command (hline _ _ _)
  | builtinStuck command invoked flushed => exact absurd command (hline _ _ _)
  | unprepared program prepared => exact ⟨k, .inl rfl, .unprepared program prepared⟩
  -- unheard, handing on never fails
  | unflushed program prepared flushed => cases flushed
  | unemptied program prepared flushed emptied =>
      cases flushed
      exact ⟨k', .inr rfl, .unemptied program prepared (flush_writingTo hflush s.world)
        (Act.within_of_eq emptied k')⟩
  | unlaunched launches launched =>
      exact ⟨k', .inr rfl, .unlaunched (launches.beside hs hflush) (Act.within_of_eq launched k')⟩
  | unsettled launches launched settled =>
      simp only [settle, hs] at settled
      cases settled
  | ran launches launched settled =>
      simp only [settle, hs] at settled
      cases settled
      refine ⟨k', .inr rfl, .ran (launches.beside hs hflush) (Act.within_of_eq launched k') ?_⟩
      simp only [settle, Session.beside, hs]
      rfl

/-- **A line does what it does unheard, and writes its output**; if the receiver fails, the line
answers that, and has changed nothing else. -/
theorem tryLine_writingTo (hs : s.settings.interactive = false)
    (hflush : writer.flush (writer.writeAll (output host line s) k).2 =
      (.ok (), (writer.writeAll (output host line s) k).2)) :
    tryLine (host.writingTo writer) line (s.beside k) =
      heard writer (output host line s) (tryLine host.mute line s) k s := by
  by_cases hline : ∃ index name rest, BuiltinLine line index name rest
  · obtain ⟨index, name, rest, command⟩ := hline
    exact tryLine_writingTo_of_builtinLine command hflush
  · have hnil : output host line s = [] :=
      Classical.byContradiction fun hne => hline (exists_builtinLine_of_output_ne_nil hne)
    rw [hnil] at hflush ⊢
    have hflush' : writer.flush k = (.ok (), k) := hflush
    obtain ⟨k'', hk, hcourse⟩ := (course_tryLine host.mute line s).exists_beside hs hflush'
      fun index name rest h => hline ⟨index, name, rest, h⟩
    obtain rfl := or_self_iff.1 hk
    exact hcourse.tryLine_eq

/-! ### Lines that write -/

/-- The lines that write begin with one of three names. -/
theorem exists_name_of_output_ne_nil (h : output host line s ≠ []) :
    ∃ name rest, tokenize line = .ok (name :: rest) ∧ name ∈ ["?", "help", "pwd"] := by
  obtain ⟨index, name, rest, command⟩ := exists_builtinLine_of_output_ne_nil h
  rw [output_of_builtinLine command] at h
  exact ⟨name, rest, command.tokens, Builtin.name_mem_of_outputAt_ne_nil command.found h⟩

/-- A line that writes does nothing else but succeed. -/
theorem tryLine_mute_of_output_ne_nil (h : output host line s ≠ []) :
    tryLine host.mute line s = (.ok .proceed, s.withStatus 0) := by
  obtain ⟨index, name, rest, command⟩ := exists_builtinLine_of_output_ne_nil h
  rw [output_of_builtinLine command] at h
  have hinvoke := Builtin.invoke_mute_of_outputAt_ne_nil h (name :: rest)
  rw [tryLine_of_builtinLine command, runBuiltin_of_invoke hinvoke]
  rfl

/-! ### What was recorded before -/

theorem Launches.withStatus {invocation : Invocation} {w : ω}
    (h : Launches host line s invocation w) (status : Int) :
    Launches host line (s.withStatus status) invocation w := by
  obtain ⟨program, prepared, flushed, emptied⟩ := h
  exact .intro program prepared flushed emptied

/-- A line that has tokens and answers leaves the same session, whatever the status before it. -/
theorem Course.withStatus_of_ok {flow : Flow} {s' : Session ω}
    (h : Course host line s (.ok flow) s') (htokens : tokenize line ≠ .ok []) (status : Int) :
    Course host line (s.withStatus status) (.ok flow) s' := by
  cases h with
  | blank tokens => exact absurd tokens htokens
  | builtin command invoked flushed => exact .builtin command invoked flushed
  | ran launches launched settled => exact .ran (launches.withStatus status) launched settled

/-- A line that fails keeps the status before it, whatever that is. -/
theorem Course.withStatus_of_error {cause : SessionError} {s' : Session ω}
    (h : Course host line s (.error cause) s') (status : Int) :
    Course host line (s.withStatus status) (.error cause) (s'.withStatus status) := by
  cases h with
  | unlexable tokens => exact .unlexable tokens
  | builtinFailed command invoked flushed => exact .builtinFailed command invoked flushed
  | builtinStuck command invoked flushed => exact .builtinStuck command invoked flushed
  | unprepared program prepared => exact .unprepared program prepared
  | unflushed program prepared flushed => exact .unflushed program prepared flushed
  | unemptied program prepared flushed emptied => exact .unemptied program prepared flushed emptied
  | unlaunched launches launched => exact .unlaunched (launches.withStatus status) launched
  | unsettled launches launched settled =>
      exact .unsettled (launches.withStatus status) launched settled

/-- **A line that has tokens forgets the status before it.** -/
theorem executeLine_withStatus (htokens : tokenize line ≠ .ok []) (s : Session ω) (status : Int) :
    executeLine host line (s.withStatus status) = executeLine host line s := by
  obtain ⟨r, s', hcourse⟩ := exists_course host line s
  rw [executeLine, executeLine, hcourse.tryLine_eq]
  cases r with
  | ok flow => rw [(hcourse.withStatus_of_ok htokens status).tryLine_eq]
  | error cause =>
      rw [(hcourse.withStatus_of_error status).tryLine_eq]
      rfl

end

end Session

/-! ### Diagnostics -/

/-- The receiver with a part of its state that it does not touch. -/
def Writer.within {κ : Type} (δ : Type) (writer : Writer κ) : Writer (δ × κ) where
  write bytes := (writer.write bytes).within
  flush := writer.flush.within

theorem Writer.writeAll_within {κ δ : Type} (writer : Writer κ) (pieces : List String) (d : δ)
    (k : κ) :
    (writer.within δ).writeAll pieces (d, k) =
      ((writer.writeAll pieces k).1, d, (writer.writeAll pieces k).2) := by
  induction pieces generalizing k with
  | nil => rfl
  | cons piece rest ih =>
      cases hwrite : writer.write (Utf8.encode piece) k with
      | mk r k' =>
        have hwithin : (writer.within δ).write (Utf8.encode piece) (d, k) = (r, d, k') :=
          Act.within_of_eq hwrite d
        cases r with
        | error e =>
            rw [Writer.writeAll, Writer.writeAll, Act.bind_of_error hwrite,
              Act.bind_of_error hwithin]
        | ok _ =>
            rw [Writer.writeAll, Writer.writeAll, Act.bind_of_ok hwrite, Act.bind_of_ok hwithin]
            exact ih k'

/-- The host whose sessions write to a receiver of their own, and whose diagnostics go to a list of
their own and to nothing else. -/
def Host.apart {κ ω : Type} (host : Host ω) (writer : Writer κ) : Host ((List String × κ) × ω) :=
  { host.writingTo (writer.within (List String)) with
    diagnose := fun text ((said, k), w) => ((said ++ [text], k), w) }

namespace Session

variable {κ ω : Type}

/-- Diagnostics play no part before the failure of a line is reported. -/
theorem tryLine_diagnose (host : Host ω) (diagnose : String → ω → ω) (line : String)
    (s : Session ω) :
    tryLine { host with diagnose := diagnose } line s = tryLine host line s := rfl

/-- **A line does what it does unheard, and writes its output**; if the receiver fails, that is
reported and recorded, and nothing else was changed. -/
theorem executeLine_apart {host : Host ω} {line : String} {s : Session ω} {writer : Writer κ}
    {k : κ} (hs : s.settings.interactive = false)
    (hflush : writer.flush (writer.writeAll (output host line s) k).2 =
      (.ok (), (writer.writeAll (output host line s) k).2)) (said : List String) :
    ∃ said', executeLine (host.apart writer) line (s.beside (said, k)) =
      match writer.writeAll (output host line s) k with
      | (.ok (), k') =>
        ((executeLine host.mute line s).1, (executeLine host.mute line s).2.beside (said', k'))
      | (.error _, k') => (.proceed, (s.withStatus 1).beside (said', k')) := by
  have hall := Writer.writeAll_within writer (output host line s) said k
  have hflush' : (writer.within (List String)).flush
      ((writer.within (List String)).writeAll (output host line s) (said, k)).2 =
        (.ok (), ((writer.within (List String)).writeAll (output host line s) (said, k)).2) := by
    rw [hall]
    exact Act.within_of_eq hflush said
  have htry : tryLine (host.apart writer) line (s.beside (said, k)) = _ :=
    (tryLine_diagnose _ _ line _).trans (tryLine_writingTo hs hflush')
  rw [heard, hall] at htry
  cases hwrite : writer.writeAll (output host line s) k with
  | mk r k' =>
    rw [hwrite] at htry
    cases r with
    | error e =>
        refine ⟨said ++ [diagnostic (SessionError.builtin (.io e)).message], ?_⟩
        rw [executeLine, htry]
        rfl
    | ok _ =>
        cases hmute : tryLine host.mute line s with
        | mk r s' =>
          rw [hmute] at htry
          cases r with
          | ok flow =>
              refine ⟨said, ?_⟩
              rw [executeLine, executeLine, htry, hmute]
          | error cause =>
              refine ⟨said ++ [diagnostic cause.message], ?_⟩
              rw [executeLine, executeLine, htry, hmute]
              rfl

end Session

end LineShell
