/-
**The status of the last command.**

A session records one number for each line that has tokens: zero if the line succeeded, and
otherwise the status of its program or of its failure.  The number is stored last, so a line that
fails has not touched it by then; whoever reports the failure stores it.

A program's status is a byte, or 128 and the number of a standard signal, and a failure's is one of
1, 2, 126 and 127.  So the recorded number is a byte as well, in every session that can be reached,
and the program's own exit status, which keeps eight bits of it, loses nothing.

Main definitions:

* `LineShell.Host.ReportsBytes` — programs leave with a byte as their status;
* `LineShell.Session.Reachable` — the sessions that can be reached;
* `LineShell.SessionError.failureStatus` — the status of a failure, in numbers;
* `LineShell.Session.Succeeds`, `LineShell.Session.Records` — the lines that succeed, and what is
  recorded for a line.

Main results:

* `LineShell.Kernel.reportsByte_launch` — what a launch reports is what the waits report;
* `LineShell.Session.run_preserves` — what lines keep, a run keeps;
* `LineShell.Session.hasByteStatus_of_reachable` — the status is a byte;
* `LineShell.Session.status_bookkeeping` — **what is recorded for every line**.
-/

import LineShell.CommandLine
import LineShell.Proofs.Session.Course
import LineShell.Proofs.Session.Run
import LineShell.Proofs.Token.Scan

set_option autoImplicit false

namespace LineShell

/-! ### Programs that leave with a byte -/

/-- A program that leaves does so with a byte as its status. -/
def Outcome.ReportsByte : Outcome → Prop
  | .exited status => 0 ≤ status ∧ status ≤ 255
  | .signaled _ => True

/-- Every program that is launched leaves with a byte as its status, if it leaves. -/
def Host.ReportsBytes {ω : Type} (host : Host ω) : Prop :=
  ∀ (invocation : Invocation) (w : ω) (outcome : Outcome),
    (host.launch invocation w).1 = .ok outcome → outcome.ReportsByte

theorem Outcome.code_bounds {outcome : Outcome} (h : outcome.ReportsByte) :
    0 ≤ outcome.code ∧ outcome.code ≤ 255 := by
  cases outcome with
  | exited status => exact h
  | signaled signal =>
      have := Outcome.code_signaled_bounds signal
      omega

/-- If a child is said to have left, it is with a byte as its status. -/
def Waiting.ReportsByte : Waiting → Prop
  | .interrupted next | .notEnded next => next.ReportsByte
  | .ended (.exited status) => 0 ≤ status ∧ status ≤ 255
  | .ended (.killed _) | .failed _ => True

theorem Waiting.reportsByte_outcome {answers : Waiting} (h : answers.ReportsByte)
    {outcome : Outcome} (houtcome : answers.outcome = .ok outcome) : outcome.ReportsByte := by
  induction answers with
  | interrupted next ih => exact ih h houtcome
  | notEnded next ih => exact ih h houtcome
  | ended fate =>
      cases fate with
      | exited status =>
          cases houtcome
          exact h
      | killed n =>
          simp only [Waiting.outcome, Fate.outcome] at houtcome
          split at houtcome
          · cases houtcome
            trivial
          · cases houtcome
  | failed e => cases houtcome

/-- What a launch reports is what the waits report. -/
theorem Kernel.reportsByte_launch {ω : Type} {kernel : Kernel ω}
    (h : ∀ w, (kernel.wait w).1.ReportsByte) (invocation : Invocation) :
    (kernel.launch invocation).Yields Outcome.ReportsByte := by
  refine Act.yields_bind _ fun _ => Act.yields_bind _ fun _ => Act.yields_bind _ fun _ => ?_
  refine Act.yields_bind _ fun report => ?_
  refine Act.Yields.bind (P := Waiting.ReportsByte) ?_ fun answers hanswers => ?_
  · intro w answers w' hrun
    cases hrun
    exact h w
  cases houtcome : answers.outcome with
  | error e => exact Act.yields_throw _
  | ok outcome =>
      dsimp only
      cases report.bind StartFailure.decode with
      | some failure => exact Act.yields_throw _
      | none => exact Act.yields_pure (Waiting.reportsByte_outcome hanswers houtcome)

/-- The low byte of each status that is reported. -/
def Waiting.lowByte : Waiting → Waiting
  | .interrupted next => .interrupted next.lowByte
  | .notEnded next => .notEnded next.lowByte
  | .ended (.exited status) => .ended (.exited (status % 256))
  | .ended (.killed n) => .ended (.killed n)
  | .failed e => .failed e

theorem Waiting.reportsByte_lowByte (answers : Waiting) : answers.lowByte.ReportsByte := by
  induction answers with
  | interrupted next ih => exact ih
  | notEnded next ih => exact ih
  | ended fate =>
      cases fate with
      | exited status =>
          simp only [Waiting.lowByte, Waiting.ReportsByte]
          omega
      | killed n => trivial
  | failed e => trivial

/-- The same calls, where a wait reports the low byte of a status. -/
def Kernel.lowByte {ω : Type} (kernel : Kernel ω) : Kernel ω :=
  { kernel with wait := fun w => ((kernel.wait w).1.lowByte, (kernel.wait w).2) }

/-! ### Failures -/

/-- The status of a failure: 2 if the line is wrong, 127 if there is no such program, 126 if it
could not be started, and 1 otherwise. -/
def SessionError.failureStatus : SessionError → Int
  | .lex _ | .build (.missingTarget _) | .builtin (.usage _) => 2
  | .resolve _ => 127
  | .launch (.launchFailed _ e) => if e = Errno.noEntry then 127 else 126
  | _ => 1

theorem SessionError.status_eq_failureStatus (cause : SessionError) :
    cause.status = cause.failureStatus := by
  match cause with
  | .lex _ | .resolve _ | .input _ | .io _ => rfl
  | .build (.nul _) | .build (.missingTarget _) => rfl
  | .launch (.launchFailed _ _) => rfl
  | .launch (.forkFailed _) | .launch (.redirectionFailed _ _) => rfl
  | .launch (.pipe _) | .launch (.waitFailed _) => rfl
  | .builtin (.usage _) | .builtin (.changeDirectory _ _) => rfl
  | .builtin (.workingDirectory _) | .builtin (.unknownIndex _) | .builtin (.io _) => rfl

/-- A failure is never recorded as a success. -/
theorem SessionError.status_bounds (cause : SessionError) :
    0 < cause.status ∧ cause.status ≤ 255 := by
  rw [SessionError.status_eq_failureStatus]
  unfold SessionError.failureStatus
  split <;> (try split) <;> omega

namespace Session

variable {ω : Type} {host : Host ω}

/-! ### One line -/

section

variable {line : String} {s : Session ω}

/-- The status after a line: the failure's, or the one that the line left. -/
theorem executeLine_lastStatus (line : String) (s : Session ω) :
    (executeLine host line s).2.lastStatus =
      match (tryLine host line s).1 with
      | .ok _ => (tryLine host line s).2.lastStatus
      | .error cause => cause.status := by
  unfold executeLine
  split <;> simp_all [withStatus]

/-- A line that fails has not touched the status by then. -/
theorem tryLine_lastStatus_of_error {cause : SessionError}
    (h : (tryLine host line s).1 = .error cause) :
    (tryLine host line s).2.lastStatus = s.lastStatus := by
  have hcourse := course_tryLine host line s
  rw [h] at hcourse
  generalize (tryLine host line s).2 = s' at hcourse ⊢
  cases hcourse <;> rfl

/-- The line calls a built-in command that answers, or runs a program that leaves with zero. -/
def Succeeds (host : Host ω) (line : String) (s : Session ω) : Prop :=
  (∃ flow, (tryLine host line s).1 = .ok flow) ∧
    ((∃ index name rest, BuiltinLine line index name rest) ∨
      ∃ invocation w, Launches host line s invocation w ∧
        (host.launch invocation w).1 = .ok (.exited 0))

/-- What is recorded for a line that has tokens. -/
inductive Records (host : Host ω) (line : String) (s : Session ω) : Int → Prop where
  /-- Zero for a built-in command that answers. -/
  | builtin {index : Nat} {name : String} {rest : List String} {flow : Flow}
    (command : BuiltinLine line index name rest)
    (answered : (tryLine host line s).1 = .ok flow) : Records host line s 0
  /-- The status that a program left with. -/
  | exited {invocation : Invocation} {w : ω} {flow : Flow} {status : Int}
    (launches : Launches host line s invocation w)
    (left : (host.launch invocation w).1 = .ok (.exited status))
    (answered : (tryLine host line s).1 = .ok flow) : Records host line s status
  /-- The number of the signal that killed a program, and 128. -/
  | signaled {invocation : Invocation} {w : ω} {flow : Flow} {signal : Signal}
    (launches : Launches host line s invocation w)
    (killed : (host.launch invocation w).1 = .ok (.signaled signal))
    (answered : (tryLine host line s).1 = .ok flow) : Records host line s (128 + signal.number)
  /-- The status of a failure. -/
  | failed {cause : SessionError} (failed : (tryLine host line s).1 = .error cause) :
    Records host line s cause.failureStatus

theorem records_of_outcome {invocation : Invocation} {w : ω} {flow : Flow} {outcome : Outcome}
    (launches : Launches host line s invocation w)
    (launched : (host.launch invocation w).1 = .ok outcome)
    (answered : (tryLine host line s).1 = .ok flow) : Records host line s outcome.code := by
  cases outcome with
  | exited status => exact .exited launches launched answered
  | signaled signal => exact .signaled launches launched answered

/-- Something is recorded for every line that has tokens. -/
theorem records_lastStatus (h : tokenize line ≠ .ok []) :
    Records host line s (executeLine host line s).2.lastStatus := by
  have hcourse := course_tryLine host line s
  rw [executeLine_lastStatus]
  cases hanswer : (tryLine host line s).1 with
  | error cause =>
      dsimp only
      rw [SessionError.status_eq_failureStatus]
      exact .failed hanswer
  | ok flow =>
      rw [hanswer] at hcourse
      generalize (tryLine host line s).2 = s' at hcourse ⊢
      cases hcourse with
      | blank tokens => exact absurd tokens h
      | builtin command invoked flushed => exact .builtin command hanswer
      | ran launches launched settled =>
          exact records_of_outcome launches (congrArg Prod.fst launched) hanswer

/-- Zero is recorded exactly for the lines that succeed. -/
theorem Records.eq_zero_iff {status : Int} (h : Records host line s status) :
    status = 0 ↔ Succeeds host line s := by
  cases h with
  | builtin command answered =>
      exact ⟨fun _ => ⟨⟨_, answered⟩, .inl ⟨_, _, _, command⟩⟩, fun _ => rfl⟩
  | exited launches left answered =>
      constructor
      · rintro rfl
        exact ⟨⟨_, answered⟩, .inr ⟨_, _, launches, left⟩⟩
      · rintro ⟨-, ⟨index, name, rest, command⟩ | ⟨invocation, w, launches', left'⟩⟩
        · exact absurd command launches.not_builtinLine
        · obtain ⟨rfl, rfl⟩ := launches.unique launches'
          simpa using left.symm.trans left'
  | @signaled invocation w flow signal launches killed answered =>
      constructor
      · have := signal.one_le
        omega
      · rintro ⟨-, ⟨index, name, rest, command⟩ | ⟨invocation, w, launches', left'⟩⟩
        · exact absurd command launches.not_builtinLine
        · obtain ⟨rfl, rfl⟩ := launches.unique launches'
          cases killed.symm.trans left'
  | @failed cause failed =>
      constructor
      · have := cause.status_bounds
        rw [SessionError.status_eq_failureStatus] at this
        omega
      · rintro ⟨⟨flow, answered⟩, -⟩
        cases failed.symm.trans answered

theorem Records.bounds (hbytes : host.ReportsBytes) {status : Int}
    (h : Records host line s status) :
    0 ≤ status ∧ status ≤ 255 := by
  cases h with
  | builtin command answered => omega
  | exited launches left answered => exact hbytes _ _ _ left
  | @signaled invocation w flow signal launches killed answered =>
      exact Outcome.code_bounds (hbytes _ _ _ killed)
  | @failed cause failed =>
      rw [← SessionError.status_eq_failureStatus]
      have := cause.status_bounds
      omega

end

/-! ### Sessions that can be reached -/

/-- Showing the prompt changes nothing but the surroundings. -/
theorem exists_world_showPrompt {σ : Type} (host : Host ω) (source : LineSource σ ω)
    (s : Session ω) :
    ∃ w, (showPrompt host source s).2 = { s with world := w } := by
  have hget : (get : Act (Session ω) SessionError (Session ω)) s = (.ok s, s) := rfl
  rw [showPrompt, Act.bind_of_ok hget]
  split
  · cases hsay :
      (do host.write (Utf8.encode s.prompt); host.flush : Act ω IoError Unit) s.world with
    | mk r w => exact ⟨w, congrArg Prod.snd (say_of_write hsay)⟩
  · exact ⟨s.world, rfl⟩

/-- Neither does asking for an answer. -/
theorem exists_world_ask {σ : Type} (host : Host ω) (source : LineSource σ ω) (t : σ)
    (s : Session ω) :
    ∃ w, (ask host source t s).2.2 = { s with world := w } := by
  obtain ⟨w, hw⟩ := exists_world_showPrompt host source s
  unfold ask
  split
  · next cause s' hshow =>
    rw [hshow] at hw
    exact ⟨w, hw⟩
  · next s' hshow =>
    rw [hshow] at hw
    dsimp only at hw ⊢
    exact ⟨_, by rw [hw]⟩

/-- **What lines keep, a run keeps**: whatever the surroundings do, and however it ends. -/
theorem run_preserves {σ : Type} {P : Session ω → Prop}
    (hworld : ∀ s w, P s → P { s with world := w }) (hcount : ∀ s, P s → P s.countLine)
    (hline : ∀ line s, P s → P (executeLine host line s).2) (source : LineSource σ ω) (t : σ)
    (s : Session ω) (h : P s) : P (run host source t s).2.2 := by
  have hask : ∀ t s, P s → P (ask host source t s).2.2 := by
    intro t s hs
    obtain ⟨w, hw⟩ := exists_world_ask host source t s
    exact hw ▸ hworld s w hs
  have hhandle : ∀ item s, P s → P (handle host item s).2 := by
    intro item s hs
    rw [handle_snd]
    match item with
    | .ok (some line) => exact hcount _ (hline line s hs)
    | .ok none => exact hworld _ _ hs
    | .error (.tooLong limit) => exact hworld _ _ (hcount _ hs)
    | .error (.read cause) => exact hs
    | .error (.editor cause) => exact hs
    | .error .overflow => exact hs
  fun_induction run host source t s with
  | case1 t s cause t' s' hasked =>
      have hs' := hask t s h
      rwa [hasked] at hs'
  | case2 t s item t' s' hasked result s'' hhandled =>
      have hs' := hask t s h
      rw [hasked] at hs'
      have hs'' := hhandle item s' hs'
      rwa [hhandled] at hs''
  | case3 t s item t' s' hasked s'' hhandled ih =>
      have hs' := hask t s h
      rw [hasked] at hs'
      have hs'' := hhandle item s' hs'
      rw [hhandled] at hs''
      exact ih hs''

/-- The sessions that can be reached from a new one. -/
inductive Reachable (host : Host ω) : Session ω → Prop where
  /-- A new session. -/
  | start (settings : Settings) (w : ω) : Reachable host (.start settings w)
  /-- After a line whose failure is reported. -/
  | executeLine {s : Session ω} (line : String) :
    Reachable host s → Reachable host (executeLine host line s).2
  /-- After a line whose failure is the answer. -/
  | tryLine {s : Session ω} (line : String) :
    Reachable host s → Reachable host (tryLine host line s).2
  /-- After a run. -/
  | run {s : Session ω} {σ : Type} (source : LineSource σ ω) (t : σ) :
    Reachable host s → Reachable host (run host source t s).2.2
  /-- After something that happened to the surroundings, such as an interrupt. -/
  | happened {s : Session ω} (w : ω) : Reachable host s → Reachable host { s with world := w }

/-- The status of the last command is a byte. -/
def HasByteStatus (s : Session ω) : Prop := 0 ≤ s.lastStatus ∧ s.lastStatus ≤ 255

theorem hasByteStatus_executeLine (hbytes : host.ReportsBytes) (line : String) {s : Session ω}
    (h : HasByteStatus s) : HasByteStatus (executeLine host line s).2 := by
  by_cases tokens : tokenize line = .ok []
  · rwa [executeLine_of_blank tokens]
  · exact (records_lastStatus tokens).bounds hbytes

theorem hasByteStatus_tryLine (hbytes : host.ReportsBytes) (line : String) {s : Session ω}
    (h : HasByteStatus s) : HasByteStatus (tryLine host line s).2 := by
  have hexecute := hasByteStatus_executeLine hbytes line h
  cases hanswer : (tryLine host line s).1 with
  | error cause => rwa [HasByteStatus, tryLine_lastStatus_of_error hanswer]
  | ok flow => rwa [HasByteStatus, executeLine_lastStatus, hanswer] at hexecute

/-- In a session that can be reached the status is a byte. -/
theorem hasByteStatus_of_reachable (hbytes : host.ReportsBytes) {s : Session ω}
    (h : Reachable host s) : HasByteStatus s := by
  induction h with
  | start settings w => simp [HasByteStatus, start]
  | executeLine line _ ih => exact hasByteStatus_executeLine hbytes line ih
  | tryLine line _ ih => exact hasByteStatus_tryLine hbytes line ih
  | run source t _ ih =>
      exact run_preserves (fun _ _ hs => hs) (fun _ hs => hs)
        (fun line _ hs => hasByteStatus_executeLine hbytes line hs) source t _ ih
  | happened w _ ih => exact ih

/-! ### What is recorded -/

/-- **What is recorded for every line** of a session that can be reached.  The status is a byte, so
the exit status made of it is the same.  A line without tokens leaves it alone.  For any other line
it is that of the program or of the failure, and zero exactly if the line succeeds.  A line that
fails has not touched it by then, and no line counts itself. -/
theorem status_bookkeeping (hbytes : host.ReportsBytes) {s : Session ω} (h : Reachable host s) :
    (0 ≤ s.lastStatus ∧ s.lastStatus ≤ 255 ∧ exitByte s.lastStatus = s.lastStatus) ∧
      ∀ line,
        (tokenize line = .ok [] → (executeLine host line s).2.lastStatus = s.lastStatus) ∧
        (tokenize line ≠ .ok [] →
          ((executeLine host line s).2.lastStatus = 0 ↔ Succeeds host line s) ∧
          Records host line s (executeLine host line s).2.lastStatus) ∧
        (∀ cause, (tryLine host line s).1 = .error cause →
          (tryLine host line s).2.lastStatus = s.lastStatus) ∧
        (tryLine host line s).2.lineNumber = s.lineNumber ∧
        (executeLine host line s).2.lineNumber = s.lineNumber := by
  obtain ⟨h0, h255⟩ := hasByteStatus_of_reachable hbytes h
  refine ⟨⟨h0, h255, exitByte_of_lt h0 (by omega)⟩, fun line => ⟨?_, ?_, ?_, ?_, ?_⟩⟩
  · intro tokens
    rw [executeLine_of_blank tokens]
  · intro tokens
    have hrecords : Records host line s _ := records_lastStatus tokens
    exact ⟨hrecords.eq_zero_iff, hrecords⟩
  · intro cause hfailed
    exact tryLine_lastStatus_of_error hfailed
  · exact (keeps_tryLine host line s).2
  · exact executeLine_lineNumber host line s

/-- A command without its argument, and a blank line behind it. -/
theorem status_bookkeeping_usage :
    let host := { Machine.host with launch := Machine.kernel.lowByte.launch }
    let s := (executeLine host "cd"
      (.start {} (Machine.boot Machine.furnished .null [] Machine.FileTree.root))).2
    host.ReportsBytes ∧ Reachable host s ∧ s.lastStatus = 2 ∧ exitByte s.lastStatus = 2 ∧
      (executeLine host "" s).2.lastStatus = 2 := by
  intro host s
  have hbytes : host.ReportsBytes := by
    intro invocation w outcome hlaunched
    have hlaunch := @Kernel.reportsByte_launch _ Machine.kernel.lowByte
      (fun w => Waiting.reportsByte_lowByte _) invocation
    exact hlaunch w outcome _ (Prod.ext hlaunched rfl)
  have hs : Reachable host s := .executeLine "cd" (.start _ _)
  have htwo : s.lastStatus = 2 := by
    have command : BuiltinLine "cd" 4 "cd" [] := ⟨@tokenize_of_scan "cd" ["cd".toList] rfl, rfl⟩
    have hcourse : ∀ s₀, Course host "cd" s₀ (.error (.builtin (.usage Builtin.cd.usage))) s₀ :=
      fun _ => .builtinFailed command rfl rfl
    show (executeLine host "cd" _).2.lastStatus = 2
    rw [executeLine_lastStatus, (hcourse _).tryLine_eq]
    rfl
  obtain ⟨⟨-, -, hbyte⟩, hlines⟩ := status_bookkeeping hbytes hs
  refine ⟨hbytes, hs, htwo, hbyte.trans htwo, ?_⟩
  exact ((hlines "").1 (@tokenize_of_scan "" [] rfl)).trans htwo

end Session

end LineShell
