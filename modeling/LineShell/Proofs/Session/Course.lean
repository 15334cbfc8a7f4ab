/-
**The course of a line.**

A line goes one of eleven ways.  It cannot be cut into tokens, or has none; it calls a built-in
command, which answers or fails, and whose session's output can or cannot be handed on afterwards;
or it stands for a program that cannot be prepared, or before which output cannot be handed on, or
that cannot be launched, or after which a new line cannot be begun, or that ran and is done with.
Each way leaves the session in one state, and there is no other way.

All that is shown about single lines follows from this list.

Main definitions:

* `LineShell.BuiltinLine`, `LineShell.ProgramLine` — the lines that call a built-in command, and
  those that stand for a program;
* `LineShell.Session.ready`, `LineShell.Session.settle` — what is done about interrupts before and
  after a program;
* `LineShell.Session.Launches` — the line comes to launch a program;
* `LineShell.Session.Course` — **the ways that a line can go**.

Main results:

* `LineShell.Session.Launches.unique` — a line launches one program at most;
* `LineShell.Session.Course.tryLine_eq`, `LineShell.Session.exists_course`,
  `LineShell.Session.course_tryLine` — a line goes one of these ways, and what it does is what
  stands there;
* `LineShell.Session.executeLine_of_builtin`, `LineShell.Session.executeLine_pwd` — what a line does
  whose built-in command answers.
-/

import LineShell.Proofs.Text.Utf8
import LineShell.Session

set_option autoImplicit false

namespace LineShell

/-- The first token of the line names the built-in command at a place of the table. -/
structure BuiltinLine (line : String) (index : Nat) (name : String) (rest : List String) :
    Prop where
  /-- The tokens of the line. -/
  tokens : tokenize line = .ok (name :: rest)
  /-- The place of the command. -/
  found : Builtin.lookup name = some index

/-- The first token of the line names no built-in command. -/
structure ProgramLine (line name : String) (rest : List String) : Prop where
  /-- The tokens of the line. -/
  tokens : tokenize line = .ok (name :: rest)
  /-- The table has no such command. -/
  found : Builtin.lookup name = none

namespace Session

variable {ω : Type} (host : Host ω)

/-! ### The ways that a line can go -/

/-- The surroundings before a launch: an interactive session forgets an earlier interrupt. -/
def ready (settings : Settings) (w : ω) : ω :=
  if settings.interactive then (host.takeInterrupt w).2 else w

/-- What is done after a program ran: an interactive session begins a new line after an interrupt. -/
def settle (settings : Settings) : Act ω IoError Unit := fun w =>
  if settings.interactive then
    match host.takeInterrupt w with
    | (true, w') => (do host.write (Utf8.encode "\n"); host.flush : Act ω IoError Unit) w'
    | (false, w') => (.ok (), w')
  else (.ok (), w)

/-- The line comes to launch an invocation, in these surroundings. -/
inductive Launches (line : String) (s : Session ω) : Invocation → ω → Prop where
  /-- It stands for a program that could be prepared, and all output was handed on. -/
  | intro {name : String} {rest : List String} {invocation : Invocation} {w w' : ω}
    (program : ProgramLine line name rest)
    (prepared : prepare host name (name :: rest) s = .ok invocation)
    (flushed : host.flush s.world = (.ok (), w))
    (emptied : host.flushStandardOutput w = (.ok (), w')) :
    Launches line s invocation (ready host s.settings w')

/-- How a line goes, with its answer and the session afterwards. -/
inductive Course (line : String) (s : Session ω) : Except SessionError Flow → Session ω → Prop where
  /-- It cannot be cut into tokens. -/
  | unlexable {cause : LexError} (tokens : tokenize line = .error cause) :
    Course line s (.error (.lex cause)) s
  /-- It has no tokens. -/
  | blank (tokens : tokenize line = .ok []) : Course line s (.ok .proceed) s
  /-- A built-in command answers. -/
  | builtin {index : Nat} {name : String} {rest : List String} {flow : Flow} {w w' : ω}
    (command : BuiltinLine line index name rest)
    (invoked : Builtin.invoke host index (name :: rest) s.world = (.ok flow, w))
    (flushed : host.flush w = (.ok (), w')) :
    Course line s (.ok flow) { s with lastStatus := 0, world := w' }
  /-- A built-in command fails. -/
  | builtinFailed {index : Nat} {name : String} {rest : List String} {cause : BuiltinError}
    {w w' : ω}
    (command : BuiltinLine line index name rest)
    (invoked : Builtin.invoke host index (name :: rest) s.world = (.error cause, w))
    (flushed : host.flush w = (.ok (), w')) :
    Course line s (.error (.builtin cause)) { s with world := w' }
  /-- After a built-in command the output cannot be handed on, whatever the command answered. -/
  | builtinStuck {index : Nat} {name : String} {rest : List String}
    {answer : Except BuiltinError Flow} {cause : IoError} {w w' : ω}
    (command : BuiltinLine line index name rest)
    (invoked : Builtin.invoke host index (name :: rest) s.world = (answer, w))
    (flushed : host.flush w = (.error cause, w')) :
    Course line s (.error (.io cause)) { s with world := w' }
  /-- A program cannot be found, or not be given its arguments. -/
  | unprepared {name : String} {rest : List String} {cause : SessionError}
    (program : ProgramLine line name rest)
    (prepared : prepare host name (name :: rest) s = .error cause) :
    Course line s (.error cause) s
  /-- Before a program the session's output cannot be handed on. -/
  | unflushed {name : String} {rest : List String} {invocation : Invocation} {cause : IoError}
    {w : ω}
    (program : ProgramLine line name rest)
    (prepared : prepare host name (name :: rest) s = .ok invocation)
    (flushed : host.flush s.world = (.error cause, w)) :
    Course line s (.error (.io cause)) { s with world := w }
  /-- Before a program the process's standard output cannot be handed on. -/
  | unemptied {name : String} {rest : List String} {invocation : Invocation} {cause : IoError}
    {w w' : ω} (program : ProgramLine line name rest)
    (prepared : prepare host name (name :: rest) s = .ok invocation)
    (flushed : host.flush s.world = (.ok (), w))
    (emptied : host.flushStandardOutput w = (.error cause, w')) :
    Course line s (.error (.io cause)) { s with world := w' }
  /-- The launch fails. -/
  | unlaunched {invocation : Invocation} {cause : LaunchError} {w w' : ω}
    (launches : Launches host line s invocation w)
    (launched : host.launch invocation w = (.error cause, w')) :
    Course line s (.error (.launch cause)) { s with world := w' }
  /-- The program ran, and a new line cannot be begun. -/
  | unsettled {invocation : Invocation} {outcome : Outcome} {cause : IoError} {w w' w'' : ω}
    (launches : Launches host line s invocation w)
    (launched : host.launch invocation w = (.ok outcome, w'))
    (settled : settle host s.settings w' = (.error cause, w'')) :
    Course line s (.error (.io cause)) { s with world := w'' }
  /-- The program ran. -/
  | ran {invocation : Invocation} {outcome : Outcome} {w w' w'' : ω}
    (launches : Launches host line s invocation w)
    (launched : host.launch invocation w = (.ok outcome, w'))
    (settled : settle host s.settings w' = (.ok (), w'')) :
    Course line s (.ok .proceed) { s with lastStatus := outcome.code, world := w'' }

variable {host} {line : String} {s : Session ω}

/-! ### A line launches one program at most -/

theorem ProgramLine.unique {name name' : String} {rest rest' : List String}
    (h : ProgramLine line name rest) (h' : ProgramLine line name' rest') :
    name = name' ∧ rest = rest' := by
  have htokens := h.tokens.symm.trans h'.tokens
  simpa using htokens

theorem Launches.unique {invocation invocation' : Invocation} {w w' : ω}
    (h : Launches host line s invocation w) (h' : Launches host line s invocation' w') :
    invocation = invocation' ∧ w = w' := by
  obtain ⟨hline, hprepared, hflushed, hemptied⟩ := h
  obtain ⟨hline', hprepared', hflushed', hemptied'⟩ := h'
  obtain ⟨rfl, rfl⟩ := ProgramLine.unique hline hline'
  cases hprepared.symm.trans hprepared'
  cases hflushed.symm.trans hflushed'
  cases hemptied.symm.trans hemptied'
  exact ⟨rfl, rfl⟩

/-- A line that launches a program calls no built-in command. -/
theorem Launches.not_builtinLine {invocation : Invocation} {w : ω}
    (h : Launches host line s invocation w) {index : Nat} {name : String} {rest : List String} :
    ¬ BuiltinLine line index name rest := by
  obtain ⟨hprogram, -, -, -⟩ := h
  intro hbuiltin
  have htokens := hprogram.tokens.symm.trans hbuiltin.tokens
  have hfound := hprogram.found
  simp only [Except.ok.injEq, List.cons.injEq] at htokens
  rw [htokens.1, hbuiltin.found] at hfound
  cases hfound

/-! ### What a line does -/

theorem tryLine_of_builtinLine {index : Nat} {name : String} {rest : List String}
    (h : BuiltinLine line index name rest) (s : Session ω) :
    tryLine host line s = runBuiltin host index (name :: rest) s := by
  rw [tryLine, h.tokens]
  simp only [h.found]

theorem tryLine_of_programLine {name : String} {rest : List String}
    (h : ProgramLine line name rest) (s : Session ω) :
    tryLine host line s = runProgram host name (name :: rest) s := by
  rw [tryLine, h.tokens]
  simp only [h.found]

/-- What a built-in command answered is looked at after the output was handed on. -/
theorem runBuiltin_of_invoke {index : Nat} {tokens : List String}
    {answer : Except BuiltinError Flow} {w : ω}
    (h : Builtin.invoke host index tokens s.world = (answer, w)) :
    runBuiltin host index tokens s =
      match host.flush w, answer with
      | (.error cause, w'), _ => (.error (.io cause), { s with world := w' })
      | (.ok (), w'), .error cause => (.error (.builtin cause), { s with world := w' })
      | (.ok (), w'), .ok flow => (.ok flow, { s with lastStatus := 0, world := w' }) := by
  have hinvoke : ((inWorld (Builtin.invoke host index tokens)).attempt :
      Act (Session ω) SessionError _) s = (.ok answer, { s with world := w }) := by
    simp only [Act.attempt, inWorld, h]
  rw [runBuiltin, Act.bind_of_ok hinvoke]
  cases hflush : host.flush w with
  | mk flushed w' =>
    cases flushed with
    | error cause =>
        exact Act.bind_of_error (inWorld_of_error (s := { s with world := w }) hflush _)
    | ok _ =>
        refine (Act.bind_of_ok (inWorld_of_ok (s := { s with world := w }) hflush _)).trans ?_
        cases answer with
        | error cause => rfl
        | ok flow => rfl

/-- Text that is written and handed on, seen from the session. -/
theorem say_of_write {text : String} {r : Except IoError Unit} {w : ω}
    (h : (do host.write (Utf8.encode text); host.flush : Act ω IoError Unit) s.world = (r, w)) :
    say host text s = (r.mapError .io, { s with world := w }) := by
  cases hwrite : host.write (Utf8.encode text) s.world with
  | mk written w₁ =>
    cases written with
    | error cause =>
        rw [Act.bind_of_error hwrite] at h
        cases h
        exact Act.bind_of_error (inWorld_of_error hwrite _)
    | ok _ =>
        rw [Act.bind_of_ok hwrite] at h
        refine (Act.bind_of_ok (inWorld_of_ok hwrite _)).trans ?_
        cases r with
        | error cause => exact inWorld_of_error (s := { s with world := w₁ }) h _
        | ok _ => exact inWorld_of_ok (s := { s with world := w₁ }) h _

/-- What an interactive session does after a program ran. -/
theorem settle_of_interactive (hs : s.settings.interactive = true) (outcome : Outcome) :
    (do
      if ← takeInterrupt host then say host "\n"
      return outcome : Act (Session ω) SessionError Outcome) s =
      match settle host s.settings s.world with
      | (.error cause, w) => (.error (.io cause), { s with world := w })
      | (.ok (), w) => (.ok outcome, { s with world := w }) := by
  cases hinterrupt : host.takeInterrupt s.world with
  | mk interrupted w =>
    have htaken : takeInterrupt host s = (.ok interrupted, { s with world := w }) := by
      simp only [takeInterrupt, hinterrupt]
    simp only [settle, hs, if_true, hinterrupt]
    refine (Act.bind_of_ok htaken).trans ?_
    cases interrupted with
    | false => rfl
    | true =>
        simp only [if_true]
        cases hsay : (do host.write (Utf8.encode "\n"); host.flush : Act ω IoError Unit) w with
        | mk said w' =>
          have hsaid := say_of_write (s := { s with world := w }) hsay
          cases said with
          | error cause => exact Act.bind_of_error hsaid
          | ok _ => exact Act.bind_of_ok hsaid

/-- A launch, and what is done after a program ran. -/
theorem launch_eq (invocation : Invocation) (s : Session ω) :
    launch host invocation s =
      match host.launch invocation (ready host s.settings s.world) with
      | (.error cause, w) => (.error (.launch cause), { s with world := w })
      | (.ok outcome, w) =>
        match settle host s.settings w with
        | (.error cause, w') => (.error (.io cause), { s with world := w' })
        | (.ok (), w') => (.ok outcome, { s with world := w' }) := by
  have hget : (get : Act (Session ω) SessionError (Session ω)) s = (.ok s, s) := rfl
  rw [launch, Act.bind_of_ok hget]
  cases hs : s.settings.interactive with
  | false =>
      simp only [ready, settle, hs, Bool.false_eq_true, if_false]
      cases hlaunch : host.launch invocation s.world with
      | mk r w =>
        cases r with
        | error cause => exact inWorld_of_error hlaunch _
        | ok outcome => exact inWorld_of_ok hlaunch _
  | true =>
      have htaken : takeInterrupt host s =
          (.ok (host.takeInterrupt s.world).1,
            { s with world := ready host s.settings s.world }) := by
        simp only [takeInterrupt, ready, hs, if_true]
      simp only [if_true]
      rw [Act.bind_of_ok htaken]
      cases hlaunch : host.launch invocation (ready host s.settings s.world) with
      | mk r w =>
        cases r with
        | error cause => exact Act.bind_of_error (inWorld_of_error hlaunch _)
        | ok outcome =>
            refine (Act.bind_of_ok (inWorld_of_ok hlaunch _)).trans ?_
            exact settle_of_interactive (s := { s with world := w }) hs outcome

/-- A line that comes to launch a program does what the launch leads to. -/
theorem tryLine_of_launches {invocation : Invocation} {w : ω}
    (h : Launches host line s invocation w) :
    tryLine host line s =
      match host.launch invocation w with
      | (.error cause, w') => (.error (.launch cause), { s with world := w' })
      | (.ok outcome, w') =>
        match settle host s.settings w' with
        | (.error cause, w'') => (.error (.io cause), { s with world := w'' })
        | (.ok (), w'') => (.ok .proceed, { s with lastStatus := outcome.code, world := w'' }) := by
  have hget : (get : Act (Session ω) SessionError (Session ω)) s = (.ok s, s) := rfl
  obtain ⟨program, prepared, flushed, emptied⟩ := h
  rename_i w₁ w₂
  rw [tryLine_of_programLine program, runProgram, Act.bind_of_ok hget, prepared]
  refine (Act.bind_of_ok (inWorld_of_ok flushed _)).trans ?_
  refine (Act.bind_of_ok (inWorld_of_ok (s := { s with world := w₁ }) emptied _)).trans ?_
  have hlaunch := @launch_eq _ host invocation { s with world := w₂ }
  cases hlaunched : host.launch invocation (ready host s.settings w₂) with
  | mk r w' =>
    rw [hlaunched] at hlaunch
    cases r with
    | error cause => exact Act.bind_of_error hlaunch
    | ok outcome =>
        dsimp only at hlaunch ⊢
        cases hsettled : settle host s.settings w' with
        | mk settled w'' =>
          rw [hsettled] at hlaunch
          cases settled with
          | error cause => exact Act.bind_of_error hlaunch
          | ok _ => exact Act.bind_of_ok hlaunch

/-- **What a line does is what its course says.** -/
theorem Course.tryLine_eq {r : Except SessionError Flow} {s' : Session ω}
    (h : Course host line s r s') : tryLine host line s = (r, s') := by
  have hget : (get : Act (Session ω) SessionError (Session ω)) s = (.ok s, s) := rfl
  cases h with
  | unlexable tokens =>
      rw [tryLine, tokens]
      rfl
  | blank tokens =>
      rw [tryLine, tokens]
      rfl
  | builtin command invoked flushed =>
      rw [tryLine_of_builtinLine command, runBuiltin_of_invoke invoked, flushed]
  | builtinFailed command invoked flushed =>
      rw [tryLine_of_builtinLine command, runBuiltin_of_invoke invoked, flushed]
  | builtinStuck command invoked flushed =>
      rw [tryLine_of_builtinLine command, runBuiltin_of_invoke invoked, flushed]
  | unprepared program prepared =>
      rw [tryLine_of_programLine program, runProgram, Act.bind_of_ok hget, prepared]
      rfl
  | unflushed program prepared flushed =>
      rw [tryLine_of_programLine program, runProgram, Act.bind_of_ok hget, prepared]
      exact Act.bind_of_error (inWorld_of_error flushed _)
  | unemptied program prepared flushed emptied =>
      rw [tryLine_of_programLine program, runProgram, Act.bind_of_ok hget, prepared]
      refine (Act.bind_of_ok (inWorld_of_ok flushed _)).trans ?_
      exact Act.bind_of_error (inWorld_of_error emptied _)
  | unlaunched launches launched => rw [tryLine_of_launches launches, launched]
  | unsettled launches launched settled =>
      rw [tryLine_of_launches launches, launched]
      simp only [settled]
  | ran launches launched settled =>
      rw [tryLine_of_launches launches, launched]
      simp only [settled]

theorem exists_course_of_builtinLine {index : Nat} {name : String} {rest : List String}
    (command : BuiltinLine line index name rest) : ∃ r s', Course host line s r s' := by
  cases invoked : Builtin.invoke host index (name :: rest) s.world with
  | mk answer w =>
    cases flushed : host.flush w with
    | mk r w' =>
      cases r with
      | error cause => exact ⟨_, _, .builtinStuck command invoked flushed⟩
      | ok _ =>
        cases answer with
        | error cause => exact ⟨_, _, .builtinFailed command invoked flushed⟩
        | ok flow => exact ⟨_, _, .builtin command invoked flushed⟩

theorem exists_course_of_launches {invocation : Invocation} {w : ω}
    (launches : Launches host line s invocation w) : ∃ r s', Course host line s r s' := by
  cases launched : host.launch invocation w with
  | mk r w' =>
    cases r with
    | error cause => exact ⟨_, _, .unlaunched launches launched⟩
    | ok outcome =>
      cases settled : settle host s.settings w' with
      | mk r w'' =>
        cases r with
        | error cause => exact ⟨_, _, .unsettled launches launched settled⟩
        | ok _ => exact ⟨_, _, .ran launches launched settled⟩

theorem exists_course_of_programLine {name : String} {rest : List String}
    (program : ProgramLine line name rest) : ∃ r s', Course host line s r s' := by
  cases prepared : prepare host name (name :: rest) s with
  | error cause => exact ⟨_, _, .unprepared program prepared⟩
  | ok invocation =>
    cases flushed : host.flush s.world with
    | mk r w =>
      cases r with
      | error cause => exact ⟨_, _, .unflushed program prepared flushed⟩
      | ok _ =>
        cases emptied : host.flushStandardOutput w with
        | mk r w' =>
          cases r with
          | error cause => exact ⟨_, _, .unemptied program prepared flushed emptied⟩
          | ok _ => exact exists_course_of_launches (.intro program prepared flushed emptied)

/-- **There is no other way for a line to go.** -/
theorem exists_course (host : Host ω) (line : String) (s : Session ω) :
    ∃ r s', Course host line s r s' := by
  cases tokens : tokenize line with
  | error cause => exact ⟨_, _, .unlexable tokens⟩
  | ok words =>
    cases words with
    | nil => exact ⟨_, _, .blank tokens⟩
    | cons name rest =>
      cases found : Builtin.lookup name with
      | some index => exact exists_course_of_builtinLine ⟨tokens, found⟩
      | none => exact exists_course_of_programLine ⟨tokens, found⟩

/-- The course of a line ends with what the line answers. -/
theorem course_tryLine (host : Host ω) (line : String) (s : Session ω) :
    Course host line s (tryLine host line s).1 (tryLine host line s).2 := by
  obtain ⟨r, s', h⟩ := exists_course host line s
  rwa [h.tryLine_eq]

/-- A line whose built-in command answers, and whose output is handed on. -/
theorem executeLine_of_builtin {index : Nat} {name : String} {rest : List String} {flow : Flow}
    {w w' : ω} (command : BuiltinLine line index name rest)
    (invoked : Builtin.invoke host index (name :: rest) s.world = (.ok flow, w))
    (flushed : host.flush w = (.ok (), w')) :
    executeLine host line s = (flow, { s with lastStatus := 0, world := w' }) := by
  rw [executeLine, (Course.builtin command invoked flushed).tryLine_eq]

/-- `pwd` writes the path of the working directory on a line. -/
theorem executeLine_pwd {rest : List String} (tokens : tokenize line = .ok ("pwd" :: rest))
    {path : String} {w w' : ω} (located : host.workingDirectory s.world = .ok (Utf8.encode path))
    (printed : Builtin.writePieces host [path, "\n"] s.world = (.ok (), w))
    (flushed : host.flush w = (.ok (), w')) :
    executeLine host line s = (.proceed, { s with lastStatus := 0, world := w' }) := by
  have hprint : Builtin.printDirectory host s.world = (.ok (), w) := by
    have hget : (get : Act ω BuiltinError ω) s.world = (.ok s.world, s.world) := rfl
    rw [Builtin.printDirectory, Act.bind_of_ok hget, located]
    dsimp only
    rw [Utf8.decodeLossy_encode, printed]
  have hinvoke : Builtin.invoke host 3 ("pwd" :: rest) s.world = (.ok .proceed, w) :=
    Act.bind_of_ok hprint
  exact executeLine_of_builtin ⟨tokens, rfl⟩ hinvoke flushed

/-- A line without tokens does nothing. -/
theorem executeLine_of_blank (h : tokenize line = .ok []) (s : Session ω) :
    executeLine host line s = (.proceed, s) := by
  have hcourse : Course host line s (.ok .proceed) s := .blank h
  rw [executeLine, hcourse.tryLine_eq]

end Session

end LineShell
