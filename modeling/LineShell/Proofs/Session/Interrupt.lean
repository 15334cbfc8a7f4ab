/-
**Interrupts between lines.**

An interrupt raises a flag of the process, and asking whether one came lowers it.  Only an
interactive session asks, and it asks twice: before a program, where the answer is forgotten, and
after it.  So an interrupt that came before the program began is never taken for one that came
during the program.

It follows that interactive sessions and others do the same on the same lines, wherever interrupts
come between the lines: the answers, the output, the programs and the surroundings are equal.  The
two differ in the flag alone.  A session that is not interactive leaves it as it is; an interactive
one lowers it with every launch, also one that fails, and with nothing else.

The surroundings are those of any host.  The flag and the list of the launches are kept beside them,
where nothing but an interrupt, the question and a launch can reach.

Main definitions:

* `LineShell.Watch`, `LineShell.Host.watching` — the flag and the launches, and the host that keeps
  them;
* `LineShell.Session.Happening`, `LineShell.Session.meetAll` — lines and interrupts, in any order;
* `LineShell.Session.Abreast` — two sessions that differ in the flag alone, one of them interactive.

Main results:

* `LineShell.Session.exists_executeLine_watching` — a line does what it does without being watched,
  and launches one program or none;
* `LineShell.Session.Abreast.meet` — one line, or one interrupt;
* `LineShell.Session.interactive_changes_no_line` — **any number of them**.
-/

import LineShell.Proofs.Session.Frame

set_option autoImplicit false

namespace LineShell

/-! ### What is watched -/

/-- What is kept beside the surroundings of a session. -/
structure Watch where
  /-- An interrupt came since the question was last asked. -/
  interrupted : Bool
  /-- The launches, in order. -/
  launched : List Invocation

namespace Watch

/-- What is watched after a line that launched a program, or none. -/
def after (launch : Option Invocation) (interactive : Bool) (k : Watch) : Watch :=
  match launch with
  | none => k
  | some invocation => ⟨k.interrupted && !interactive, k.launched ++ [invocation]⟩

theorem launched_after (launch : Option Invocation) (interactive : Bool) (k : Watch) :
    (k.after launch interactive).launched = k.launched ++ launch.toList := by
  cases launch with
  | none => exact (List.append_nil _).symm
  | some invocation => rfl

/-- Nothing is asked unless the session is interactive. -/
theorem interrupted_after_false (launch : Option Invocation) (k : Watch) :
    (k.after launch false).interrupted = k.interrupted := by
  cases launch with
  | none => rfl
  | some invocation => exact Bool.and_true _

/-- An interactive session asks with every launch, and at no other time. -/
theorem after_true (launch : Option Invocation) (k : Watch) :
    ((k.after launch true).launched = k.launched ∧
        (k.after launch true).interrupted = k.interrupted) ∨
      ∃ invocation, (k.after launch true).launched = k.launched ++ [invocation] ∧
        (k.after launch true).interrupted = false := by
  cases launch with
  | none => exact .inl ⟨rfl, rfl⟩
  | some invocation => exact .inr ⟨invocation, rfl, Bool.and_false _⟩

end Watch

/-- The host whose process has a flag that asking for an interrupt lowers, and that keeps a list of
the launches, whatever they answer.  All else happens in the surroundings. -/
def Host.watching {ω : Type} (host : Host ω) : Host (Watch × ω) where
  probe s := host.probe s.2
  workingDirectory s := host.workingDirectory s.2
  changeDirectory path := (host.changeDirectory path).within
  write bytes := (host.write bytes).within
  flush := host.flush.within
  flushStandardOutput := host.flushStandardOutput.within
  diagnose text s := (s.1, host.diagnose text s.2)
  launch invocation := fun (k, w) =>
    match host.launch invocation w with
    | (r, w') => (r, { k with launched := k.launched ++ [invocation] }, w')
  takeInterrupt s := (s.1.interrupted, { s.1 with interrupted := false }, s.2)

theorem Host.launch_watching {ω : Type} {host : Host ω} {invocation : Invocation} {w w' : ω}
    {r : Except LaunchError Outcome} (h : host.launch invocation w = (r, w')) (k : Watch) :
    host.watching.launch invocation (k, w) =
      (r, { k with launched := k.launched ++ [invocation] }, w') := by
  simp only [Host.watching, h]

theorem Host.extends_watching {ω : Type} (host : Host ω) : host.watching.Extends host where
  probe _ := rfl
  workingDirectory _ := rfl
  changeDirectory _ := rfl
  write _ := rfl
  flush := rfl
  flushStandardOutput := rfl

namespace Session

variable {ω κ : Type}

/-- The session as one that is interactive, or as one that is not. -/
def interactively (interactive : Bool) (s : Session ω) : Session ω :=
  { s with settings := { s.settings with interactive := interactive } }

/-! ### One line -/

section

variable {host : Host ω} {line : String} {s s' : Session ω} {r : Except SessionError Flow}
variable {invocation : Invocation} {w : ω}

/-- A line that launches no program goes as it goes without being watched. -/
theorem Course.watching (h : Course host line s r s')
    (hnone : ∀ invocation w, ¬ Launches host line s invocation w) (interactive : Bool) (k : Watch) :
    Course host.watching line ((s.interactively interactive).beside k) r
      ((s'.interactively interactive).beside k) := by
  cases h with
  | unlexable tokens => exact .unlexable tokens
  | blank tokens => exact .blank tokens
  | builtin command invoked flushed =>
      exact .builtin command (host.extends_watching.invoke_of_eq invoked k)
        (Act.within_of_eq flushed k)
  | builtinFailed command invoked flushed =>
      exact .builtinFailed command (host.extends_watching.invoke_of_eq invoked k)
        (Act.within_of_eq flushed k)
  | builtinStuck command invoked flushed =>
      exact .builtinStuck command (host.extends_watching.invoke_of_eq invoked k)
        (Act.within_of_eq flushed k)
  | unprepared program prepared => exact .unprepared program prepared
  | unflushed program prepared flushed =>
      exact .unflushed program prepared (Act.within_of_eq flushed k)
  | unemptied program prepared flushed emptied =>
      exact .unemptied program prepared (Act.within_of_eq flushed k) (Act.within_of_eq emptied k)
  | unlaunched launches launched => exact absurd launches (hnone _ _)
  | unsettled launches launched settled => exact absurd launches (hnone _ _)
  | ran launches launched settled => exact absurd launches (hnone _ _)

/-- A line that comes to launch a program does so if it is watched; an interactive session has
lowered the flag by then. -/
theorem Launches.watching (h : Launches host line s invocation w)
    (hs : s.settings.interactive = false) (interactive : Bool) (k : Watch) :
    Launches host.watching line ((s.interactively interactive).beside k) invocation
      ({ k with interrupted := k.interrupted && !interactive }, w) := by
  obtain ⟨program, prepared, flushed, emptied⟩ := h
  rename_i name rest w₁ w₂
  have hready : ready host s.settings w₂ = w₂ := by
    rw [ready, hs]
    rfl
  have hwatching : ready host.watching ((s.interactively interactive).beside k).settings (k, w₂) =
      ({ k with interrupted := k.interrupted && !interactive }, w₂) := by
    cases interactive with
    | false => exact congrArg (fun b => (Watch.mk b k.launched, w₂)) (Bool.and_true _).symm
    | true => exact congrArg (fun b => (Watch.mk b k.launched, w₂)) (Bool.and_false _).symm
  have hlaunches : Launches host.watching line ((s.interactively interactive).beside k) invocation
      (ready host.watching ((s.interactively interactive).beside k).settings (k, w₂)) :=
    .intro program prepared (Act.within_of_eq flushed k) (Act.within_of_eq emptied k)
  rwa [hwatching, ← hready] at hlaunches

/-- With the flag lowered, no new line is begun after a program. -/
theorem settle_watching {settings : Settings} {k : Watch}
    (h : settings.interactive = true → k.interrupted = false) (w : ω) :
    settle host.watching settings (k, w) = (.ok (), k, w) := by
  unfold settle
  cases hs : settings.interactive with
  | false => rfl
  | true =>
      obtain ⟨interrupted, launched⟩ := k
      cases h hs
      rfl

/-- A line that launches a program does what it does without being watched. -/
theorem tryLine_watching_of_launches (h : Launches host line s invocation w)
    (hs : s.settings.interactive = false) (interactive : Bool) (k : Watch) :
    tryLine host.watching line ((s.interactively interactive).beside k) =
      ((tryLine host line s).1, ((tryLine host line s).2.interactively interactive).beside
        (k.after (some invocation) interactive)) := by
  rw [tryLine_of_launches (h.watching hs interactive k), tryLine_of_launches h]
  cases hlaunch : host.launch invocation w with
  | mk r w' =>
    rw [Host.launch_watching hlaunch]
    cases r with
    | error cause => rfl
    | ok outcome =>
        have hquiet : settle host s.settings w' = (.ok (), w') := by
          rw [settle, hs]
          rfl
        have hsettle : settle host.watching ((s.interactively interactive).beside k).settings
            (k.after (some invocation) interactive, w') =
              (.ok (), k.after (some invocation) interactive, w') := by
          refine settle_watching (fun hinteractive => ?_) w'
          cases hinteractive
          exact Bool.and_false _
        rw [Watch.after] at hsettle
        simp only [hsettle, hquiet]
        rfl

/-- A line does what it does without being watched; whatever the session, it launches the same
program, or none. -/
theorem exists_tryLine_watching (host : Host ω) (line : String)
    (hs : s.settings.interactive = false) :
    ∃ launch, ∀ interactive k,
      tryLine host.watching line ((s.interactively interactive).beside k) =
        ((tryLine host line s).1, ((tryLine host line s).2.interactively interactive).beside
          (k.after launch interactive)) := by
  by_cases hlaunches : ∃ invocation w, Launches host line s invocation w
  · obtain ⟨invocation, w, h⟩ := hlaunches
    exact ⟨some invocation, tryLine_watching_of_launches h hs⟩
  · have hnone : ∀ invocation w, ¬ Launches host line s invocation w :=
      fun invocation w h => hlaunches ⟨invocation, w, h⟩
    refine ⟨none, fun interactive k => ?_⟩
    exact ((course_tryLine host line s).watching hnone interactive k).tryLine_eq

/-- **The same of a line whose failure is reported.** -/
theorem exists_executeLine_watching (host : Host ω) (line : String)
    (hs : s.settings.interactive = false) :
    ∃ launch, ∀ interactive k,
      executeLine host.watching line ((s.interactively interactive).beside k) =
        ((executeLine host line s).1, ((executeLine host line s).2.interactively interactive).beside
          (k.after launch interactive)) := by
  obtain ⟨launch, htry⟩ := exists_tryLine_watching host line hs
  refine ⟨launch, fun interactive k => ?_⟩
  rw [executeLine, executeLine, htry]
  cases hline : tryLine host line s with
  | mk r s' =>
    cases r with
    | ok flow => rfl
    | error cause => rfl

end

/-! ### Lines and interrupts -/

/-- What can happen to a session. -/
inductive Happening where
  /-- It is given a line. -/
  | line (text : String)
  /-- An interrupt comes, between two lines. -/
  | interrupt

/-- What a session answers, and the session afterwards. -/
def meet (host : Host (Watch × ω)) (happening : Happening) (s : Session (Watch × ω)) :
    List Flow × Session (Watch × ω) :=
  match happening with
  | .line text => ([(executeLine host text s).1], (executeLine host text s).2)
  | .interrupt =>
    ([], { s with world := ({ s.world.1 with interrupted := true }, s.world.2) })

/-- All answers, and the session after all that happened. -/
def meetAll (host : Host (Watch × ω)) :
    List Happening → Session (Watch × ω) → List Flow × Session (Watch × ω)
  | [], s => ([], s)
  | happening :: rest, s =>
    ((meet host happening s).1 ++ (meetAll host rest (meet host happening s).2).1,
      (meetAll host rest (meet host happening s).2).2)

/-- Two sessions, the second of them interactive, that are alike but for the flag. -/
structure Abreast (quiet shown : Session (Watch × ω)) : Prop where
  /-- The first is not interactive. -/
  notInteractive : quiet.settings.interactive = false
  /-- The second is interactive, with the same settings otherwise. -/
  settings : shown.settings = { quiet.settings with interactive := true }
  /-- They have taken as many lines. -/
  lineNumber : shown.lineNumber = quiet.lineNumber
  /-- They have recorded the same status. -/
  lastStatus : shown.lastStatus = quiet.lastStatus
  /-- They have launched the same programs. -/
  launched : shown.world.1.launched = quiet.world.1.launched
  /-- Their surroundings are the same. -/
  world : shown.world.2 = quiet.world.2

theorem abreast_interactively (s : Session (Watch × ω)) :
    Abreast (s.interactively false) (s.interactively true) :=
  ⟨rfl, rfl, rfl, rfl, rfl, rfl⟩

theorem abreast_beside {s : Session ω} {k k' : Watch} (h : k'.launched = k.launched) :
    Abreast ((s.interactively false).beside k) ((s.interactively true).beside k') :=
  ⟨rfl, rfl, rfl, rfl, h, rfl⟩

section

variable {host : Host ω} {quiet shown : Session (Watch × ω)}

/-- Both are the same session of the surroundings, made interactive or not, with what is watched
beside it. -/
theorem Abreast.exists_eq (h : Abreast quiet shown) :
    ∃ s : Session ω, s.settings.interactive = false ∧
      quiet = (s.interactively false).beside quiet.world.1 ∧
      shown = (s.interactively true).beside shown.world.1 := by
  refine ⟨⟨quiet.settings, quiet.lineNumber, quiet.lastStatus, quiet.world.2⟩, h.notInteractive,
    ?_, ?_⟩
  · show quiet = ⟨{ quiet.settings with interactive := false }, quiet.lineNumber, quiet.lastStatus,
      quiet.world⟩
    rw [← h.notInteractive]
  · show shown = ⟨{ quiet.settings with interactive := true }, quiet.lineNumber, quiet.lastStatus,
      shown.world.1, quiet.world.2⟩
    rw [← h.settings, ← h.lineNumber, ← h.lastStatus, ← h.world]

/-- **One line**: both answer the same and stay abreast.  The flag of the first stays, and that of
the second is lowered exactly if a program is launched. -/
theorem Abreast.executeLine (h : Abreast quiet shown) (line : String) :
    ∃ launch,
      (Session.executeLine host.watching line shown).1 =
        (Session.executeLine host.watching line quiet).1 ∧
      Abreast (Session.executeLine host.watching line quiet).2
        (Session.executeLine host.watching line shown).2 ∧
      (Session.executeLine host.watching line quiet).2.world.1 =
        quiet.world.1.after launch false ∧
      (Session.executeLine host.watching line shown).2.world.1 =
        shown.world.1.after launch true := by
  obtain ⟨s, hs, hquiet, hshown⟩ := h.exists_eq
  obtain ⟨launch, hline⟩ := exists_executeLine_watching host line hs
  have hlaunched : (shown.world.1.after launch true).launched =
      (quiet.world.1.after launch false).launched := by
    rw [Watch.launched_after, Watch.launched_after, h.launched]
  have hquiet' := hline false quiet.world.1
  have hshown' := hline true shown.world.1
  rw [← hquiet] at hquiet'
  rw [← hshown] at hshown'
  rw [hquiet', hshown']
  exact ⟨launch, rfl, abreast_beside hlaunched, rfl, rfl⟩

/-- **One line, or one interrupt.** -/
theorem Abreast.meet (h : Abreast quiet shown) (happening : Happening) :
    (Session.meet host.watching happening shown).1 =
        (Session.meet host.watching happening quiet).1 ∧
      Abreast (Session.meet host.watching happening quiet).2
        (Session.meet host.watching happening shown).2 := by
  cases happening with
  | interrupt => exact ⟨rfl, h.1, h.2, h.3, h.4, h.5, h.6⟩
  | line text =>
      obtain ⟨_, hflow, habreast, -, -⟩ := @Abreast.executeLine _ host _ _ h text
      exact ⟨congrArg (fun flow => [flow]) hflow, habreast⟩

/-- Any number of lines and interrupts. -/
theorem Abreast.meetAll (h : Abreast quiet shown) (happenings : List Happening) :
    (Session.meetAll host.watching happenings shown).1 =
        (Session.meetAll host.watching happenings quiet).1 ∧
      Abreast (Session.meetAll host.watching happenings quiet).2
        (Session.meetAll host.watching happenings shown).2 := by
  -- both sessions change, so the induction is for any two that are abreast
  induction happenings generalizing quiet shown with
  | nil => exact ⟨rfl, h⟩
  | cons happening rest ih =>
      obtain ⟨hflows, hnext⟩ := @Abreast.meet _ host _ _ h happening
      obtain ⟨hrest, hlast⟩ := ih hnext
      refine ⟨?_, hlast⟩
      rw [Session.meetAll, Session.meetAll, hflows, hrest]

end

/-- **Being interactive changes no line.**  Whatever lines are given to a session and wherever
interrupts come between them, an interactive session and one that is not answer the same, write the
same, record the same and number the lines alike; they launch the same programs and leave the same
surroundings.  After that a line leaves the flag as it is, unless it launches a program in the
interactive session; then the flag is lowered, whatever the launch answers. -/
theorem interactive_changes_no_line (host : Host ω) (writer : Writer κ)
    (happenings : List Happening) (s : Session (Watch × κ × ω)) :
    let watching := (host.writingTo writer).watching
    let quiet := meetAll watching happenings (s.interactively false)
    let shown := meetAll watching happenings (s.interactively true)
    shown.1 = quiet.1 ∧ Abreast quiet.2 shown.2 ∧
      ∀ line,
        let quiet' := (executeLine watching line quiet.2).2
        let shown' := (executeLine watching line shown.2).2
        quiet'.world.1.interrupted = quiet.2.world.1.interrupted ∧
          ((shown'.world.1.launched = shown.2.world.1.launched ∧
              shown'.world.1.interrupted = shown.2.world.1.interrupted) ∨
            ∃ invocation,
              shown'.world.1.launched = shown.2.world.1.launched ++ [invocation] ∧
                shown'.world.1.interrupted = false) := by
  intro watching quiet shown
  obtain ⟨hflows, habreast⟩ :=
    @Abreast.meetAll _ (host.writingTo writer) _ _ (abreast_interactively s) happenings
  refine ⟨hflows, habreast, fun line => ?_⟩
  intro quiet' shown'
  obtain ⟨launch, -, -, hquiet, hshown⟩ :=
    @Abreast.executeLine _ (host.writingTo writer) _ _ habreast line
  have hquiet' : quiet'.world.1 = quiet.2.world.1.after launch false := hquiet
  have hshown' : shown'.world.1 = shown.2.world.1.after launch true := hshown
  rw [hquiet', hshown']
  exact ⟨Watch.interrupted_after_false launch _, Watch.after_true launch _⟩

end Session

end LineShell
