/-
**The working directory.**

Only `cd` changes the working directory.  If the directory that it names cannot be entered, the line
fails and the working directory is the one before.

A line can also fail after `cd` has entered a directory.  What the session wrote earlier is handed
on before the line answers; if that fails, so does the line, and the new directory stays the working
directory.  There is no other way for a line that fails to change it.

What is shown holds for anything that can be asked of the surroundings about the working directory,
as long as they change it nowhere but where they are asked to.

Main definitions:

* `LineShell.Host.KeepsDirectory` — surroundings that change the working directory only on request;
* `LineShell.Builtin.Enters`, `LineShell.Session.Enters` — the tokens, or the line, enter a
  directory.

Main results:

* `LineShell.Builtin.directory_invoke` — a built-in command that enters no directory changes none;
* `LineShell.Session.tryLine_of_enters`, `LineShell.Session.Enters.directory_eq`,
  `LineShell.Session.directory_of_not_enters` — a line that enters a directory, and one that does
  not;
* `LineShell.Session.directory_after_line` — **when a line leaves another working directory**.
-/

import LineShell.Machine.Boot
import LineShell.Machine.Host
import LineShell.Proofs.Session.Frame
import LineShell.Proofs.Token.Scan

set_option autoImplicit false

namespace LineShell

/-! ### Surroundings that keep the working directory -/

/-- The surroundings change the working directory nowhere but where they are asked to, and a change
that fails changes nothing.  What is asked about the working directory can be anything. -/
structure Host.KeepsDirectory {ω δ : Type} (host : Host ω) (directory : ω → δ) : Prop where
  /-- A directory that cannot be entered does not become the working directory. -/
  changeDirectory : ∀ {path : CString} {w w' : ω} {e : IoError},
    host.changeDirectory path w = (.error e, w') → directory w' = directory w
  /-- Writing does not change it. -/
  write : ∀ bytes, (host.write bytes).Leaves directory
  /-- Handing on what was written does not change it. -/
  flush : host.flush.Leaves directory
  /-- Neither does handing on what the process holds back. -/
  flushStandardOutput : host.flushStandardOutput.Leaves directory
  /-- A program has a working directory of its own. -/
  launch : ∀ invocation, (host.launch invocation).Leaves directory
  /-- Asking for an interrupt does not change it. -/
  takeInterrupt : ∀ w, directory (host.takeInterrupt w).2 = directory w

/-- A receiver of output has no working directory to change, whatever it does. -/
theorem Host.KeepsDirectory.writingTo {ω δ κ : Type} {host : Host ω} {directory : ω → δ}
    (h : host.mute.KeepsDirectory directory) (writer : Writer κ) :
    (host.writingTo writer).KeepsDirectory fun s => directory s.2 where
  changeDirectory {path} s s' e hchange := by
    obtain ⟨k, w⟩ := s
    have hfailed : ∃ w', host.changeDirectory path w = (.error e, w') ∧ s' = (k, w') := by
      cases hrun : host.changeDirectory path w with
      | mk r w' =>
        have hwithin : (host.writingTo writer).changeDirectory path (k, w) = (r, k, w') :=
          Act.within_of_eq hrun k
        cases hwithin.symm.trans hchange
        exact ⟨w', rfl, rfl⟩
    obtain ⟨w', hrun, rfl⟩ := hfailed
    exact h.changeDirectory hrun
  write bytes := fun _ => rfl
  flush := fun _ => rfl
  flushStandardOutput := fun s => h.flushStandardOutput s.2
  launch invocation := fun s => h.launch invocation s.2
  takeInterrupt s := h.takeInterrupt s.2

/-! ### Built-in commands -/

namespace Builtin

variable {ω δ : Type}

/-- The tokens call `cd`, and the directory that they name is entered. -/
def Enters (host : Host ω) (tokens : List String) (w w' : ω) : Prop :=
  ∃ (directory : String) (path : CString) (rest : List String),
    tokens = "cd" :: directory :: rest ∧ CString.ofString directory = .ok path ∧
      host.changeDirectory path w = (.ok (), w')

/-- Entering a directory is all that the command does. -/
theorem invoke_of_enters {host : Host ω} {tokens : List String} {w w' : ω}
    (h : Enters host tokens w w') : invoke host 4 tokens w = (.ok .proceed, w') := by
  obtain ⟨directory, path, rest, rfl, hpath, hchange⟩ := h
  have hargument : ¬ ("cd" :: directory :: rest).length - 1 < Builtin.cd.leastArguments := by
    simp [leastArguments]
  have henter : enterDirectory host directory w = (.ok (), w') := by
    rw [enterDirectory, hpath]
    exact Act.mapError_of_ok hchange _
  have hcommand : table[4]? = some .cd := rfl
  rw [invoke, hcommand]
  dsimp only
  rw [if_neg hargument]
  exact Act.bind_of_ok henter

section

variable {host : Host ω} {directory : ω → δ} (hkeeps : host.KeepsDirectory directory)

include hkeeps

/-- **A built-in command that enters no directory changes none.** -/
theorem directory_invoke {index : Nat} {name : String} {rest : List String} {w : ω}
    (found : lookup name = some index) (hnot : ∀ w', ¬ Enters host (name :: rest) w w') :
    directory (invoke host index (name :: rest) w).2 = directory w := by
  obtain ⟨command, hcommand, rfl⟩ := (lookup_eq_some_iff name index).1 found
  rw [invoke, hcommand]
  dsimp only
  split
  · rfl
  · cases command with
    | question => exact ((leaves_writePieces hkeeps.write _).bind fun _ => Act.leaves_pure _) w
    | help => exact ((leaves_writePieces hkeeps.write _).bind fun _ => Act.leaves_pure _) w
    | exit => rfl
    | pwd => exact ((leaves_printDirectory hkeeps.write).bind fun _ => Act.leaves_pure _) w
    | cd =>
      cases rest with
      | nil => rfl
      | cons name rest =>
        -- either the name is none, or the directory cannot be entered
        cases hpath : CString.ofString name with
        | error e =>
            have henter : enterDirectory host name w =
                (.error (.changeDirectory name .nulInPath), w) := by
              rw [enterDirectory, hpath]
              rfl
            rw [perform, Act.bind_of_error henter]
        | ok path =>
          cases hchange : host.changeDirectory path w with
          | mk r w' =>
            cases r with
            | ok _ => exact absurd ⟨name, path, rest, rfl, hpath, hchange⟩ (hnot w')
            | error e =>
                have henter : enterDirectory host name w =
                    (.error (.changeDirectory name e), w') := by
                  rw [enterDirectory, hpath]
                  exact Act.mapError_of_error hchange _
                rw [perform, Act.bind_of_error henter]
                exact hkeeps.changeDirectory hchange

end

end Builtin

namespace Session

variable {κ ω δ : Type}

/-! ### Lines -/

/-- The line calls `cd`, and the directory that it names is entered. -/
def Enters (host : Host ω) (line : String) (s : Session ω) (w : ω) : Prop :=
  ∃ tokens, tokenize line = .ok tokens ∧ Builtin.Enters host tokens s.world w

section

variable {host : Host ω} {line : String} {s : Session ω}

/-- A line that enters a directory has done so before its output is handed on, whether or not that
fails. -/
theorem tryLine_of_enters {w : ω} (h : Enters host line s w) :
    tryLine host line s =
      match host.flush w with
      | (.error cause, w') => (.error (.io cause), { s with world := w' })
      | (.ok (), w') => (.ok .proceed, { s with lastStatus := 0, world := w' }) := by
  obtain ⟨tokens, htokens, henters⟩ := h
  have hinvoke := Builtin.invoke_of_enters henters
  obtain ⟨directory, path, rest, rfl, -, -⟩ := henters
  have command : BuiltinLine line 4 "cd" (directory :: rest) := ⟨htokens, by decide⟩
  rw [tryLine_of_builtinLine command, runBuiltin_of_invoke hinvoke]
  cases host.flush w with
  | mk r w' =>
    cases r with
    | error cause => rfl
    | ok _ => rfl

/-- If such a line fails, its output could not be handed on. -/
theorem Enters.flush_of_error {w : ω} (h : Enters host line s w) {cause : SessionError}
    (hfailed : (tryLine host line s).1 = .error cause) :
    ∃ e, (host.flush w).1 = .error e ∧ cause = .io e := by
  rw [tryLine_of_enters h] at hfailed
  cases hflush : host.flush w with
  | mk r w' =>
    rw [hflush] at hfailed
    cases r with
    | ok _ => cases hfailed
    | error e =>
        cases hfailed
        exact ⟨e, rfl, rfl⟩

/-- If its output cannot be handed on, such a line fails. -/
theorem Enters.tryLine_of_flush_error {w : ω} (h : Enters host line s w) {e : IoError}
    (hstuck : (host.flush w).1 = .error e) : (tryLine host line s).1 = .error (.io e) := by
  rw [tryLine_of_enters h]
  cases hflush : host.flush w with
  | mk r w' =>
    rw [hflush] at hstuck
    cases hstuck
    rfl

variable {directory : ω → δ}

/-- The directory that is entered is the working directory after the line, however that goes. -/
theorem Enters.directory_eq (hkeeps : host.KeepsDirectory directory) {w : ω}
    (h : Enters host line s w) : directory (tryLine host line s).2.world = directory w := by
  have hleft : directory (host.flush w).2 = directory w := hkeeps.flush w
  rw [tryLine_of_enters h]
  cases hflush : host.flush w with
  | mk r w' =>
    rw [hflush] at hleft
    cases r with
    | error e => exact hleft
    | ok _ => exact hleft

theorem leaves_settle (hkeeps : host.KeepsDirectory directory) (settings : Settings) :
    (settle host settings).Leaves directory := by
  intro w
  unfold settle
  split
  · have htaken := hkeeps.takeInterrupt w
    cases hinterrupt : host.takeInterrupt w with
    | mk interrupted w' =>
      rw [hinterrupt] at htaken
      cases interrupted with
      | false => exact htaken
      | true => exact (((hkeeps.write _).bind fun _ => hkeeps.flush) w').trans htaken
  · rfl

theorem directory_ready (hkeeps : host.KeepsDirectory directory) (settings : Settings) (w : ω) :
    directory (ready host settings w) = directory w := by
  unfold ready
  split
  · exact hkeeps.takeInterrupt w
  · rfl

theorem Launches.directory_eq (hkeeps : host.KeepsDirectory directory) {invocation : Invocation}
    {w : ω} (h : Launches host line s invocation w) : directory w = directory s.world := by
  obtain ⟨-, -, flushed, emptied⟩ := h
  rw [directory_ready hkeeps, hkeeps.flushStandardOutput.eq emptied, hkeeps.flush.eq flushed]

/-- **Any other line leaves the working directory as it was**, however it goes. -/
theorem Course.directory_eq (hkeeps : host.KeepsDirectory directory)
    (hnot : ∀ w, ¬ Enters host line s w) {r : Except SessionError Flow} {s' : Session ω}
    (h : Course host line s r s') : directory s'.world = directory s.world := by
  have hbuiltin : ∀ {index name rest answer w}, BuiltinLine line index name rest →
      Builtin.invoke host index (name :: rest) s.world = (answer, w) →
      directory w = directory s.world := by
    intro index name rest answer w command invoked
    have hleft := Builtin.directory_invoke hkeeps command.found
      fun w' henters => hnot w' ⟨_, command.tokens, henters⟩
    rwa [invoked] at hleft
  cases h with
  | unlexable tokens => rfl
  | blank tokens => rfl
  | builtin command invoked flushed =>
      exact (hkeeps.flush.eq flushed).trans (hbuiltin command invoked)
  | builtinFailed command invoked flushed =>
      exact (hkeeps.flush.eq flushed).trans (hbuiltin command invoked)
  | builtinStuck command invoked flushed =>
      exact (hkeeps.flush.eq flushed).trans (hbuiltin command invoked)
  | unprepared program prepared => rfl
  | unflushed program prepared flushed => exact hkeeps.flush.eq flushed
  | unemptied program prepared flushed emptied =>
      exact (hkeeps.flushStandardOutput.eq emptied).trans (hkeeps.flush.eq flushed)
  | unlaunched launches launched =>
      exact ((hkeeps.launch _).eq launched).trans (launches.directory_eq hkeeps)
  | unsettled launches launched settled =>
      have hlaunched := ((hkeeps.launch _).eq launched).trans (launches.directory_eq hkeeps)
      exact ((leaves_settle hkeeps _).eq settled).trans hlaunched
  | ran launches launched settled =>
      have hlaunched := ((hkeeps.launch _).eq launched).trans (launches.directory_eq hkeeps)
      exact ((leaves_settle hkeeps _).eq settled).trans hlaunched

theorem directory_of_not_enters (hkeeps : host.KeepsDirectory directory)
    (hnot : ∀ w, ¬ Enters host line s w) :
    directory (tryLine host line s).2.world = directory s.world :=
  (course_tryLine host line s).directory_eq hkeeps hnot

end

/-! ### The working directory of a machine -/

/-- Programs apart, a machine changes its working directory only on request. -/
theorem keepsDirectory_machine {launch : Invocation → Act Machine.State LaunchError Outcome}
    (hlaunch : ∀ invocation, (launch invocation).Leaves fun m => m.process.directory) :
    ({ Machine.host with launch := launch } : Host Machine.State).mute.KeepsDirectory
      fun m => m.process.directory where
  changeDirectory {path} m m' e hchange := by
    have hrun : Machine.whileAlive () (Machine.changeDirectory path) m = (.error e, m') := hchange
    unfold Machine.whileAlive Machine.changeDirectory at hrun
    split at hrun
    · split at hrun
      · cases hrun
        rfl
      · split at hrun
        · cases hrun
        · cases hrun
          rfl
    · cases hrun
  write bytes := fun _ => rfl
  flush := fun _ => rfl
  flushStandardOutput := fun _ => rfl
  launch := hlaunch
  takeInterrupt _ := rfl

/-- A directory that a path leads to is entered. -/
theorem changeDirectory_machine {m : Machine.State} {path : CString} {n : Nat}
    (halive : m.isAlive = true) (hlocate : m.locate path.bytes = .ok n)
    (hdirectory : m.tree.isDirectory n = true) :
    Machine.host.changeDirectory path m =
      (.ok (), m.modifyProcess ({ · with directory := n })) := by
  show Machine.whileAlive () (Machine.changeDirectory path) m = _
  simp only [Machine.whileAlive, Machine.changeDirectory, halive, hlocate, hdirectory, if_true]

/-! ### Lines that fail -/

/-- **When a line leaves another working directory.**  A line that fails leaves the working
directory as it was, unless it is a `cd` that entered a directory and the output could not be handed
on after that; then the line fails with that cause, and the directory that was entered stays the
working directory.  And no line changes it but one whose first token is `cd`. -/
theorem directory_after_line {host : Host ω} {directory : ω → δ}
    (hkeeps : host.mute.KeepsDirectory directory) (writer : Writer κ) (line : String)
    (s : Session (κ × ω)) :
    let writing := host.writingTo writer
    let answer := (tryLine writing line s).1
    let after := (tryLine writing line s).2
    (∀ cause, answer = .error cause →
      directory after.world.2 = directory s.world.2 ∨
        ∃ w e, Enters writing line s w ∧ (writing.flush w).1 = .error e ∧ cause = .io e) ∧
      (∀ w e, Enters writing line s w → (writing.flush w).1 = .error e →
        answer = .error (.io e) ∧ directory after.world.2 = directory w.2) ∧
      (directory after.world.2 ≠ directory s.world.2 →
        ∃ rest, tokenize line = .ok ("cd" :: rest)) := by
  intro writing answer after
  have hwriting : writing.KeepsDirectory fun s => directory s.2 := hkeeps.writingTo writer
  have hstays : (¬ ∃ w, Enters writing line s w) →
      directory after.world.2 = directory s.world.2 := by
    intro hnot
    exact directory_of_not_enters hwriting fun w henters => hnot ⟨w, henters⟩
  refine ⟨?_, ?_, ?_⟩
  · intro cause hfailed
    by_cases hcd : ∃ w, Enters writing line s w
    · obtain ⟨w, henters⟩ := hcd
      obtain ⟨e, hflush, hcause⟩ := henters.flush_of_error hfailed
      exact .inr ⟨w, e, henters, hflush, hcause⟩
    · exact .inl (hstays hcd)
  · intro w e henters hflush
    exact ⟨henters.tryLine_of_flush_error hflush, henters.directory_eq hwriting⟩
  · intro hmoved
    by_cases hcd : ∃ w, Enters writing line s w
    · obtain ⟨w, tokens, htokens, name, path, rest, rfl, -, -⟩ := hcd
      exact ⟨name :: rest, htokens⟩
    · exact absurd (hstays hcd) hmoved

/-- A directory that is entered by a line that fails, since what was written before cannot be handed
on. -/
theorem directory_after_line_stuck :
    let host : Host Machine.State :=
      { Machine.host with launch := fun _ => throw (.forkFailed Errno.interrupted) }
    let tree : Machine.FileTree := ⟨#[.directory [(Utf8.encode "d", 1)] 0, .directory [] 0]⟩
    let s : Session (Sink × Machine.State) :=
      .start {} (.empty none true, Machine.boot tree .null [] Machine.FileTree.root)
    let line := tryLine (host.writingTo Sink.writer) "cd d" s
    host.mute.KeepsDirectory (fun m => m.process.directory) ∧
      line.1 = .error (.io Sink.stuck) ∧ s.world.2.process.directory = 0 ∧
      line.2.world.2.process.directory = 1 := by
  intro host tree s line
  have hkeeps : host.mute.KeepsDirectory fun m => m.process.directory :=
    keepsDirectory_machine fun _ => Act.leaves_throw _
  have htokens : tokenize "cd d" = .ok ["cd", "d"] :=
    @tokenize_of_scan "cd d" ["cd".toList, "d".toList] rfl
  have hplain : Machine.State.descriptorOf (Utf8.encode "d") = none := rfl
  have hthere : s.world.2.tree.follow Machine.FileTree.maxLinks 1 [] = .ok 1 := by
    rw [Machine.FileTree.follow]
  have hresolve : s.world.2.tree.resolve 0 (Utf8.encode "d") = .ok 1 := by
    show s.world.2.tree.follow Machine.FileTree.maxLinks 0 [Utf8.encode "d"] = .ok 1
    rw [Machine.FileTree.follow]
    exact hthere
  have hlocate : s.world.2.locate (Utf8.encode "d") = .ok 1 := by
    rw [Machine.State.locate, hplain]
    exact hresolve
  have hchange := @changeDirectory_machine s.world.2 ⟨Utf8.encode "d", by decide⟩ 1 rfl hlocate rfl
  have henters : Enters (host.writingTo Sink.writer) "cd d" s _ :=
    ⟨_, htokens, "d", _, [], rfl, rfl, Act.within_of_eq hchange s.world.1⟩
  obtain ⟨-, hstuck, -⟩ := directory_after_line hkeeps Sink.writer "cd d" s
  obtain ⟨hanswer, hdirectory⟩ := hstuck _ Sink.stuck henters rfl
  exact ⟨hkeeps, hanswer, rfl, hdirectory⟩

end Session

end LineShell
