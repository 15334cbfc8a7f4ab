/-
**How a run goes, and how it ends.**

A run asks its source for an answer and does something with it, again and again.  If the session's
output never fails there are only three ends: a line whose first token is `exit`, the end of the
lines, and a failure of reading.  Nothing that a line contains, and nothing that its command does, is
another.

If the output fails, `exit` is not always an end.  It is one exactly if the output could be handed on
after the line was read; else the source is asked for the next line.

Main definitions:

* `LineShell.Host.NeverFails`, `LineShell.Writer.collecting` — a host whose sessions can always
  write, and a receiver that makes one;
* `LineShell.InputItem.EndsRun`, `LineShell.InputItem.result` — the answers that end a run, and with
  what result;
* `LineShell.Session.absorb` — the session after an answer;
* `LineShell.Session.Gives` — a source's next answer in a session, with what showing the prompt and
  asking the source have left;
* `LineShell.Session.Rounds` — the answers that a source gives one after the other and a run takes,
  none of which ends it.

Main results:

* `LineShell.Session.handle_snd`, `LineShell.Session.handle_of_endsRun`,
  `LineShell.Session.handle_of_not_endsRun` — what is made of one answer;
* `LineShell.Session.run_of_rounds` — a run goes on behind the rounds it has made;
* `LineShell.Session.ask_eq_ok_iff` — what it is to ask a source;
* `LineShell.Session.run_eq_fold` — **a run folds the answers of its source into the session, up to
  the first that ends it**;
* `LineShell.Session.exit_iff_flush` — **`exit` ends a session exactly if its output can be handed
  on**.
-/

import LineShell.Machine.Boot
import LineShell.Machine.Host
import LineShell.Proofs.Session.Course
import LineShell.Proofs.Session.Line
import LineShell.Sink

set_option autoImplicit false

namespace LineShell

/-! ### The ends of a run -/

/-- The session's output never fails. -/
structure Host.NeverFails {ω : Type} (host : Host ω) : Prop where
  /-- All bytes are accepted. -/
  write : ∀ (bytes : Bytes) (w : ω), (host.write bytes w).1 = .ok ()
  /-- What was accepted is handed on. -/
  flush : ∀ w : ω, (host.flush w).1 = .ok ()

/-- A receiver that keeps all that it is given. -/
def Writer.collecting : Writer Bytes where
  write bytes := fun kept => (.ok (), kept ++ bytes)
  flush := fun kept => (.ok (), kept)

theorem Host.neverFails_collecting {ω : Type} (host : Host ω) :
    (host.writingTo Writer.collecting).NeverFails := ⟨fun _ _ => rfl, fun _ => rfl⟩

namespace InputItem

/-- The answer ends a run: a line whose first token is `exit`, the end of the lines, or an error
after which reading cannot go on. -/
def EndsRun : InputItem → Prop
  | .ok (some line) => IsExit line
  | .ok none => True
  | .error cause => cause.isRecoverable = false

/-- The result of a run that the answer ends. -/
def result : InputItem → Except SessionError Int
  | .ok _ => .ok 0
  | .error cause => .error (.input cause)

/-- Whether the answer counts as a line: a line does, and one that is too long. -/
def countsLine : InputItem → Bool
  | .ok (some _) => true
  | .ok none => false
  | .error (.tooLong _) => true
  | .error _ => false

end InputItem

namespace Session

variable {ω σ : Type} (host : Host ω) (source : LineSource σ ω)

/-! ### One round -/

/-- The session after an answer.  A line is executed and counted; a line that is too long is counted
and reported. -/
def absorb (item : InputItem) (s : Session ω) : Session ω :=
  match item with
  | .ok (some line) => (executeLine host line s).2.countLine
  | .ok none => { s with world := (host.flush s.world).2 }
  | .error (.tooLong limit) =>
    { s with
      lineNumber := s.lineNumber + 1
      world := host.diagnose (diagnostic (InputError.tooLong limit).message) s.world }
  | .error _ => s

variable {host} in
/-- A line that does not end the session is counted, and the run goes on. -/
theorem handle_of_proceed {line : String} {s s' : Session ω}
    (h : executeLine host line s = (.proceed, s')) :
    handle host (.ok (some line)) s = (none, s'.countLine) := by
  simp only [handle, h]

variable {host} in
/-- A line that ends the session ends the run, and is counted. -/
theorem handle_of_exit {line : String} {status : Int} {s s' : Session ω}
    (h : executeLine host line s = (.exit status, s')) :
    handle host (.ok (some line)) s = (some (.ok status), s'.countLine) := by
  simp only [handle, h]

/-- What is made of an answer is the same whether it ends the run or not. -/
theorem handle_snd (item : InputItem) (s : Session ω) :
    (handle host item s).2 = absorb host item s := by
  match item with
  | .ok (some line) =>
      simp only [handle, absorb]
      split <;> simp_all
  | .ok none => rfl
  | .error (.tooLong limit) => rfl
  | .error (.read cause) => rfl
  | .error (.editor cause) => rfl
  | .error .overflow => rfl

theorem settings_handle (item : InputItem) (s : Session ω) :
    (handle host item s).2.settings = s.settings := by
  rw [handle_snd]
  match item with
  | .ok (some line) => exact (keeps_executeLine host line s).1
  | .ok none | .error (.tooLong _) | .error (.read _) | .error (.editor _) | .error .overflow => rfl

/-- An answer ends the run only if it is one of those that end a run. -/
theorem handle_of_not_endsRun {item : InputItem} (h : ¬ item.EndsRun) (s : Session ω) :
    (handle host item s).1 = none := by
  match item with
  | .ok (some line) =>
      have hflow := executeLine_of_not_isExit host h s
      simp only [handle]
      split
      · next status s' hrun =>
        rw [hrun] at hflow
        cases hflow
      · rfl
  | .ok none => exact absurd trivial h
  | .error cause =>
      simp only [InputItem.EndsRun, Bool.not_eq_false] at h
      simp [handle, h]

/-- Where the output never fails, each of those ends it. -/
theorem handle_of_endsRun (hw : host.NeverFails) {item : InputItem} (h : item.EndsRun)
    (s : Session ω) : (handle host item s).1 = some item.result := by
  have hflush := hw.flush s.world
  match item with
  | .ok (some line) =>
      have hrun := executeLine_of_flush h (Prod.ext hflush rfl)
      simp only [handle, hrun]
      rfl
  | .ok none =>
      have hanswer : inWorld host.flush s = (.ok (), { s with world := (host.flush s.world).2 }) :=
        Prod.ext hflush rfl
      simp only [handle, hanswer]
      rfl
  | .error cause =>
      simp only [InputItem.EndsRun] at h
      simp [handle, h, InputItem.result]

theorem absorb_lineNumber (item : InputItem) (s : Session ω) :
    (absorb host item s).lineNumber = s.lineNumber + [item].countP InputItem.countsLine := by
  match item with
  | .ok (some line) =>
      show (executeLine host line s).2.lineNumber + 1 = _
      rw [executeLine_lineNumber]
      rfl
  | .ok none => rfl
  | .error (.tooLong limit) => rfl
  | .error (.read cause) => rfl
  | .error (.editor cause) => rfl
  | .error .overflow => rfl

/-! ### Rounds -/

/-- The source gives its next answer: the prompt is shown, and then the source is asked with the text
of the prompt, in the surroundings that showing it has left. -/
inductive Gives (t : σ) (s : Session ω) : InputItem → σ → Session ω → Prop where
  /-- The answer, the source behind it, and the surroundings behind it. -/
  | intro {s₁ : Session ω} {item : InputItem} {t' : σ} {w : ω} :
    showPrompt host source s = (.ok (), s₁) → source.next s.prompt t s₁.world = (item, t', w) →
    Gives t s item t' { s₁ with world := w }

/-- **Asking gets what the source gives**, and nothing else. -/
theorem ask_eq_ok_iff {t t' : σ} {s s' : Session ω} {item : InputItem} :
    ask host source t s = (.ok item, t', s') ↔ Gives host source t s item t' s' := by
  constructor
  · intro h
    unfold ask at h
    split at h
    · cases h
    · next s₁ hshow =>
      cases h
      exact .intro hshow rfl
  · rintro ⟨hshow, hnext⟩
    simp only [ask, hshow, hnext]

/-- An answer by itself counts no line. -/
theorem Gives.lineNumber_eq {t t' : σ} {s s' : Session ω} {item : InputItem}
    (h : Gives host source t s item t' s') : s'.lineNumber = s.lineNumber := by
  obtain ⟨hshow, -⟩ := h
  have hkeeps := (keeps_showPrompt host source s).2
  rwa [hshow] at hkeeps

theorem exists_say (hw : host.NeverFails) (text : String) (s : Session ω) :
    ∃ s', say host text s = (.ok (), s') := by
  have hwrite : host.write (Utf8.encode text) s.world =
      (.ok (), (host.write (Utf8.encode text) s.world).2) := Prod.ext (hw.write _ _) rfl
  have hflush : ∀ w, host.flush w = (.ok (), (host.flush w).2) := fun w =>
    Prod.ext (hw.flush w) rfl
  exact ⟨_, (Act.bind_of_ok (inWorld_of_ok hwrite _)).trans (inWorld_of_ok (hflush _) _)⟩

theorem exists_showPrompt (hw : host.NeverFails) (s : Session ω) :
    ∃ s', showPrompt host source s = (.ok (), s') := by
  have hget : (get : Act (Session ω) SessionError (Session ω)) s = (.ok s, s) := rfl
  rw [showPrompt, Act.bind_of_ok hget]
  split
  · exact exists_say host hw _ s
  · exact ⟨s, rfl⟩

/-- Where the output never fails there is always an answer. -/
theorem exists_gives (hw : host.NeverFails) (t : σ) (s : Session ω) :
    ∃ item t' s', Gives host source t s item t' s' := by
  obtain ⟨s₁, hshow⟩ := exists_showPrompt host source hw s
  exact ⟨_, _, _, .intro hshow rfl⟩

/-- The answers that a source gives one after the other, while a run puts them into the session; none
of them ends the run. -/
inductive Rounds : σ → Session ω → List InputItem → σ → Session ω → Prop where
  /-- No answer yet. -/
  | nil (t : σ) (s : Session ω) : Rounds t s [] t s
  /-- An answer that does not end the run, and those behind it. -/
  | cons {t t₁ t' : σ} {s s₁ s' : Session ω} {item : InputItem} {items : List InputItem} :
    Gives host source t s item t₁ s₁ → (handle host item s₁).1 = none →
    Rounds t₁ (absorb host item s₁) items t' s' → Rounds t s (item :: items) t' s'

variable {host source}

/-- **A run goes on behind the rounds it has made.** -/
theorem run_of_rounds {t t' : σ} {s s' : Session ω} {items : List InputItem}
    (h : Rounds host source t s items t' s') : run host source t s = run host source t' s' := by
  induction h with
  | nil t s => rfl
  | cons hgives hgoes _ ih =>
      have hask := (ask_eq_ok_iff host source).2 hgives
      exact (run_of_handle_none hask (Prod.ext hgoes (handle_snd host _ _))).trans ih

theorem rounds_lineNumber {t t' : σ} {s s' : Session ω} {items : List InputItem}
    (h : Rounds host source t s items t' s') :
    s'.lineNumber = s.lineNumber + items.countP InputItem.countsLine := by
  induction h with
  | nil t s => rfl
  | @cons t t₁ t' s s₁ s' item items hgives _ _ ih =>
      rw [ih, absorb_lineNumber, hgives.lineNumber_eq, Nat.add_assoc, ← List.countP_append,
        List.singleton_append]

/-- Where the output never fails, no answer of a round is one of those that end a run. -/
theorem Rounds.not_endsRun (hw : host.NeverFails) {t t' : σ} {s s' : Session ω}
    {items : List InputItem} (h : Rounds host source t s items t' s') :
    ∀ item ∈ items, ¬ item.EndsRun := by
  induction h with
  | nil t s => nofun
  | @cons t t₁ t' s s₁ s' item items _ hgoes _ ih =>
      refine List.forall_mem_cons.2 ⟨fun hends => ?_, ih⟩
      rw [handle_of_endsRun host hw hends s₁] at hgoes
      cases hgoes

/-- Where the output never fails, rounds are made up to an answer that ends the run. -/
theorem exists_rounds (hw : host.NeverFails) (t : σ) (s : Session ω) :
    ∃ items last t₁ s₁ t' s', Rounds host source t s items t₁ s₁ ∧
      Gives host source t₁ s₁ last t' s' ∧ last.EndsRun := by
  -- on how far the end of the source is
  obtain ⟨n, hn⟩ : ∃ n, source.bound t = n := ⟨_, rfl⟩
  induction n using Nat.strongRecOn generalizing t s with
  | ind n ih =>
      obtain ⟨item, t₁, s₁, hgives⟩ := exists_gives host source hw t s
      by_cases hends : item.EndsRun
      · exact ⟨[], item, t, s, t₁, s₁, .nil t s, hgives, hends⟩
      have hgoes := handle_of_not_endsRun host hends s₁
      have hlt := bound_ask host ((ask_eq_ok_iff host source).2 hgives)
        (isLast_eq_false_of_handle host (Prod.ext hgoes rfl))
      obtain ⟨items, last, t₂, s₂, t', s', hrounds, hlast, hend⟩ :=
        ih (source.bound t₁) (hn ▸ hlt) t₁ (absorb host item s₁) rfl
      exact ⟨item :: items, last, t₂, s₂, t', s', .cons hgives hgoes hrounds, hlast, hend⟩

/-! ### Where the output never fails -/

/-- **A run folds the answers of its source into the session, up to the first that ends it**, if the
session's output never fails.  There is such an answer; whatever the rounds before it were, none of
theirs was one, it is the last that is taken of the source, and it decides on the result.  The lines
that were taken are counted. -/
theorem run_eq_fold (hw : host.NeverFails) (source : LineSource σ ω) (t : σ) (s : Session ω) :
    (∃ items last t₁ s₁ t' s', Rounds host source t s items t₁ s₁ ∧
      Gives host source t₁ s₁ last t' s' ∧ last.EndsRun) ∧
    ∀ items last t₁ s₁ t' s', Rounds host source t s items t₁ s₁ →
      Gives host source t₁ s₁ last t' s' → last.EndsRun →
        (∀ item ∈ items, ¬ item.EndsRun) ∧
        run host source t s = (last.result, t', absorb host last s') ∧
        (absorb host last s').lineNumber =
          s.lineNumber + (items ++ [last]).countP InputItem.countsLine := by
  refine ⟨exists_rounds hw t s, fun items last t₁ s₁ t' s' hrounds hgives hend => ?_⟩
  refine ⟨hrounds.not_endsRun hw, ?_, ?_⟩
  · rw [run_of_rounds hrounds]
    exact run_of_handle_some ((ask_eq_ok_iff host source).2 hgives)
      (Prod.ext (handle_of_endsRun host hw hend s') (handle_snd host last s'))
  · rw [absorb_lineNumber, hgives.lineNumber_eq, rounds_lineNumber hrounds, List.countP_append,
      Nat.add_assoc]

/-- A script of three lines, on a machine in memory: the first line is carried out, the second ends
the run, and the third is left in the feed. -/
theorem run_eq_fold_script :
    let host := Machine.host.writingTo Writer.collecting
    let source := boundedLines (Bytes × Machine.State) defaultLineLimit
    let m := Machine.boot Machine.furnished .null [] Machine.FileTree.root
    let s : Session (Bytes × Machine.State) := .start {} ([], m)
    let s₁ : Session (Bytes × Machine.State) := ⟨{}, 1, 0, Utf8.encode "/\n", m⟩
    let t : Feed := ⟨[], [Utf8.encode "pwd\nexit\nhelp\n"], none⟩
    let t₁ : Feed := ⟨Utf8.encode "exit\nhelp\n", [], none⟩
    let t' : Feed := ⟨Utf8.encode "help\n", [], none⟩
    host.NeverFails ∧ Rounds host source t s [.ok (some "pwd")] t₁ s₁ ∧
      Gives host source t₁ s₁ (.ok (some "exit")) t' s₁ ∧
      run host source t s = (.ok 0, t', ⟨{}, 2, 0, Utf8.encode "/\n", m⟩) ∧
      2 = s.lineNumber + [.ok (some "pwd"), .ok (some "exit")].countP InputItem.countsLine := by
  intro host source m s s₁ t t₁ t'
  have hnever : host.NeverFails := Host.neverFails_collecting _
  have htokens : tokenize "pwd" = .ok ["pwd"] :=
    tokenize_of_isBare (w := "pwd".toList) (by decide) (List.all_eq_true.1 (by decide))
  have hpwd : executeLine host "pwd" s = (.proceed, { s with world := (Utf8.encode "/\n", m) }) :=
    @executeLine_pwd _ _ _ s _ htokens "/" _ _ rfl rfl rfl
  have hexit : executeLine host "exit" s₁ = (.exit 0, s₁) := executeLine_of_flush isExit_exit rfl
  have hwindow : lineWindow defaultLineLimit = some 4098 := rfl
  have hfirst : boundedLine defaultLineLimit t = (.ok (some "pwd"), t₁) := by
    have hline : t.lineWithin 4098 = (.ok (Utf8.encode "pwd\n"), t₁) :=
      @Feed.lineWithin_of_lineEnd 4098 4 t ⟨Utf8.encode "pwd\nexit\nhelp\n", [], none⟩ _ rfl rfl
    rw [boundedLine_of_some hwindow, windowedLine_of_le hline (by decide) (by decide),
      ← Utf8.decodeLossy_encode "pwd"]
    rfl
  have hsecond : boundedLine defaultLineLimit t₁ = (.ok (some "exit"), t') := by
    have hline : t₁.lineWithin 4098 = (.ok (Utf8.encode "exit\n"), t') :=
      @Feed.lineWithin_of_lineEnd 4098 5 t₁ t₁ _ rfl rfl
    rw [boundedLine_of_some hwindow, windowedLine_of_le hline (by decide) (by decide),
      ← Utf8.decodeLossy_encode "exit"]
    rfl
  have hrounds : Rounds host source t s [.ok (some "pwd")] t₁ s₁ := by
    refine .cons (.intro rfl (next_boundedLines hfirst ..)) ?_ ?_
    · rw [handle_of_proceed hpwd]
    · simp only [absorb, hpwd]
      exact .nil t₁ s₁
  have hgives : Gives host source t₁ s₁ (.ok (some "exit")) t' s₁ := by
    have hnext : source.next s₁.prompt t₁ s₁.world = (.ok (some "exit"), t', s₁.world) :=
      next_boundedLines hsecond _ _
    exact .intro rfl hnext
  obtain ⟨-, hrun, hlines⟩ :=
    (run_eq_fold hnever source t s).2 _ _ _ _ _ _ hrounds hgives isExit_exit
  rw [absorb, hexit] at hrun hlines
  exact ⟨hnever, hrounds, hgives, hrun, hlines⟩

/-! ### Where the output may fail -/

/-- **`exit` ends a session exactly if its output can be handed on.**  Where that fails the failure
is recorded and reported, and the run, whatever it took before, takes the next line. -/
theorem exit_iff_flush {line : String} (h : IsExit line) (s : Session ω) :
    ((executeLine host line s).1 = .exit 0 ↔ (host.flush s.world).1 = .ok ()) ∧
      (∀ cause, (host.flush s.world).1 = .error cause →
        executeLine host line s = (.proceed, { s with
          lastStatus := 1
          world := host.diagnose (diagnostic (SessionError.io cause).message)
            (host.flush s.world).2 })) ∧
      ∀ (source : LineSource σ ω) (t t₁ t' : σ) (s₀ s₁ : Session ω) (items : List InputItem),
        Rounds host source t s₀ items t₁ s₁ →
        Gives host source t₁ s₁ (.ok (some line)) t' s →
        run host source t s₀ =
          match (host.flush s.world).1 with
          | .ok () => (.ok 0, t', (executeLine host line s).2.countLine)
          | .error _ => run host source t' (executeLine host line s).2.countLine := by
  cases hflush : host.flush s.world with
  | mk r w =>
    cases r with
    | ok u =>
        have hexit := executeLine_of_flush h hflush
        refine ⟨by simp [hexit], nofun, ?_⟩
        intro source t t₁ t' s₀ s₁ items hrounds hgives
        rw [run_of_rounds hrounds, hexit]
        exact run_of_handle_some ((ask_eq_ok_iff host source).2 hgives) (handle_of_exit hexit)
    | error cause =>
        -- the command has answered by then, but the failure takes the place of its answer
        have hgoes := executeLine_of_flush_error h hflush
        refine ⟨by simp [hgoes], ?_, ?_⟩
        · rintro cause' ⟨⟩
          exact hgoes
        intro source t t₁ t' s₀ s₁ items hrounds hgives
        rw [run_of_rounds hrounds, hgoes]
        exact run_of_handle_none ((ask_eq_ok_iff host source).2 hgives) (handle_of_proceed hgoes)

/-- An `exit` that is lost, since what was written cannot be handed on. -/
theorem exit_iff_flush_stuck :
    let host := Machine.host.writingTo Sink.writer
    let source : LineSource (Nat × Unit) (Sink × Machine.State) :=
      .counted false fun _ u w => (.ok (some "exit"), u, w)
    let s : Session (Sink × Machine.State) :=
      .start {} (.empty none true, Machine.boot Machine.furnished .null [] Machine.FileTree.root)
    (executeLine host "exit" s).1 = .proceed ∧ (executeLine host "exit" s).2.lastStatus = 1 ∧
      run host source (2, ()) s =
        run host source (1, ()) (executeLine host "exit" s).2.countLine := by
  intro host source s
  obtain ⟨-, hgoes, hrun⟩ := @exit_iff_flush _ (Nat × Unit) host _ isExit_exit s
  have hstuck : (host.flush s.world).1 = .error Sink.stuck := rfl
  refine ⟨?_, ?_, ?_⟩
  · rw [hgoes _ hstuck]
  · rw [hgoes _ hstuck]
  · exact hrun source (2, ()) (2, ()) (1, ()) s s [] (.nil _ _)
      ((ask_eq_ok_iff host source).1 rfl)

end Session

end LineShell
