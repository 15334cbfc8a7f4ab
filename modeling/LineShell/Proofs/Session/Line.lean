/-
**What one line does to a session.**

A line may run a program, change the working directory or fail in many ways.  Whatever it does, it
neither counts itself nor touches what is set once, and only one kind of line can end the session: a
line whose first token is `exit`.  Such a line is answered only after the session's output was
handed on.  If that fails, the failure is reported in place of the answer, and the line does not end
the session.

Main definitions:

* `LineShell.Session.Keeps` — the actions that leave the settings and the number of lines alone;
* `LineShell.IsExit` — the lines whose first token is `exit`.

Main results:

* `LineShell.Session.keeps_tryLine`, `LineShell.Session.executeLine_lineNumber` — a line does not
  count itself;
* `LineShell.Session.executeLine_of_isExit` — what a line does whose first token is `exit`;
* `LineShell.Session.executeLine_of_not_isExit` — **no other line ends a session**.
-/

import LineShell.Session

set_option autoImplicit false

namespace LineShell

/-- The first token of the line is `exit`. -/
def IsExit (line : String) : Prop := ∃ rest, tokenize line = .ok ("exit" :: rest)

theorem isExit_exit : IsExit "exit" :=
  ⟨[], tokenize_of_isBare (w := "exit".toList) (by decide) (List.all_eq_true.1 (by decide))⟩

namespace Session

variable {ω ε ε' α β : Type}

/-! ### Actions that do not count lines -/

/-- The action touches neither the settings nor the number of lines, whether it fails or not. -/
def Keeps (a : Act (Session ω) ε α) : Prop :=
  ∀ s, (a s).2.settings = s.settings ∧ (a s).2.lineNumber = s.lineNumber

theorem keeps_pure (x : α) : Keeps (pure x : Act (Session ω) ε α) := fun _ => ⟨rfl, rfl⟩

theorem keeps_throw (e : ε) : Keeps (throw e : Act (Session ω) ε α) := fun _ => ⟨rfl, rfl⟩

theorem keeps_get : Keeps (get : Act (Session ω) ε (Session ω)) := fun _ => ⟨rfl, rfl⟩

theorem keeps_inWorld (a : Act ω ε α) : Keeps (inWorld a) := fun _ => ⟨rfl, rfl⟩

theorem keeps_withStatus (status : Int) :
    Keeps (Act.change (withStatus status) : Act (Session ω) ε Unit) := fun _ => ⟨rfl, rfl⟩

theorem keeps_takeInterrupt (host : Host ω) : Keeps (takeInterrupt host) := fun _ => ⟨rfl, rfl⟩

theorem Keeps.mapError {a : Act (Session ω) ε α} (h : Keeps a) (f : ε → ε') :
    Keeps (a.mapError f) := by
  intro s
  have hs := h s
  unfold Act.mapError
  generalize a s = r at hs ⊢
  obtain ⟨x, s'⟩ := r
  cases x with
  | error e => exact hs
  | ok x => exact hs

theorem Keeps.attempt {a : Act (Session ω) ε α} (h : Keeps a) :
    Keeps (a.attempt : Act (Session ω) ε' (Except ε α)) := fun s => h s

theorem Keeps.bind {a : Act (Session ω) ε α} {f : α → Act (Session ω) ε β} (ha : Keeps a)
    (hf : ∀ x, Keeps (f x)) : Keeps (a >>= f) := by
  intro s
  have hs := ha s
  cases hrun : a s with
  | mk r s' =>
    rw [hrun] at hs
    cases r with
    | error e => rwa [Act.bind_of_error hrun]
    | ok x =>
        rw [Act.bind_of_ok hrun]
        exact ⟨(hf x s').1.trans hs.1, (hf x s').2.trans hs.2⟩

section

variable (host : Host ω)

theorem keeps_say (text : String) : Keeps (say host text) :=
  ((keeps_inWorld _).mapError _).bind fun _ => (keeps_inWorld _).mapError _

theorem keeps_showPrompt {σ : Type} (source : LineSource σ ω) : Keeps (showPrompt host source) := by
  refine keeps_get.bind fun s => ?_
  dsimp only
  split
  · exact keeps_say host _
  · exact keeps_pure ()

theorem keeps_runBuiltin (index : Nat) (tokens : List String) :
    Keeps (runBuiltin host index tokens) := by
  refine (keeps_inWorld _).attempt.bind fun result => ?_
  refine ((keeps_inWorld _).mapError _).bind fun _ => ?_
  cases result with
  | error cause => exact keeps_throw _
  | ok flow => exact (keeps_withStatus 0).bind fun _ => keeps_pure flow

theorem keeps_launch (invocation : Invocation) : Keeps (launch host invocation) := by
  refine keeps_get.bind fun s => ?_
  split
  · refine (keeps_takeInterrupt host).bind fun _ => ?_
    refine ((keeps_inWorld _).mapError _).bind fun outcome => ?_
    refine (keeps_takeInterrupt host).bind fun interrupted => ?_
    split
    · exact (keeps_say host _).bind fun _ => keeps_pure outcome
    · exact keeps_pure outcome
  · exact (keeps_inWorld _).mapError _

theorem keeps_runProgram (name : String) (tokens : List String) :
    Keeps (runProgram host name tokens) := by
  refine keeps_get.bind fun s => ?_
  cases prepare host name tokens s with
  | error cause => exact keeps_throw cause
  | ok invocation =>
      refine ((keeps_inWorld _).mapError _).bind fun _ => ?_
      refine ((keeps_inWorld _).mapError _).bind fun _ => ?_
      refine (keeps_launch host invocation).bind fun outcome => ?_
      exact (keeps_withStatus _).bind fun _ => keeps_pure _

/-- **A line does not count itself**, whatever it does and however it fails. -/
theorem keeps_tryLine (line : String) : Keeps (tryLine host line) := by
  unfold tryLine
  split
  · exact keeps_throw _
  · exact keeps_pure _
  · split
    · exact keeps_runBuiltin host _ _
    · exact keeps_runProgram host _ _

/-- Neither does one whose failure is reported. -/
theorem keeps_executeLine (line : String) (s : Session ω) :
    (executeLine host line s).2.settings = s.settings ∧
      (executeLine host line s).2.lineNumber = s.lineNumber := by
  have hs := keeps_tryLine host line s
  unfold executeLine
  split
  · next flow s' hrun => rwa [hrun] at hs
  · next cause s' hrun => rwa [hrun] at hs

theorem executeLine_lineNumber (line : String) (s : Session ω) :
    (executeLine host line s).2.lineNumber = s.lineNumber := (keeps_executeLine host line s).2

end

end Session

/-! ### Answers -/

/-- Whatever the action answers, if it does not fail, has a property. -/
def Act.Yields {ω ε α : Type} (P : α → Prop) (a : Act ω ε α) : Prop :=
  ∀ (w : ω) (x : α) (w' : ω), a w = (.ok x, w') → P x

namespace Act

variable {ω ε ε' α β : Type} {P : α → Prop} {Q : β → Prop}

theorem yields_pure {x : α} (h : P x) : Yields P (pure x : Act ω ε α) := by
  intro w y w' hrun
  cases hrun
  exact h

theorem yields_throw (e : ε) : Yields P (throw e : Act ω ε α) := by
  intro w y w' hrun
  cases hrun

theorem Yields.bind {a : Act ω ε α} {f : α → Act ω ε β} (ha : Yields P a)
    (hf : ∀ x, P x → Yields Q (f x)) : Yields Q (a >>= f) := by
  intro w y w' hrun
  cases ha' : a w with
  | mk r w₁ =>
    cases r with
    | error e =>
        rw [bind_of_error ha'] at hrun
        cases hrun
    | ok x =>
        rw [bind_of_ok ha'] at hrun
        exact hf x (ha w x w₁ ha') w₁ y w' hrun

/-- What comes last decides. -/
theorem yields_bind {f : α → Act ω ε β} (a : Act ω ε α) (hf : ∀ x, Yields Q (f x)) :
    Yields Q (a >>= f) :=
  Yields.bind (P := fun _ => True) (fun _ _ _ _ => trivial) fun x _ => hf x

theorem Yields.attempt {a : Act ω ε α} (h : Yields P a) :
    Yields (fun r => ∀ x, r = .ok x → P x) (a.attempt : Act ω ε' (Except ε α)) := by
  intro w r w' hrun x hx
  have hanswer : (.ok (a w).1 : Except ε' (Except ε α)) = .ok r := congrArg Prod.fst hrun
  rw [Except.ok.injEq] at hanswer
  exact h w x (a w).2 (Prod.ext (hanswer.trans hx) rfl)

end Act

theorem Session.yields_inWorld {ω ε α : Type} {P : α → Prop} {a : Act ω ε α} (h : a.Yields P) :
    (Session.inWorld a).Yields P := by
  intro s x s' hrun
  have hanswer : (a s.world).1 = .ok x := congrArg Prod.fst hrun
  exact h s.world x (a s.world).2 (Prod.ext hanswer rfl)

/-! ### Lines that do not end a session -/

section

variable {ω : Type} (host : Host ω)

/-- Only `exit` answers with the end of the session. -/
theorem Builtin.yields_invoke {index : Nat} (h : Builtin.table[index]? ≠ some .exit)
    (tokens : List String) : (Builtin.invoke host index tokens).Yields (· = .proceed) := by
  unfold Builtin.invoke
  split
  · exact Act.yields_throw _
  next command hcommand =>
  split
  · exact Act.yields_throw _
  unfold Builtin.perform
  split
  · exact Act.yields_bind _ fun _ => Act.yields_pure rfl
  · exact Act.yields_bind _ fun _ => Act.yields_pure rfl
  · exact absurd hcommand h
  · exact Act.yields_bind _ fun _ => Act.yields_pure rfl
  · exact Act.yields_bind _ fun _ => Act.yields_pure rfl
  · exact Act.yields_throw _

namespace Session

theorem yields_runBuiltin {index : Nat} (h : Builtin.table[index]? ≠ some .exit)
    (tokens : List String) : (runBuiltin host index tokens).Yields (· = .proceed) := by
  refine (yields_inWorld (Builtin.yields_invoke host h tokens)).attempt.bind fun result hresult => ?_
  refine Act.yields_bind _ fun _ => ?_
  cases result with
  | error cause => exact Act.yields_throw _
  | ok flow => exact Act.yields_bind _ fun _ => Act.yields_pure (hresult flow rfl)

theorem yields_runProgram (name : String) (tokens : List String) :
    (runProgram host name tokens).Yields (· = .proceed) := by
  refine Act.yields_bind _ fun s => ?_
  cases prepare host name tokens s with
  | error cause => exact Act.yields_throw cause
  | ok invocation =>
      refine Act.yields_bind _ fun _ => Act.yields_bind _ fun _ => ?_
      exact Act.yields_bind _ fun outcome => Act.yields_bind _ fun _ => Act.yields_pure rfl

theorem yields_tryLine {line : String} (h : ¬ IsExit line) :
    (tryLine host line).Yields (· = .proceed) := by
  unfold tryLine
  split
  · exact Act.yields_throw _
  · exact Act.yields_pure rfl
  next name rest htokens =>
  split
  · next index hindex =>
    obtain ⟨command, hcommand, rfl⟩ := (Builtin.lookup_eq_some_iff name index).1 hindex
    refine yields_runBuiltin host ?_ _
    rw [hcommand]
    intro hexit
    cases hexit
    exact h ⟨rest, htokens⟩
  · exact yields_runProgram host name _

/-- **A line does not end the session** unless its first token is `exit`. -/
theorem executeLine_of_not_isExit {line : String} (h : ¬ IsExit line) (s : Session ω) :
    (executeLine host line s).1 = .proceed := by
  unfold executeLine
  split
  · next flow s' hrun => exact yields_tryLine host h s flow s' hrun
  · rfl

/-! ### Lines whose first token is `exit` -/

section

variable {host} {line : String} {s : Session ω} {w : ω}

/-- The command itself does nothing; its answer waits for the output to be handed on. -/
theorem tryLine_of_isExit (h : IsExit line) :
    tryLine host line s =
      ((inWorld host.flush).mapError SessionError.io >>= fun _ =>
        Act.change (withStatus 0) >>= fun _ => pure (.exit 0)) s := by
  obtain ⟨rest, htokens⟩ := h
  have hinvoke : (inWorld (Builtin.invoke host 2 ("exit" :: rest))).attempt s =
      ((.ok (.ok (.exit 0)) : Except SessionError (Except BuiltinError Flow)), s) := rfl
  simp only [tryLine, htokens]
  exact Act.bind_of_ok hinvoke

/-- **The session ends** if its output was handed on. -/
theorem executeLine_of_flush (h : IsExit line) (hflush : host.flush s.world = (.ok (), w)) :
    executeLine host line s = (.exit 0, { s with lastStatus := 0, world := w }) := by
  have hrun : tryLine host line s = (.ok (.exit 0), { s with lastStatus := 0, world := w }) :=
    (tryLine_of_isExit h).trans (Act.bind_of_ok (inWorld_of_ok hflush _))
  rw [executeLine, hrun]

/-- If its output cannot be handed on that is reported, and **the session goes on**. -/
theorem executeLine_of_flush_error (h : IsExit line) {cause : IoError}
    (hflush : host.flush s.world = (.error cause, w)) :
    executeLine host line s =
      (.proceed, { s with
        lastStatus := 1, world := host.diagnose (diagnostic (SessionError.io cause).message) w }) := by
  have hrun : tryLine host line s = (.error (.io cause), { s with world := w }) :=
    (tryLine_of_isExit h).trans (Act.bind_of_error (inWorld_of_error hflush _))
  rw [executeLine, hrun]
  rfl

end

end Session

end

end LineShell
