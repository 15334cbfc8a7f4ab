/-
**A session.**

A session takes one line after the other.  A line is cut into tokens; if its first token names a
built-in command, the session carries it out, otherwise it looks for the program, builds what the
launch needs, hands on all output that is still held back and launches.  A line that fails is
reported, and the session goes on; only `exit`, the end of the lines or a failure of reading or
prompting ends it.

The session numbers its lines and records the status of its last command: zero after a built-in
command, the program's own status after a program, the error's status after a line that failed.  A
line without tokens changes nothing.

In an interactive session an interrupt during a program leaves the cursor in the middle of a line,
so a new one is begun; an interrupt from before the program is forgotten.

Main definitions:

* `LineShell.SessionError` — why a line failed, with `SessionError.message` and
  `SessionError.status`;
* `LineShell.Settings`, `LineShell.Session` — what is set once, and what changes;
* `LineShell.Session.tryLine` — one line, whose failure is the answer;
* `LineShell.Session.executeLine` — one line, whose failure is reported;
* `LineShell.Session.ask`, `LineShell.Session.handle` — one round: an answer of a source, and what
  is made of it;
* `LineShell.Session.run` — the lines of a source.

Main results:

* `LineShell.Session.run_of_ask_error`, `LineShell.Session.run_of_handle_some`,
  `LineShell.Session.run_of_handle_none` — a run, one round at a time.
-/

import LineShell.Builtin
import LineShell.Input.Bounded
import LineShell.Token

set_option autoImplicit false

namespace LineShell

/-! ### Errors -/

/-- Why a line, or the reading of lines, failed. -/
inductive SessionError where
  /-- The line cannot be cut into tokens. -/
  | lex (cause : LexError)
  /-- The command name leads to no program. -/
  | resolve (cause : ResolveError)
  /-- The arguments cannot be handed to a program. -/
  | build (cause : BuildError)
  /-- The program could not be run. -/
  | launch (cause : LaunchError)
  /-- A built-in command failed. -/
  | builtin (cause : BuiltinError)
  /-- No more lines can be read. -/
  | input (cause : InputError)
  /-- The session's own output failed. -/
  | io (cause : IoError)
deriving DecidableEq

namespace SessionError

/-- The wording of the error. -/
def message : SessionError → String
  | .lex cause => "Lexer error: " ++ cause.message
  | .resolve cause => cause.message
  | .build cause => cause.message
  | .launch cause => cause.message
  | .builtin cause => cause.message
  | .input cause => cause.message
  | .io cause => "IO error: " ++ cause.message

/-- The status that is recorded for a line that failed this way. -/
def status : SessionError → Int
  | .resolve _ => notFoundStatus
  | .launch cause => cause.status
  | .lex _ | .build (.missingTarget _) | .builtin (.usage _) => 2
  | _ => 1

end SessionError

/-- The name that the program's diagnostics begin with. -/
def programName : String := "minish"

/-- A diagnostic line. -/
def diagnostic (text : String) : String := programName ++ ": " ++ text ++ "\n"

/-! ### Sessions -/

/-- What is set once for a session. -/
structure Settings where
  /-- Whether prompts are shown. -/
  interactive : Bool := false
  /-- The search path as it is written; `none` if there is none. -/
  path : Option String := none
  /-- The most bytes that a line may have. -/
  lineLimit : UInt64 := defaultLineLimit
deriving DecidableEq

/-- A session and its surroundings. -/
structure Session (ω : Type) where
  /-- What is set once. -/
  settings : Settings
  /-- The number of lines taken so far. -/
  lineNumber : Nat
  /-- The status of the last command. -/
  lastStatus : Int
  /-- The surroundings. -/
  world : ω

namespace Session

variable {ω σ : Type}

/-- A session that has not taken a line yet. -/
def start (settings : Settings) (w : ω) : Session ω := ⟨settings, 0, 0, w⟩

/-- The directories that programs are searched in. -/
def searchPath (s : Session ω) : SearchPath := SearchPath.parse s.settings.path

/-- The prompt for the next line; empty unless the session is interactive. -/
def prompt (s : Session ω) : String :=
  if s.settings.interactive then toString s.lineNumber ++ ": " else ""

/-- The session with another status. -/
def withStatus (status : Int) (s : Session ω) : Session ω := { s with lastStatus := status }

/-- The session after one more line. -/
def countLine (s : Session ω) : Session ω := { s with lineNumber := s.lineNumber + 1 }

/-- An action of the surroundings, seen from the session. -/
def inWorld {ε α : Type} (a : Act ω ε α) : Act (Session ω) ε α := fun s =>
  match a s.world with
  | (r, w) => (r, { s with world := w })

theorem inWorld_of_ok {ε ε' α : Type} {a : Act ω ε α} {x : α} {s : Session ω} {w : ω}
    (h : a s.world = (.ok x, w)) (f : ε → ε') :
    (inWorld a).mapError f s = (.ok x, { s with world := w }) := by
  simp only [Act.mapError, inWorld, h]

theorem inWorld_of_error {ε ε' α : Type} {a : Act ω ε α} {e : ε} {s : Session ω} {w : ω}
    (h : a s.world = (.error e, w)) (f : ε → ε') :
    (inWorld a).mapError f s = (.error (f e), { s with world := w }) := by
  simp only [Act.mapError, inWorld, h]

variable (host : Host ω)

/-- The session after a diagnostic line. -/
def report (text : String) (s : Session ω) : Session ω :=
  { s with world := host.diagnose (diagnostic text) s.world }

/-- Whether an interrupt came since the question was last asked. -/
def takeInterrupt : Act (Session ω) SessionError Bool := fun s =>
  (.ok (host.takeInterrupt s.world).1, { s with world := (host.takeInterrupt s.world).2 })

/-- Writes text to the session's output and hands it on. -/
def say (text : String) : Act (Session ω) SessionError Unit := do
  (inWorld (host.write (Utf8.encode text))).mapError .io
  (inWorld host.flush).mapError .io

/-! ### One line -/

/-- Carries out the built-in command at a place of the table. -/
def runBuiltin (index : Nat) (tokens : List String) : Act (Session ω) SessionError Flow := do
  let result ← (inWorld (Builtin.invoke host index tokens)).attempt
  (inWorld host.flush).mapError .io
  match result with
  | .error cause => throw (.builtin cause)
  | .ok flow =>
    Act.change (withStatus 0)
    return flow

/-- What the launch needs for a command that is not built in. -/
def prepare (name : String) (tokens : List String) (s : Session ω) :
    Except SessionError Invocation :=
  match s.searchPath.resolve (host.probe s.world) name with
  | .error cause => .error (.resolve cause)
  | .ok path =>
    match Invocation.build (Utf8.encode path) tokens with
    | .error cause => .error (.build cause)
    | .ok invocation => .ok invocation

/-- Launches a program; in an interactive session a new line is begun after an interrupt. -/
def launch (invocation : Invocation) : Act (Session ω) SessionError Outcome := do
  if (← get).settings.interactive then
    let _ ← takeInterrupt host
    let outcome ← (inWorld (host.launch invocation)).mapError .launch
    if ← takeInterrupt host then
      say host "\n"
    return outcome
  else
    (inWorld (host.launch invocation)).mapError .launch

/-- Runs the program that a command name stands for. -/
def runProgram (name : String) (tokens : List String) : Act (Session ω) SessionError Flow := do
  match prepare host name tokens (← get) with
  | .error cause => throw cause
  | .ok invocation =>
    (inWorld host.flush).mapError .io
    (inWorld host.flushStandardOutput).mapError .io
    let outcome ← launch host invocation
    Act.change (withStatus outcome.code)
    return .proceed

/-- Runs one line; a failure is the answer. -/
def tryLine (line : String) : Act (Session ω) SessionError Flow :=
  match tokenize line with
  | .error cause => throw (.lex cause)
  | .ok [] => return .proceed
  | .ok (name :: rest) =>
    match Builtin.lookup name with
    | some index => runBuiltin host index (name :: rest)
    | none => runProgram host name (name :: rest)

/-- Runs one line; a failure is reported and its status recorded. -/
def executeLine (line : String) (s : Session ω) : Flow × Session ω :=
  match tryLine host line s with
  | (.ok flow, s') => (flow, s')
  | (.error cause, s') => (.proceed, withStatus cause.status (report host cause.message s'))

/-! ### All lines -/

/-- Shows the prompt, unless it is empty or the source shows it. -/
def showPrompt (source : LineSource σ ω) : Act (Session ω) SessionError Unit := do
  let text := (← get).prompt
  if text ≠ "" ∧ source.showsPrompt = false then say host text

/-- Shows the prompt and asks a source for its next answer. -/
def ask (source : LineSource σ ω) (t : σ) (s : Session ω) :
    Except SessionError InputItem × σ × Session ω :=
  match showPrompt host source s with
  | (.error cause, s') => (.error cause, t, s')
  | (.ok (), s') =>
    match source.next s.prompt t s'.world with
    | (item, t', w) => (.ok item, t', { s' with world := w })

/-- What a session makes of an answer: the result, if the answer ends the run, and the session
afterwards. -/
def handle (item : InputItem) (s : Session ω) : Option (Except SessionError Int) × Session ω :=
  match item with
  | .ok (some line) =>
    match executeLine host line s with
    | (.exit status, s') => (some (.ok status), s'.countLine)
    | (.proceed, s') => (none, s'.countLine)
  | .ok none =>
    match inWorld host.flush s with
    | (r, s') => (some ((r.map fun _ => 0).mapError .io), s')
  | .error cause =>
    if cause.isRecoverable then (none, (report host cause.message s).countLine)
    else (some (.error (.input cause)), s)

theorem isLast_eq_false_of_handle {item : InputItem} {s s' : Session ω}
    (h : handle host item s = (none, s')) : item.isLast = false := by
  match item with
  | .ok (some line) => rfl
  | .ok none => cases h
  | .error cause =>
      simp only [handle] at h
      split at h
      · next hrec => simp [InputItem.isLast, hrec]
      · cases h

theorem bound_ask {source : LineSource σ ω} {t t' : σ} {s s' : Session ω} {item : InputItem}
    (h : ask host source t s = (.ok item, t', s')) (hlast : item.isLast = false) :
    source.bound t' < source.bound t := by
  unfold ask at h
  split at h
  · cases h
  · next s₁ _ =>
    cases h
    exact source.bound_next s.prompt t s₁.world hlast

/-- Takes lines from a source until `exit`, the last line or a failure. -/
def run (source : LineSource σ ω) (t : σ) (s : Session ω) :
    Except SessionError Int × σ × Session ω :=
  match _asked : ask host source t s with
  | (.error cause, t', s') => (.error cause, t', s')
  | (.ok item, t', s') =>
    match _handled : handle host item s' with
    | (some result, s'') => (result, t', s'')
    | (none, s'') => run source t' s''
termination_by source.bound t
decreasing_by exact bound_ask host _asked (isLast_eq_false_of_handle host _handled)

variable {host}
variable {source : LineSource σ ω} {t t' : σ} {s s' s'' : Session ω} {item : InputItem}

/-- A run ends where the prompt cannot be shown. -/
theorem run_of_ask_error {cause : SessionError} (h : ask host source t s = (.error cause, t', s')) :
    run host source t s = (.error cause, t', s') := by
  rw [run]
  split <;> simp_all

/-- A run ends with an answer that ends it. -/
theorem run_of_handle_some {result : Except SessionError Int}
    (h : ask host source t s = (.ok item, t', s')) (hd : handle host item s' = (some result, s'')) :
    run host source t s = (result, t', s'') := by
  rw [run]
  split <;> simp_all
  split <;> simp_all

/-- A run goes on behind an answer that does not end it. -/
theorem run_of_handle_none (h : ask host source t s = (.ok item, t', s'))
    (hd : handle host item s' = (none, s'')) :
    run host source t s = run host source t' s'' := by
  rw [run]
  split <;> simp_all
  split <;> simp_all

end Session

end LineShell
