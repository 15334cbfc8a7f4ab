/-
**A receiver that never fails.**

A receiver may keep a state of its own, which every write and every handing on can change: what is
held back, how often it was asked.  As long as it never fails, a session learns nothing of that
state.  What a line answers, what it does and what it writes is the same whatever the receiver is
like, and so is what is made of any answer of a source.

So two sessions that agree in all but the state of their receivers go on to agree.

Main definitions:

* `LineShell.Writer.NeverFails`, `LineShell.Writer.recording` — a receiver that never fails, and one
  that keeps what it accepts;
* `LineShell.Host.unheard` — the host whose sessions write to nobody;
* `LineShell.Session.itemBytes` — what a session writes when it handles an answer;
* `LineShell.Session.Agree` — two sessions that agree in all but the state of their receivers.

Main results:

* `LineShell.Session.exists_executeLine_recording`, `LineShell.Session.exists_handle_recording` —
  **a session does what it does unheard, and all that it writes is accepted**;
* `LineShell.Session.Agree.handle` — **sessions that agree go on to agree**.
-/

import LineShell.Proofs.Session.Output
import LineShell.Proofs.Session.Run

set_option autoImplicit false

namespace LineShell

variable {κ ω : Type}

/-! ### Receivers -/

/-- The receiver accepts all bytes, and hands them on. -/
structure Writer.NeverFails (writer : Writer κ) : Prop where
  /-- All bytes are accepted. -/
  write : ∀ bytes k, (writer.write bytes k).1 = .ok ()
  /-- What was accepted is handed on. -/
  flush : ∀ k, (writer.flush k).1 = .ok ()

/-- The receiver that keeps the bytes that it accepts. -/
def Writer.recording (writer : Writer κ) : Writer (Bytes × κ) where
  write bytes := fun (accepted, k) =>
    match writer.write bytes k with
    | (.ok (), k') => (.ok (), accepted ++ bytes, k')
    | (.error e, k') => (.error e, accepted, k')
  flush := writer.flush.within

namespace Writer.NeverFails

variable {writer : Writer κ} (hw : writer.NeverFails)

include hw

theorem exists_write (bytes accepted : Bytes) (k : κ) :
    ∃ k', writer.recording.write bytes (accepted, k) = (.ok (), accepted ++ bytes, k') := by
  have haccepts := hw.write bytes k
  cases hwrite : writer.write bytes k with
  | mk r k' =>
    rw [hwrite] at haccepts
    cases haccepts
    exact ⟨k', by simp only [recording, hwrite]⟩

theorem exists_flush (accepted : Bytes) (k : κ) :
    ∃ k', writer.recording.flush (accepted, k) = (.ok (), accepted, k') :=
  ⟨_, Act.within_of_eq (Prod.ext (hw.flush k) rfl) accepted⟩

/-- Pieces of text are accepted one behind the other. -/
theorem exists_writeAll (pieces : List String) (accepted : Bytes) (k : κ) :
    ∃ k', writer.recording.writeAll pieces (accepted, k) =
      (.ok (), accepted ++ encodePieces pieces, k') := by
  induction pieces generalizing accepted k with
  | nil => exact ⟨k, by rw [encodePieces_nil, List.append_nil]; rfl⟩
  | cons piece rest ih =>
      obtain ⟨k₁, hwrite⟩ := hw.exists_write (Utf8.encode piece) accepted k
      obtain ⟨k₂, hrest⟩ := ih (accepted ++ Utf8.encode piece) k₁
      refine ⟨k₂, ?_⟩
      rw [writeAll, Act.bind_of_ok hwrite, hrest, encodePieces_cons, List.append_assoc]

end Writer.NeverFails

theorem Writer.neverFails_recording {writer : Writer κ} (hw : writer.NeverFails) :
    writer.recording.NeverFails where
  write := by
    rintro bytes ⟨accepted, k⟩
    obtain ⟨k', hwrite⟩ := hw.exists_write bytes accepted k
    rw [hwrite]
  flush s := hw.flush s.2

theorem Host.neverFails_writingTo {writer : Writer κ} (hw : writer.NeverFails) (host : Host ω) :
    (host.writingTo writer).NeverFails :=
  ⟨fun bytes s => hw.write bytes s.1, fun s => hw.flush s.1⟩

/-- The surroundings of a session that writes to nobody. -/
def Host.unheard (host : Host ω) : Host ω :=
  { host with write := fun _ => pure (), flush := pure () }

/-! ### Built-in commands -/

section

variable {host : Host ω} {writer : Writer κ}

theorem Builtin.exists_invoke_recording (hw : writer.NeverFails) (index : Nat)
    (tokens : List String) (accepted : Bytes) (k : κ) (w : ω) :
    ∃ k', invoke (host.writingTo writer.recording) index tokens ((accepted, k), w) =
      ((invoke host.unheard index tokens w).1,
        (accepted ++ encodePieces (outputAt host index w), k'),
        (invoke host.unheard index tokens w).2) := by
  obtain ⟨k', hall⟩ := hw.exists_writeAll (outputAt host index w) accepted k
  have hinvoke := invoke_writingTo host writer.recording index tokens (accepted, k) w
  rw [heard, hall] at hinvoke
  exact ⟨k', hinvoke⟩

theorem Host.exists_flush_recording (hw : writer.NeverFails) (accepted : Bytes) (k : κ) (w : ω) :
    ∃ k', (host.writingTo writer.recording).flush ((accepted, k), w) =
      (.ok (), (accepted, k'), w) := by
  obtain ⟨k', hflush⟩ := hw.exists_flush accepted k
  exact ⟨k', by simp only [writingTo, hflush]⟩

namespace Session

variable {line : String} {s s' : Session ω} {r : Except SessionError Flow}

/-! ### One line -/

/-- A built-in command is carried out as it is unheard. -/
theorem exists_tryLine_recording_of_builtinLine {index : Nat} {name : String} {rest : List String}
    (command : BuiltinLine line index name rest) (hw : writer.NeverFails) (s : Session ω)
    (accepted : Bytes) (k : κ) :
    ∃ k', tryLine (host.writingTo writer.recording) line (s.beside (accepted, k)) =
      ((tryLine host.unheard line s).1, (tryLine host.unheard line s).2.beside
        (accepted ++ encodePieces (output host line s), k')) := by
  obtain ⟨k₁, hinvoke⟩ := @Builtin.exists_invoke_recording _ _ host writer hw index (name :: rest)
    accepted k s.world
  cases hunheard : Builtin.invoke host.unheard index (name :: rest) s.world with
  | mk answer w =>
    obtain ⟨k₂, hflush⟩ := @Host.exists_flush_recording _ _ host writer hw
      (accepted ++ encodePieces (Builtin.outputAt host index s.world)) k₁ w
    rw [hunheard] at hinvoke
    refine ⟨k₂, ?_⟩
    rw [tryLine_of_builtinLine command, tryLine_of_builtinLine command,
      runBuiltin_of_invoke (s := s.beside (accepted, k)) hinvoke, runBuiltin_of_invoke hunheard,
      output_of_builtinLine command]
    simp only [hflush]
    cases answer with
    | error cause => rfl
    | ok flow => rfl

/-- **A line does what it does unheard, and all that it writes is accepted.** -/
theorem exists_tryLine_recording (hw : writer.NeverFails) (hs : s.settings.interactive = false)
    (line : String) (accepted : Bytes) (k : κ) :
    ∃ k', tryLine (host.writingTo writer.recording) line (s.beside (accepted, k)) =
      ((tryLine host.unheard line s).1, (tryLine host.unheard line s).2.beside
        (accepted ++ encodePieces (output host line s), k')) := by
  by_cases hline : ∃ index name rest, BuiltinLine line index name rest
  · obtain ⟨index, name, rest, command⟩ := hline
    exact exists_tryLine_recording_of_builtinLine command hw s accepted k
  · have hnil : output host line s = [] :=
      Classical.byContradiction fun hne => hline (exists_builtinLine_of_output_ne_nil hne)
    obtain ⟨k₁, hflush⟩ := hw.exists_flush accepted k
    obtain ⟨⟨accepted', k'⟩, hk, hcourse⟩ := (course_tryLine host.mute line s).exists_beside hs
      hflush fun index name rest h => hline ⟨index, name, rest, h⟩
    have haccepted : accepted' = accepted := by
      rcases hk with hk | hk
      · exact congrArg Prod.fst hk
      · exact congrArg Prod.fst hk
    refine ⟨k', ?_⟩
    rw [hcourse.tryLine_eq, hnil, encodePieces_nil, List.append_nil, haccepted]
    rfl

/-- The same of a line whose failure is reported. -/
theorem exists_executeLine_recording (hw : writer.NeverFails)
    (hs : s.settings.interactive = false) (line : String) (accepted : Bytes) (k : κ) :
    ∃ k', executeLine (host.writingTo writer.recording) line (s.beside (accepted, k)) =
      ((executeLine host.unheard line s).1, (executeLine host.unheard line s).2.beside
        (accepted ++ encodePieces (output host line s), k')) := by
  obtain ⟨k', htry⟩ := exists_tryLine_recording hw hs line accepted k
  refine ⟨k', ?_⟩
  rw [executeLine, executeLine, htry]
  cases hunheard : tryLine host.unheard line s with
  | mk r s' =>
    cases r with
    | ok flow => rfl
    | error cause => rfl

/-! ### One answer of a source -/

/-- The bytes that a session writes when it handles an answer. -/
def itemBytes (host : Host ω) (item : InputItem) (s : Session ω) : Bytes :=
  match item with
  | .ok (some line) => encodePieces (output host line s)
  | _ => []

/-- **What is made of an answer is the same unheard**, and all that is written is accepted. -/
theorem exists_handle_recording (hw : writer.NeverFails) (hs : s.settings.interactive = false)
    (item : InputItem) (accepted : Bytes) (k : κ) :
    ∃ k', handle (host.writingTo writer.recording) item (s.beside (accepted, k)) =
      ((handle host.unheard item s).1, (handle host.unheard item s).2.beside
        (accepted ++ itemBytes host item s, k')) := by
  match item with
  | .ok (some line) =>
      obtain ⟨k', hline⟩ := @exists_executeLine_recording _ _ host _ _ hw hs line accepted k
      refine ⟨k', ?_⟩
      simp only [handle, hline, itemBytes]
      cases hunheard : executeLine host.unheard line s with
      | mk flow s' =>
        cases flow with
        | proceed => rfl
        | exit status => rfl
  | .ok none =>
      obtain ⟨k', hflush⟩ := @Host.exists_flush_recording _ _ host writer hw accepted k s.world
      refine ⟨k', ?_⟩
      have hanswer : inWorld (host.writingTo writer.recording).flush (s.beside (accepted, k)) =
          (.ok (), s.beside (accepted, k')) := by
        simp only [inWorld, Session.beside, hflush]
      simp only [handle, hanswer, itemBytes, List.append_nil]
      rfl
  | .error cause =>
      refine ⟨k, ?_⟩
      simp only [handle, itemBytes, List.append_nil]
      split
      · rfl
      · rfl

/-! ### Sessions that agree -/

/-- Two sessions that agree in all but the state of their receivers. -/
structure Agree (a b : Session ((Bytes × κ) × ω)) : Prop where
  /-- They have the same settings. -/
  settings : a.settings = b.settings
  /-- They have taken as many lines. -/
  lineNumber : a.lineNumber = b.lineNumber
  /-- They have recorded the same status. -/
  lastStatus : a.lastStatus = b.lastStatus
  /-- The same bytes were accepted. -/
  accepted : a.world.1.1 = b.world.1.1
  /-- Their surroundings are the same, with the working directory, all files and all that was
  reported. -/
  surroundings : a.world.2 = b.world.2

theorem agree_beside (s : Session ω) (accepted : Bytes) (k k' : κ) :
    Agree (s.beside (accepted, k)) (s.beside (accepted, k')) := ⟨rfl, rfl, rfl, rfl, rfl⟩

/-- Both are the same session beside receivers that have accepted the same. -/
theorem Agree.exists_eq {a b : Session ((Bytes × κ) × ω)} (h : Agree a b) :
    ∃ (s : Session ω) (accepted : Bytes) (k k' : κ), s.settings = a.settings ∧
      a = s.beside (accepted, k) ∧ b = s.beside (accepted, k') := by
  obtain ⟨settings, lineNumber, lastStatus, ⟨accepted, k⟩, w⟩ := a
  obtain ⟨settings', lineNumber', lastStatus', ⟨accepted', k'⟩, w'⟩ := b
  obtain ⟨rfl, rfl, rfl, rfl, rfl⟩ := h
  exact ⟨⟨settings, lineNumber, lastStatus, w⟩, accepted, k, k', rfl, rfl, rfl⟩

/-- **Sessions that agree make the same of an answer**, and go on to agree. -/
theorem Agree.handle {a b : Session ((Bytes × κ) × ω)} (h : Agree a b) (hw : writer.NeverFails)
    (ha : a.settings.interactive = false) (item : InputItem) :
    (Session.handle (host.writingTo writer.recording) item a).1 =
        (Session.handle (host.writingTo writer.recording) item b).1 ∧
      Agree (Session.handle (host.writingTo writer.recording) item a).2
        (Session.handle (host.writingTo writer.recording) item b).2 := by
  obtain ⟨s, accepted, k₁, k₂, hsettings, rfl, rfl⟩ := h.exists_eq
  have hs : s.settings.interactive = false := ha
  obtain ⟨k₁', hfirst⟩ := @exists_handle_recording _ _ host _ _ hw hs item accepted k₁
  obtain ⟨k₂', hsecond⟩ := @exists_handle_recording _ _ host _ _ hw hs item accepted k₂
  rw [hfirst, hsecond]
  exact ⟨rfl, agree_beside _ _ _ _⟩

end Session

end

end LineShell
