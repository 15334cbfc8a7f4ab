/-
**Calls of built-in commands.**

A command is called by its place in the table, with all tokens of its line.  `cd` reads its second
token without asking whether there is one: what it relies on is the check that comes before every
command, against the number that stands in the table.  Whether that is enough can only be told where
a token that is not there is a failure, so commands are also given with the tokens read by their
places.

A call goes one of nine ways.  The first two are refusals, which come before anything is written or
changed.  Otherwise the command writes, and does nothing else, or it does something and writes
nothing.  What a receiver of limited size accepts, and whether it fails, follows from what is
written when there is no limit.

Main definitions:

* `LineShell.Builtin.performIndexed`, `LineShell.Builtin.invokeIndexed` — commands and calls that
  read tokens by their places;
* `LineShell.Builtin.Call` — **the ways that a call can go**.

Main results:

* `LineShell.Builtin.invokeIndexed_eq` — no call reads a token that is not there;
* `LineShell.Builtin.call_invoke` — a call goes one of these ways;
* `LineShell.Builtin.invoke_limited` — a call that writes to a receiver of limited size;
* `LineShell.Builtin.invoke_is_safe` — **what holds of every call**.
-/

import LineShell.Proofs.Builtin.Output
import LineShell.Proofs.Session.Directory

set_option autoImplicit false

namespace LineShell

/-! ### Receivers whose handing on may fail -/

namespace Sink

/-- Whether handing on fails makes no difference to what is accepted. -/
theorem write_flushFails (bytes : Bytes) (s : Sink) (fails : Bool) :
    write bytes { s with flushFails := fails } =
      ((write bytes s).1, { (write bytes s).2 with flushFails := fails }) := by
  unfold write
  cases s.room with
  | none => rfl
  | some n =>
      dsimp only
      split
      · rfl
      · rfl

theorem writeAll_flushFails (pieces : List String) (s : Sink) (fails : Bool) :
    Sink.writer.writeAll pieces { s with flushFails := fails } =
      ((Sink.writer.writeAll pieces s).1,
        { (Sink.writer.writeAll pieces s).2 with flushFails := fails }) := by
  induction pieces generalizing s with
  | nil => rfl
  | cons piece rest ih =>
      have hfails : Sink.writer.write (Utf8.encode piece) { s with flushFails := fails } = _ :=
        write_flushFails (Utf8.encode piece) s fails
      rw [Writer.writeAll]
      cases hwrite : Sink.writer.write (Utf8.encode piece) s with
      | mk r s' =>
        have hanswer : write (Utf8.encode piece) s = (r, s') := hwrite
        rw [hanswer] at hfails
        cases r with
        | error e => rw [Act.bind_of_error hfails, Act.bind_of_error hwrite]
        | ok _ => rw [Act.bind_of_ok hfails, Act.bind_of_ok hwrite, ih]

/-- What an empty receiver makes of pieces of text: it accepts the first bytes, and fails if there
are more than it has room for. -/
theorem writeAll_empty (limit : Option Nat) (fails : Bool) (pieces : List String) :
    Sink.writer.writeAll pieces (empty limit fails) =
      (if fits limit [] (encodePieces pieces) then .ok () else .error full,
        { holding limit (encodePieces pieces) with flushFails := fails }) := by
  have hholding := writeAll_holding limit [] pieces
  have hempty : empty limit fails = { holding limit [] with flushFails := fails } := by
    rw [holding_nil]
    rfl
  rw [hempty, writeAll_flushFails, hholding, List.nil_append]

end Sink

namespace Builtin

variable {κ ω δ : Type}

/-! ### Tokens that are read by their places -/

section

variable (host : Host ω)

/-- A command with the tokens of its line, of which it reads one by its place; the failure `none` is
that there is no such token. -/
def performIndexed (command : Builtin) (tokens : List String) : Act ω (Option BuiltinError) Flow :=
  match command with
  | .cd =>
    match tokens[1]? with
    | some directory =>
      (do enterDirectory host directory; return .proceed : Act ω BuiltinError Flow).mapError some
    | none => throw none
  | command => (perform host command tokens).mapError some

/-- A call by place of a command that reads tokens by their places. -/
def invokeIndexed (index : Nat) (tokens : List String) : Act ω (Option BuiltinError) Flow :=
  match table[index]? with
  | none => throw (some (.unknownIndex index))
  | some command =>
    if tokens.length - 1 < command.leastArguments then throw (some (.usage command.usage))
    else performIndexed host command tokens

/-- Behind the check a command finds every token that it reads. -/
theorem performIndexed_eq {command : Builtin} {tokens : List String}
    (henough : ¬ tokens.length - 1 < command.leastArguments) :
    performIndexed host command tokens = (perform host command tokens).mapError some := by
  cases command with
  | question | help | exit | pwd => rfl
  | cd =>
      match tokens with
      | [] | [_] => exact absurd Nat.one_pos henough
      | _ :: directory :: _ => rfl

/-- **No call reads a token that is not there**, whatever its place and its tokens are. -/
theorem invokeIndexed_eq (index : Nat) (tokens : List String) :
    invokeIndexed host index tokens = (invoke host index tokens).mapError some := by
  unfold invokeIndexed invoke
  cases table[index]? with
  | none => rfl
  | some command =>
      dsimp only
      by_cases hfew : tokens.length - 1 < command.leastArguments
      · rw [if_pos hfew, if_pos hfew]
        rfl
      · rw [if_neg hfew, if_neg hfew, performIndexed_eq host hfew]

/-- Without the check there would be a call that does. -/
example (w : ω) : performIndexed host .cd ["cd"] w = (.error none, w) := rfl

end

/-! ### The ways that a call can go -/

/-- How a call by place goes, with its answer, and the receiver and the surroundings afterwards. -/
inductive Call (host : Host ω) (writer : Writer κ) (index : Nat) (tokens : List String) (k : κ)
    (w : ω) : Except BuiltinError Flow → κ → ω → Prop where
  /-- The table has no such place. -/
  | unknown (place : table[index]? = none) :
    Call host writer index tokens k w (.error (.unknownIndex index)) k w
  /-- Too few arguments follow the name. -/
  | few {command : Builtin} (place : table[index]? = some command)
    (few : tokens.tail.length < command.leastArguments) :
    Call host writer index tokens k w (.error (.usage command.usage)) k w
  /-- All of the command's output is written. -/
  | wrote {command : Builtin} {k' : κ} (place : table[index]? = some command)
    (enough : ¬ tokens.tail.length < command.leastArguments)
    (writes : output host command w ≠ [])
    (written : writer.writeAll (output host command w) k = (.ok (), k')) :
    Call host writer index tokens k w (.ok .proceed) k' w
  /-- The command's output cannot be written. -/
  | unwritten {command : Builtin} {cause : IoError} {k' : κ} (place : table[index]? = some command)
    (enough : ¬ tokens.tail.length < command.leastArguments)
    (writes : output host command w ≠ [])
    (written : writer.writeAll (output host command w) k = (.error cause, k')) :
    Call host writer index tokens k w (.error (.io cause)) k' w
  /-- The session ends. -/
  | ended (place : table[index]? = some .exit) :
    Call host writer index tokens k w (.ok (.exit 0)) k w
  /-- The working directory has no path. -/
  | nowhere {cause : IoError} (place : table[index]? = some .pwd)
    (directory : host.workingDirectory w = .error cause) :
    Call host writer index tokens k w (.error (.workingDirectory cause)) k w
  /-- A directory is entered. -/
  | entered {name directory : String} {rest : List String} {path : CString} {w' : ω}
    (place : table[index]? = some .cd) (named : tokens = name :: directory :: rest)
    (spelled : CString.ofString directory = .ok path)
    (changed : host.changeDirectory path w = (.ok (), w')) :
    Call host writer index tokens k w (.ok .proceed) k w'
  /-- A directory cannot be entered. -/
  | unentered {name directory : String} {rest : List String} {path : CString} {cause : IoError}
    {w' : ω} (place : table[index]? = some .cd) (named : tokens = name :: directory :: rest)
    (spelled : CString.ofString directory = .ok path)
    (changed : host.changeDirectory path w = (.error cause, w')) :
    Call host writer index tokens k w (.error (.changeDirectory directory cause)) k w'
  /-- A directory cannot be named. -/
  | unnamed {name directory : String} {rest : List String} {fault : NulError}
    (place : table[index]? = some .cd) (named : tokens = name :: directory :: rest)
    (spelled : CString.ofString directory = .error fault) :
    Call host writer index tokens k w (.error (.changeDirectory directory .nulInPath)) k w

section

variable (host : Host ω) (writer : Writer κ) {index : Nat} {tokens : List String} {k : κ} {w : ω}

/-- The answer of a call, and the receiver and the surroundings after it, are those of one way. -/
abbrev Goes (index : Nat) (tokens : List String) (k : κ) (w : ω)
    (called : Except BuiltinError Flow × κ × ω) : Prop :=
  Call host writer index tokens k w called.1 called.2.1 called.2.2

/-- A command that needs arguments writes nothing. -/
theorem output_eq_nil_of_few {command : Builtin}
    (few : tokens.tail.length < command.leastArguments) : output host command w = [] := by
  cases command with
  | cd => rfl
  | question | help | exit | pwd => exact absurd few (Nat.not_lt_zero _)

/-- A command that writes does nothing but write. -/
theorem goes_of_output {command : Builtin} (place : table[index]? = some command)
    (enough : ¬ tokens.tail.length < command.leastArguments)
    (writes : output host command w ≠ []) :
    Goes host writer index tokens k w
      (perform (host.writingTo writer) command tokens (k, w)) := by
  rw [perform_writingTo, perform_mute_of_output_ne_nil writes, heard]
  cases hwritten : writer.writeAll (output host command w) k with
  | mk r k' =>
    cases r with
    | ok _ => exact .wrote place enough writes hwritten
    | error cause => exact .unwritten place enough writes hwritten

/-- `cd` enters the directory that its first argument names, or fails. -/
theorem goes_cd (place : table[index]? = some .cd)
    (enough : ¬ tokens.tail.length < Builtin.cd.leastArguments) :
    Goes host writer index tokens k w (perform (host.writingTo writer) .cd tokens (k, w)) := by
  match tokens with
  | [] | [_] => exact absurd Nat.one_pos enough
  | name :: directory :: rest =>
    rw [perform_cd_writingTo, perform, enterDirectory]
    cases spelled : CString.ofString directory with
    | error fault => exact .unnamed place rfl spelled
    | ok path =>
      cases changed : host.changeDirectory path w with
      | mk r w' =>
        have hmute : host.mute.changeDirectory path w = (r, w') := changed
        cases r with
        | error cause =>
            rw [Act.bind_of_error (Act.mapError_of_error hmute _)]
            exact .unentered place rfl spelled changed
        | ok _ =>
            rw [Act.bind_of_ok (Act.mapError_of_ok hmute _)]
            exact .entered place rfl spelled changed

/-- Behind the check a command goes one of the other seven ways. -/
theorem goes_perform {command : Builtin} (place : table[index]? = some command)
    (enough : ¬ tokens.tail.length < command.leastArguments) :
    Goes host writer index tokens k w
      (perform (host.writingTo writer) command tokens (k, w)) := by
  cases command with
  | question => exact goes_of_output host writer place enough (List.cons_ne_nil _ _)
  | help => exact goes_of_output host writer place enough (List.cons_ne_nil _ _)
  | exit => exact .ended place
  | cd => exact goes_cd host writer place enough
  | pwd =>
      cases hdirectory : host.workingDirectory w with
      | ok path =>
          refine goes_of_output host writer place enough ?_
          rw [output, hdirectory]
          exact List.cons_ne_nil _ _
      | error cause =>
          have hprint := @printDirectory_of_error _ (host.writingTo writer) (k, w) cause hdirectory
          rw [perform, Act.bind_of_error hprint]
          exact .nowhere place hdirectory

/-- **A call goes one of these ways.** -/
theorem call_invoke (index : Nat) (tokens : List String) (k : κ) (w : ω) :
    Goes host writer index tokens k w (invoke (host.writingTo writer) index tokens (k, w)) := by
  unfold invoke
  cases place : table[index]? with
  | none => exact .unknown place
  | some command =>
      dsimp only
      -- the number of arguments is that of the tokens behind the name, also where there is no name
      rw [← List.length_tail]
      split
      · next few => exact .few place few
      · next enough => exact goes_perform host writer place enough

end

/-! ### What a call answers, and what it leaves alone -/

section

variable {host : Host ω} {writer : Writer κ} {index : Nat} {tokens : List String} {k k' : κ}
  {w w' : ω} {answer : Except BuiltinError Flow}

/-- The place is refused exactly if the table has none such. -/
theorem Call.eq_unknownIndex_iff (h : Call host writer index tokens k w answer k' w') (i : Nat) :
    answer = .error (.unknownIndex i) ↔ i = index ∧ table.length ≤ index := by
  rw [← List.getElem?_eq_none_iff]
  cases h with
  | unknown place => simp [place, eq_comm]
  | _ place => simp [place]

/-- The arguments are refused exactly if too few follow the name. -/
theorem Call.eq_usage_iff (h : Call host writer index tokens k w answer k' w') {command : Builtin}
    (place : table[index]? = some command) (text : String) :
    answer = .error (.usage text) ↔
      text = command.usage ∧ tokens.tail.length < command.leastArguments := by
  have hsame : ∀ {command'}, table[index]? = some command' → command' = command :=
    fun place' => Option.some.inj (place'.symm.trans place)
  cases h with
  | unknown place' => simp [place] at place'
  | few place' few =>
      obtain rfl := hsame place'
      rw [and_iff_left few]
      simp [eq_comm]
  | wrote place' enough | unwritten place' enough =>
      obtain rfl := hsame place'
      exact iff_of_false (by simp) fun hfew => enough hfew.2
  | ended place' | nowhere place' =>
      obtain rfl := hsame place'
      exact iff_of_false (by simp) fun hfew => Nat.not_lt_zero _ hfew.2
  | entered place' named | unentered place' named | unnamed place' named =>
      obtain rfl := hsame place'
      simp [named, leastArguments]

/-- A call that is refused writes nothing and changes nothing. -/
theorem Call.untouched_of_refused (h : Call host writer index tokens k w answer k' w')
    (refused : (∃ i, answer = .error (.unknownIndex i)) ∨ ∃ text, answer = .error (.usage text)) :
    k' = k ∧ w' = w := by
  cases h with
  | unknown | few => exact ⟨rfl, rfl⟩
  | _ => simp at refused

/-- A call that fails leaves the working directory, as far as the surroundings do when a directory
cannot be entered. -/
theorem Call.directory_eq {directory : ω → δ} {error : BuiltinError}
    (h : Call host writer index tokens k w (.error error) k' w')
    (hchange : ∀ {path : CString} {w w' : ω} {cause : IoError},
      host.changeDirectory path w = (.error cause, w') → directory w' = directory w) :
    directory w' = directory w := by
  cases h with
  | unentered place named spelled changed => exact hchange changed
  | _ => rfl

/-- Only `cd` changes the surroundings. -/
theorem Call.place_of_changed (h : Call host writer index tokens k w answer k' w')
    (changed : w' ≠ w) : table[index]? = some .cd := by
  cases h with
  | entered place | unentered place => exact place
  | _ => exact absurd rfl changed

/-- Only the list of commands and the path of the working directory are ever written. -/
theorem Call.place_of_written (h : Call host writer index tokens k w answer k' w')
    (written : k' ≠ k) :
    table[index]? = some .question ∨ table[index]? = some .help ∨ table[index]? = some .pwd := by
  cases h with
  | wrote place _ writes | unwritten place _ writes =>
      rw [place]
      simpa using eq_of_output_ne_nil writes
  | _ => exact absurd rfl written

/-- A failure to write is always the receiver's. -/
theorem Call.eq_io_iff (h : Call host writer index tokens k w answer k' w') (cause : IoError) :
    answer = .error (.io cause) ↔
      (writer.writeAll (outputAt host index w) k).1 = .error cause := by
  -- a receiver that is sent nothing has nothing to fail at
  have hnothing : outputAt host index w = [] →
      (writer.writeAll (outputAt host index w) k).1 ≠ .error cause := by
    intro hnil hfailed
    rw [hnil] at hfailed
    cases hfailed
  cases h with
  | wrote place _ _ written => simp [outputAt, place, written]
  | unwritten place _ _ written => simp [outputAt, place, written]
  | few place few =>
      refine iff_of_false (by simp) (hnothing ?_)
      rw [outputAt, place]
      exact output_eq_nil_of_few host few
  | unknown place | ended place | entered place | unentered place | unnamed place =>
      exact iff_of_false (by simp) (hnothing (by simp [outputAt, place, output]))
  | nowhere place directory =>
      exact iff_of_false (by simp) (hnothing (by simp [outputAt, place, output, directory]))

end

/-! ### Receivers of limited size -/

section

variable (host : Host ω)

/-- A receiver hears of a command what it writes. -/
theorem heard_receiver (writer : Writer κ) (pieces : List String)
    (unheard : Except BuiltinError Flow × ω) (k : κ) (w : ω) :
    (heard writer pieces unheard k w).2.1 = (writer.writeAll pieces k).2 := by
  unfold heard
  cases writer.writeAll pieces k with
  | mk r k' =>
    cases r with
    | ok _ => rfl
    | error _ => rfl

/-- What an empty receiver accepts of a call's output. -/
theorem received_invoke (index : Nat) (tokens : List String) (limit : Option Nat) (fails : Bool)
    (w : ω) :
    (invoke (host.writingTo Sink.writer) index tokens (Sink.empty limit fails, w)).2.1.received =
      (Sink.holding limit (encodePieces (outputAt host index w))).received := by
  rw [invoke_writingTo, heard_receiver, Sink.writeAll_empty]

/-- **A call that writes to a receiver with room for so many bytes**: the first bytes of the output
are accepted, and the call fails for that exactly if there are more. -/
theorem invoke_limited (index : Nat) (tokens : List String) (n : Nat) (fails : Bool) (w : ω) :
    let written :=
      (invoke (host.writingTo Sink.writer) index tokens (Sink.empty none fails, w)).2.1.received
    let called := invoke (host.writingTo Sink.writer) index tokens (Sink.empty (some n) fails, w)
    called.2.1.received = written.take n ∧
      ((∃ cause, called.1 = .error (.io cause)) ↔ n < written.length) := by
  dsimp only
  rw [received_invoke, received_invoke]
  refine ⟨rfl, ?_⟩
  -- a call fails to write where its pieces do not fit, and together they fit or not as one
  have hgoes := call_invoke host Sink.writer index tokens (Sink.empty (some n) fails) w
  simp only [hgoes.eq_io_iff, Sink.writeAll_empty, Sink.holding, Sink.fits, List.length_nil,
    Nat.sub_zero, decide_eq_true_eq]
  split
  · next hfits => simpa using hfits
  · next hfits => simpa using hfits

end

/-! ### Every call -/

/-- **What holds of every call**, whatever its place, its tokens and the receiver are and however
the surroundings behave.

No token is read that is not there.  The place is refused exactly if the table has none such, and
then the arguments exactly if too few follow the name; what is refused has written and changed
nothing.  A call that fails leaves the working directory, only `cd` changes anything around the
session, and only the list of commands and the path of the working directory are written.  A
receiver with room for so many bytes is sent the first bytes of what one without a limit is sent,
and fails exactly if there are more. -/
theorem invoke_is_safe (host : Host ω) (directory : ω → δ)
    (hchange : ∀ {path : CString} {w w' : ω} {cause : IoError},
      host.changeDirectory path w = (.error cause, w') → directory w' = directory w)
    (writer : Writer κ) (index : Nat) (tokens : List String) (k : κ) (w : ω) :
    let called := invoke (host.writingTo writer) index tokens (k, w)
    invokeIndexed (host.writingTo writer) index tokens (k, w) =
        (invoke (host.writingTo writer) index tokens).mapError some (k, w) ∧
      (∀ i, called.1 = .error (.unknownIndex i) ↔ i = index ∧ table.length ≤ index) ∧
      (∀ command, table[index]? = some command → ∀ text, called.1 = .error (.usage text) ↔
        text = command.usage ∧ tokens.tail.length < command.leastArguments) ∧
      ((∃ i, called.1 = .error (.unknownIndex i)) ∨ (∃ text, called.1 = .error (.usage text)) →
        called.2 = (k, w)) ∧
      (∀ error, called.1 = .error error → directory called.2.2 = directory w) ∧
      (called.2.2 ≠ w → table[index]? = some .cd) ∧
      (called.2.1 ≠ k →
        table[index]? = some .question ∨ table[index]? = some .help ∨
          table[index]? = some .pwd) ∧
      ∀ n fails,
        let written :=
          (invoke (host.writingTo Sink.writer) index tokens (Sink.empty none fails, w)).2.1.received
        let limited :=
          invoke (host.writingTo Sink.writer) index tokens (Sink.empty (some n) fails, w)
        limited.2.1.received = written.take n ∧
          ((∃ cause, limited.1 = .error (.io cause)) ↔ n < written.length) := by
  intro called
  have hgoes : Goes host writer index tokens k w called := call_invoke host writer index tokens k w
  refine ⟨congrFun (invokeIndexed_eq _ index tokens) (k, w), hgoes.eq_unknownIndex_iff,
    fun _ place => hgoes.eq_usage_iff place, ?_, ?_, hgoes.place_of_changed,
    hgoes.place_of_written, fun n fails => invoke_limited host index tokens n fails w⟩
  · intro refused
    obtain ⟨hk, hw⟩ := hgoes.untouched_of_refused refused
    exact Prod.ext hk hw
  · intro error herror
    rw [Goes, herror] at hgoes
    exact hgoes.directory_eq hchange

/-- On a machine, the list of commands for a receiver with room for three bytes. -/
theorem invoke_is_safe_help :
    let m := Machine.boot ⟨#[.directory [] 0]⟩ .null [] Machine.FileTree.root
    let called := invoke (Machine.host.writingTo Sink.writer) 1 [] (Sink.empty (some 3) false, m)
    (∀ {path : CString} {w w' : Machine.State} {cause : IoError},
        Machine.host.changeDirectory path w = (.error cause, w') →
          w'.process.directory = w.process.directory) ∧
      called.2.1.received = Utf8.encode "? -" ∧ ∃ cause, called.1 = .error (.io cause) := by
  intro m called
  have hchange : ∀ {path : CString} {w w' : Machine.State} {cause : IoError},
      Machine.host.changeDirectory path w = (.error cause, w') →
        w'.process.directory = w.process.directory :=
    (Session.keepsDirectory_machine fun _ =>
      Act.leaves_throw (.forkFailed Errno.interrupted)).changeDirectory
  obtain ⟨-, -, -, -, -, -, -, hlimited⟩ := invoke_is_safe Machine.host
    (fun m => m.process.directory) hchange Sink.writer 1 [] (Sink.empty (some 3) false) m
  obtain ⟨hreceived, hfails⟩ := hlimited 3 false
  rw [received_invoke] at hreceived hfails
  exact ⟨hchange, hreceived.trans (by decide +kernel), hfails.2 (by decide +kernel)⟩

end Builtin

end LineShell
