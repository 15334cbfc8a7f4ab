/-
**What a built-in command writes, and what it does.**

`help` and `?` write the list of commands, `pwd` writes the path of the working directory, and the
other commands write nothing.  What a command writes does not depend on the receiver, and neither
does what it does: its answer and the surroundings afterwards are those of a command that is not
heard at all.  Only a failure of the receiver comes between, and a command that writes changes
nothing else.

A receiver of limited size accepts the first bytes of what is written, in however many pieces that
comes, and fails exactly if there is more.

Main definitions:

* `LineShell.Writer.writeAll` — pieces of text written one after the other;
* `LineShell.Sink.fits`, `LineShell.Sink.holding` — whether more bytes fit, and the receiver after
  all that was to be written;
* `LineShell.Host.mute` — the surroundings of a session that is not heard;
* `LineShell.Builtin.output`, `LineShell.Builtin.outputAt` — the pieces that a command writes;
* `LineShell.Builtin.heard` — what a command amounts to, from its output and from what it does
  unheard.

Main results:

* `LineShell.Sink.writeAll_holding` — what is written in pieces is accepted as if written at once;
* `LineShell.Builtin.invoke_writingTo` — **a command does what it does unheard, and writes its
  output**;
* `LineShell.Builtin.invoke_mute_of_outputAt_ne_nil` — a command that writes does nothing else.
-/

import LineShell.Builtin
import LineShell.Sink

set_option autoImplicit false

namespace LineShell

/-! ### Receivers -/

/-- Writes pieces of text one after the other, up to the first failure. -/
def Writer.writeAll {κ : Type} (writer : Writer κ) : List String → Act κ IoError Unit
  | [] => pure ()
  | piece :: rest => do
    writer.write (Utf8.encode piece)
    writer.writeAll rest

/-! ### Receivers of limited size -/

namespace Sink

/-- Whether more bytes fit behind those that were to be written. -/
def fits (limit : Option Nat) (written more : Bytes) : Bool :=
  match limit with
  | none => true
  | some n => decide (more.length ≤ n - written.length)

/-- The receiver after all that was to be written. -/
def holding (limit : Option Nat) (written : Bytes) : Sink :=
  match limit with
  | none => ⟨written, none, false⟩
  | some n => ⟨written.take n, some (n - written.length), false⟩

theorem holding_nil (limit : Option Nat) : holding limit [] = empty limit false := by
  cases limit with
  | none => rfl
  | some n => simp [holding, empty]

@[simp] theorem fits_nil (limit : Option Nat) (written : Bytes) : fits limit written [] = true := by
  cases limit with
  | none => rfl
  | some n => simp [fits]

/-- Bytes fit one part after the other exactly if they fit at once. -/
theorem fits_append (limit : Option Nat) (written more rest : Bytes) :
    fits limit written (more ++ rest) =
      (fits limit written more && fits limit (written ++ more) rest) := by
  cases limit with
  | none => rfl
  | some n =>
      simp only [fits, List.length_append, ← Bool.decide_and]
      congr 1
      simp only [eq_iff_iff]
      omega

/-- A full receiver stays as it is. -/
theorem holding_append_of_not_fits {limit : Option Nat} {written more : Bytes}
    (h : fits limit written more = false) (rest : Bytes) :
    holding limit (written ++ more ++ rest) = holding limit (written ++ more) := by
  cases limit with
  | none => cases h
  | some n =>
      simp only [fits, decide_eq_false_iff_not] at h
      -- there is no room left, and the first `n` bytes are among those that came before
      have hfull : n ≤ (written ++ more).length := by
        rw [List.length_append]
        omega
      rw [holding, holding, List.take_append_of_le_length hfull]
      simp only [List.length_append] at hfull ⊢
      congr 2
      omega

/-- The receiver accepts what fits, and the first part of what does not. -/
theorem write_holding (limit : Option Nat) (written more : Bytes) :
    write more (holding limit written) =
      (if fits limit written more then .ok () else .error full,
        holding limit (written ++ more)) := by
  cases limit with
  | none => rfl
  | some n =>
      simp only [write, holding, fits, decide_eq_true_eq, List.take_append, List.length_append]
      by_cases hfits : more.length ≤ n - written.length
      · rw [if_pos hfits, if_pos hfits, List.take_of_length_le hfits, Nat.sub_sub]
      · have hfull : n - (written.length + more.length) = 0 := by omega
        rw [if_neg hfits, if_neg hfits, hfull]

theorem flush_holding (limit : Option Nat) (written : Bytes) :
    flush (holding limit written) = (.ok (), holding limit written) := by
  cases limit with
  | none => rfl
  | some n => rfl

end Sink

/-- The bytes of pieces of text. -/
def encodePieces (pieces : List String) : Bytes := pieces.flatMap Utf8.encode

theorem encodePieces_nil : encodePieces [] = [] := rfl

theorem encodePieces_cons (piece : String) (rest : List String) :
    encodePieces (piece :: rest) = Utf8.encode piece ++ encodePieces rest := rfl

/-- **What is written in pieces is accepted as if it were written at once.** -/
theorem Sink.writeAll_holding (limit : Option Nat) (written : Bytes) (pieces : List String) :
    Sink.writer.writeAll pieces (holding limit written) =
      (if fits limit written (encodePieces pieces) then .ok () else .error full,
        holding limit (written ++ encodePieces pieces)) := by
  induction pieces generalizing written with
  | nil =>
      rw [encodePieces_nil, List.append_nil, fits_nil]
      rfl
  | cons piece rest ih =>
      have hwrite : Sink.writer.write (Utf8.encode piece) (holding limit written) = _ :=
        write_holding limit written (Utf8.encode piece)
      rw [Writer.writeAll, encodePieces_cons, fits_append, ← List.append_assoc]
      cases hfits : fits limit written (Utf8.encode piece) with
      | false =>
          rw [hfits] at hwrite
          rw [Act.bind_of_error hwrite, holding_append_of_not_fits hfits]
          rfl
      | true =>
          rw [hfits] at hwrite
          rw [Act.bind_of_ok hwrite, ih]
          rfl

/-! ### Commands -/

/-- The surroundings of a session that is not heard: its output is dropped, and so is what it
reports. -/
def Host.mute {ω : Type} (host : Host ω) : Host ω :=
  { host with write := fun _ => pure (), flush := pure (), diagnose := fun _ w => w }

namespace Builtin

variable {κ ω : Type} (host : Host ω) (writer : Writer κ)

/-- The pieces that a command writes. -/
def output (command : Builtin) (w : ω) : List String :=
  match command with
  | .question | .help => helpPieces
  | .pwd =>
    match host.workingDirectory w with
    | .ok path => [Utf8.decodeLossy path, "\n"]
    | .error _ => []
  | .exit | .cd => []

/-- The pieces that the command at a place of the table writes. -/
def outputAt (index : Nat) (w : ω) : List String :=
  match table[index]? with
  | some command => output host command w
  | none => []

/-- What is written goes to the receiver and changes nothing else. -/
theorem writePieces_writingTo (pieces : List String) (k : κ) (w : ω) :
    writePieces (host.writingTo writer) pieces (k, w) =
      (((writer.writeAll pieces k).1).mapError .io, (writer.writeAll pieces k).2, w) := by
  induction pieces generalizing k with
  | nil => rfl
  | cons piece rest ih =>
      cases hwrite : writer.write (Utf8.encode piece) k with
      | mk r k' =>
        have hhost : (host.writingTo writer).write (Utf8.encode piece) (k, w) = (r, k', w) := by
          simp only [Host.writingTo, hwrite]
        cases r with
        | error e =>
            rw [writePieces, Writer.writeAll, Act.bind_of_error hwrite]
            exact Act.bind_of_error (Act.mapError_of_error hhost _)
        | ok _ =>
            rw [writePieces, Writer.writeAll, Act.bind_of_ok hwrite]
            exact (Act.bind_of_ok (Act.mapError_of_ok hhost _)).trans (ih k')

theorem writePieces_mute (pieces : List String) (w : ω) :
    writePieces host.mute pieces w = (.ok (), w) := by
  induction pieces with
  | nil => rfl
  | cons piece rest ih => exact (Act.bind_of_ok rfl).trans ih

/-- What a command amounts to: what it does unheard, unless its output cannot be written. -/
def heard (pieces : List String) (unheard : Except BuiltinError Flow × ω) (k : κ) (w : ω) :
    Except BuiltinError Flow × κ × ω :=
  match writer.writeAll pieces k with
  | (.ok (), k') => (unheard.1, k', unheard.2)
  | (.error e, k') => (.error (.io e), k', w)

/-- A command that writes, and goes on, does nothing else. -/
theorem bind_writePieces (pieces : List String) (k : κ) (w : ω) :
    (do writePieces (host.writingTo writer) pieces; return .proceed : Act (κ × ω) BuiltinError Flow)
        (k, w) = heard writer pieces (.ok .proceed, w) k w := by
  have hwrite := writePieces_writingTo host writer pieces k w
  unfold heard
  cases hall : writer.writeAll pieces k with
  | mk r k' =>
    rw [hall] at hwrite
    cases r with
    | error e => exact Act.bind_of_error hwrite
    | ok _ => exact Act.bind_of_ok hwrite

theorem bind_writePieces_mute (pieces : List String) (w : ω) :
    (do writePieces host.mute pieces; return .proceed : Act ω BuiltinError Flow) w =
      (.ok .proceed, w) :=
  Act.bind_of_ok (writePieces_mute host pieces w)

theorem printDirectory_of_error {w : ω} {cause : IoError}
    (h : host.workingDirectory w = .error cause) :
    printDirectory host w = (.error (.workingDirectory cause), w) := by
  have hget : (get : Act ω BuiltinError ω) w = (.ok w, w) := rfl
  rw [printDirectory, Act.bind_of_ok hget, h]
  rfl

theorem printDirectory_of_ok {w : ω} {path : Bytes} (h : host.workingDirectory w = .ok path) :
    printDirectory host w = writePieces host [Utf8.decodeLossy path, "\n"] w := by
  have hget : (get : Act ω BuiltinError ω) w = (.ok w, w) := rfl
  rw [printDirectory, Act.bind_of_ok hget, h]

theorem perform_pwd_writingTo (tokens : List String) (k : κ) (w : ω) :
    perform (host.writingTo writer) .pwd tokens (k, w) =
      heard writer (output host .pwd w) (perform host.mute .pwd tokens w) k w := by
  cases hdirectory : host.workingDirectory w with
  | error cause =>
      have hhost := @printDirectory_of_error _ (host.writingTo writer) (k, w) cause hdirectory
      have hmute := @printDirectory_of_error _ host.mute w cause hdirectory
      rw [perform, perform, Act.bind_of_error hhost, Act.bind_of_error hmute, output, hdirectory]
      rfl
  | ok path =>
      have hhost := @printDirectory_of_ok _ (host.writingTo writer) (k, w) path hdirectory
      have hmute := @printDirectory_of_ok _ host.mute w path hdirectory
      rw [perform, perform, Act.bind_congr hhost, Act.bind_congr hmute, output, hdirectory]
      exact (bind_writePieces host writer _ k w).trans (by rw [← bind_writePieces_mute host])

theorem perform_cd_writingTo (tokens : List String) (k : κ) (w : ω) :
    perform (host.writingTo writer) .cd tokens (k, w) =
      ((perform host.mute .cd tokens w).1, k, (perform host.mute .cd tokens w).2) := by
  match tokens with
  | [] | [_] => rfl
  | _ :: directory :: _ =>
    simp only [perform, enterDirectory]
    cases CString.ofString directory with
    | error _ => rfl
    | ok path =>
      cases hchange : host.changeDirectory path w with
      | mk r w' =>
        have hmute : host.mute.changeDirectory path w = (r, w') := hchange
        have hhost : (host.writingTo writer).changeDirectory path (k, w) = (r, k, w') :=
          Act.within_of_eq hchange k
        cases r with
        | error cause =>
            rw [Act.bind_of_error (Act.mapError_of_error hhost _),
              Act.bind_of_error (Act.mapError_of_error hmute _)]
        | ok _ =>
            rw [Act.bind_of_ok (Act.mapError_of_ok hhost _),
              Act.bind_of_ok (Act.mapError_of_ok hmute _)]
            rfl

theorem perform_writingTo (command : Builtin) (tokens : List String) (k : κ) (w : ω) :
    perform (host.writingTo writer) command tokens (k, w) =
      heard writer (output host command w) (perform host.mute command tokens w) k w := by
  cases command with
  | question | help =>
      exact (bind_writePieces host writer helpPieces k w).trans
        (by rw [← bind_writePieces_mute host helpPieces w]; rfl)
  | exit => rfl
  | pwd => exact perform_pwd_writingTo host writer tokens k w
  | cd => exact perform_cd_writingTo host writer tokens k w

/-- **A command does what it does unheard, and writes its output**; if the receiver fails, that is
the answer, and nothing else was changed. -/
theorem invoke_writingTo (index : Nat) (tokens : List String) (k : κ) (w : ω) :
    invoke (host.writingTo writer) index tokens (k, w) =
      heard writer (outputAt host index w) (invoke host.mute index tokens w) k w := by
  unfold invoke outputAt
  cases table[index]? with
  | none => rfl
  | some command =>
    dsimp only
    split
    · next hfew =>
      -- only `cd` can be called with too few arguments, and it writes nothing
      cases command with
      | cd => rfl
      | question | help | exit | pwd => exact absurd hfew (Nat.not_lt_zero _)
    · exact perform_writingTo host writer command tokens k w

/-! ### Commands that write -/

variable {host} {w : ω}

/-- Only these three commands write. -/
theorem eq_of_output_ne_nil {command : Builtin} (h : output host command w ≠ []) :
    command = .question ∨ command = .help ∨ command = .pwd := by
  cases command with
  | question | help | pwd => simp
  | exit | cd => exact absurd rfl h

/-- The names of the commands that write. -/
theorem name_mem_of_outputAt_ne_nil {name : String} {index : Nat} (found : lookup name = some index)
    (h : outputAt host index w ≠ []) : name ∈ ["?", "help", "pwd"] := by
  obtain ⟨command, hat, rfl⟩ := (lookup_eq_some_iff name index).1 found
  rw [outputAt, hat] at h
  rcases eq_of_output_ne_nil h with rfl | rfl | rfl
  all_goals simp [Builtin.name]

theorem perform_mute_of_output_ne_nil {command : Builtin} (h : output host command w ≠ [])
    (tokens : List String) : perform host.mute command tokens w = (.ok .proceed, w) := by
  rcases eq_of_output_ne_nil h with rfl | rfl | rfl
  · exact bind_writePieces_mute host helpPieces w
  · exact bind_writePieces_mute host helpPieces w
  · cases hdirectory : host.workingDirectory w with
    | error cause =>
        rw [output, hdirectory] at h
        exact absurd rfl h
    | ok path =>
        have hmute := @printDirectory_of_ok _ host.mute w path hdirectory
        rw [perform, Act.bind_congr hmute]
        exact bind_writePieces_mute host _ w

/-- **A command that writes does nothing else**: unheard, it goes on and changes nothing. -/
theorem invoke_mute_of_outputAt_ne_nil {index : Nat} (h : outputAt host index w ≠ [])
    (tokens : List String) : invoke host.mute index tokens w = (.ok .proceed, w) := by
  unfold invoke
  unfold outputAt at h
  cases hat : table[index]? with
  | none =>
      rw [hat] at h
      exact absurd rfl h
  | some command =>
      rw [hat] at h
      have hleast : ¬ tokens.length - 1 < command.leastArguments := by
        rcases eq_of_output_ne_nil h with rfl | rfl | rfl
        all_goals exact Nat.not_lt_zero _
      simp only [if_neg hleast]
      exact perform_mute_of_output_ne_nil h tokens

end Builtin

end LineShell
