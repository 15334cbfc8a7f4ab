/-
**A command, and a script of one line.**

A command can be given to a session as it is, or as a script that holds nothing else.  The script
is read in bytes: its line may lack a line feed, or have a carriage return before it, its length is
held against the limit, and its bytes are read as text.  And a script has an end, at which the
session's output is handed on once more.

None of this makes a difference.  The text that is read is the command, but for one carriage return
at its end that the reader may have taken, and white space there plays no part.  A command without
any bytes makes a script without lines; but then it has no tokens either.

What the two sessions do is followed on one host, which keeps the diagnostics, the bytes that were
accepted as output, and the launches, children and openings beside the surroundings.  Two sessions
that agree on all of these have done the same.

Main definitions:

* `LineShell.Host.followed` — the host that keeps all that a session does;
* `LineShell.Session.Alike` — two sessions that have done the same.

Main results:

* `LineShell.exists_boundedLine_encode` — **what is read of a script of one line**;
* `LineShell.Session.run_of_boundedLine_end`, `LineShell.Session.run_of_boundedLine` — how a run
  goes on such a script;
* `LineShell.Session.single_line_script` — **a command and a script of one line do the same**.
-/

import LineShell.Machine.Boot
import LineShell.Machine.Host
import LineShell.Proofs.Input.Bounded
import LineShell.Proofs.Session.Pipeline
import LineShell.Proofs.Session.Receiver
import LineShell.Proofs.Text.Utf8
import LineShell.Proofs.Token.Trailing

set_option autoImplicit false

namespace LineShell

/-! ### The line of a script -/

/-- A carriage return at the end of a line makes no difference to its tokens. -/
theorem tokenize_concat_carriageReturn (cs : List Char) :
    tokenize (String.ofList (cs ++ ['\r'])) = tokenize (String.ofList cs) := by
  have hwhite : Text.isAllWhitespace ['\r'] = true := by decide
  refine tokenize_congr ?_
  rw [String.toList_ofList, String.toList_ofList,
    Token.scan_append_of_isAllWhitespace .between cs hwhite]

/-- What is left of a command without a carriage return at its end has the same tokens. -/
theorem exists_dropLastByte_encode (command : String) :
    ∃ line, dropLastByte carriageReturn (Utf8.encode command) = Utf8.encode line ∧
      tokenize line = tokenize command := by
  obtain ⟨front, hbytes, hfront⟩ := Utf8.exists_dropLastByte_encodeChars command.toList
  refine ⟨String.ofList front, by rwa [Utf8.encode, Utf8.encode, String.toList_ofList], ?_⟩
  rcases hfront with ⟨hsame, -⟩ | hreturn
  · rw [← hsame, String.ofList_toList]
  · rw [← tokenize_concat_carriageReturn, ← hreturn, String.ofList_toList]

/-- The bytes that may stand behind the only line of a script: none, a line feed, or a line feed
behind a carriage return. -/
def lineEndings : List Bytes := [[], [lineFeed], [carriageReturn, lineFeed]]

section

variable {limit : UInt64} {line command : String} {f : Feed}

/-- A piece within the limit is answered as the text that it was written for. -/
theorem pieceItem_of_encode {piece : Bytes}
    (hpiece : dropLastByte carriageReturn piece = Utf8.encode line)
    (hlength : (Utf8.encode line).length ≤ limit.toNat) :
    pieceItem limit piece = .ok (some line) := by
  rw [pieceItem, hpiece, Utf8.decodeLossy_encode, if_neg (by omega)]

/-- Behind the last byte there is no line. -/
theorem exists_boundedLine_nil (hlimit : limit.toNat + 2 < UInt64.size)
    (hfeed : f.Delivers [] none) : ∃ f', boundedLine limit f = (.ok none, f') := by
  obtain ⟨f', hanswer, -⟩ := boundedLine_unterminated hlimit List.not_mem_nil hfeed
  exact ⟨f', hanswer⟩

/-- A piece with a line feed behind it is one line. -/
theorem exists_boundedLine_terminated (hlimit : limit.toNat + 2 < UInt64.size) {piece : Bytes}
    (hfree : lineFeed ∉ piece) (hpiece : pieceItem limit piece = .ok (some line))
    (hfeed : f.Delivers (piece ++ [lineFeed]) none) :
    ∃ f' f'', boundedLine limit f = (.ok (some line), f') ∧
      boundedLine limit f' = (.ok none, f'') := by
  obtain ⟨f', hanswer, hdelivers⟩ := boundedLine_terminated hlimit hfree hfeed
  obtain ⟨f'', hend⟩ := exists_boundedLine_nil hlimit hdelivers
  rw [hpiece] at hanswer
  exact ⟨f', f'', hanswer, hend⟩

/-- So is a piece with nothing behind it, if it holds anything. -/
theorem exists_boundedLine_unterminated (hlimit : limit.toNat + 2 < UInt64.size) {piece : Bytes}
    (hfree : lineFeed ∉ piece) (hpiece : pieceItem limit piece = .ok (some line))
    (hsome : piece ≠ []) (hfeed : f.Delivers piece none) :
    ∃ f' f'', boundedLine limit f = (.ok (some line), f') ∧
      boundedLine limit f' = (.ok none, f'') := by
  obtain ⟨f', hanswer, hdelivers⟩ := boundedLine_unterminated hlimit hfree hfeed
  obtain ⟨f'', hend⟩ := exists_boundedLine_nil hlimit hdelivers
  rw [lastItem, if_neg hsome, hpiece] at hanswer
  exact ⟨f', f'', hanswer, hend⟩

/-- **What is read of a script of one line**: a line with the tokens of the command, and nothing
behind it; or, if the command has no tokens, perhaps nothing at all. -/
theorem exists_boundedLine_encode (hlimit : limit.toNat + 2 < UInt64.size)
    (hcommand : '\n' ∉ command.toList) (hlength : (Utf8.encode command).length ≤ limit.toNat)
    {ending : Bytes} (hending : ending ∈ lineEndings)
    (hfeed : f.Delivers (Utf8.encode command ++ ending) none) :
    (∃ f', boundedLine limit f = (.ok none, f') ∧ tokenize command = .ok []) ∨
      ∃ line f' f'', boundedLine limit f = (.ok (some line), f') ∧
        tokenize line = tokenize command ∧ boundedLine limit f' = (.ok none, f'') := by
  have hfree : lineFeed ∉ Utf8.encode command := 
    mt (Utf8.lineFeed_mem_encodeChars_iff command.toList).1 hcommand
  obtain ⟨line, hdropped, htokens⟩ := exists_dropLastByte_encode command
  have hline : pieceItem limit (Utf8.encode command) = .ok (some line) := by
    refine pieceItem_of_encode hdropped ?_
    have hshorter := dropLastByte_length_le carriageReturn (Utf8.encode command)
    rw [hdropped] at hshorter
    omega
  simp only [lineEndings, List.mem_cons, List.not_mem_nil, or_false] at hending
  rcases hending with rfl | rfl | rfl
  · rw [List.append_nil] at hfeed
    by_cases hempty : Utf8.encode command = []
    · -- without any bytes there is no line at all
      left
      rw [hempty] at hfeed
      obtain ⟨f', hend⟩ := exists_boundedLine_nil hlimit hfeed
      have hnone : command = "" := Utf8.eq_of_encode_eq hempty
      exact ⟨f', hend, by rw [hnone]; exact @tokenize_of_scan "" [] rfl⟩
    · right
      obtain ⟨f', f'', hread, hend⟩ :=
        exists_boundedLine_unterminated hlimit hfree hline hempty hfeed
      exact ⟨line, f', f'', hread, htokens, hend⟩
  · right
    obtain ⟨f', f'', hread, hend⟩ := exists_boundedLine_terminated hlimit hfree hline hfeed
    exact ⟨line, f', f'', hread, htokens, hend⟩
  · right
    -- here the reader takes the carriage return of the ending, and leaves the command as it is
    have hwhole : pieceItem limit (Utf8.encode command ++ [carriageReturn]) = .ok (some command) :=
      pieceItem_of_encode (dropLastByte_concat _ _) hlength
    have hpiece : lineFeed ∉ Utf8.encode command ++ [carriageReturn] := by
      simp only [List.mem_append, List.mem_singleton, not_or]
      exact ⟨hfree, by decide⟩
    have hfeed' : f.Delivers (Utf8.encode command ++ [carriageReturn] ++ [lineFeed]) none := by
      rw [List.append_assoc]
      exact hfeed
    obtain ⟨f', f'', hread, hend⟩ := exists_boundedLine_terminated hlimit hpiece hwhole hfeed'
    exact ⟨command, f', f'', hread, rfl, hend⟩

end

/-! ### Runs over one line -/

namespace Session

section

variable {ω : Type} {host : Host ω} {limit : UInt64} {f f' f'' : Feed} {line : String}
  {s : Session ω}

/-- Nothing of a line counts but its tokens. -/
theorem executeLine_congr {line line' : String} (h : tokenize line = tokenize line')
    (s : Session ω) : executeLine host line s = executeLine host line' s := by
  rw [executeLine, executeLine, tryLine, tryLine, h]

/-- A session that is not interactive shows no prompt before it reads. -/
theorem ask_boundedLines (hs : s.settings.interactive = false) {item : InputItem}
    (h : boundedLine limit f = (item, f')) :
    ask host (boundedLines ω limit) f s = (.ok item, f', s) := by
  have hget : (get : Act (Session ω) SessionError (Session ω)) s = (.ok s, s) := rfl
  have hprompt : s.prompt = "" := by
    rw [prompt, hs]
    rfl
  have hshow : showPrompt host (boundedLines ω limit) s = (.ok (), s) := by
    rw [showPrompt, Act.bind_of_ok hget, hprompt]
    rfl
  exact (ask_eq_ok_iff host _).2 (.intro hshow (next_boundedLines h _ _))

/-- At the end of a script the output is handed on once more. -/
theorem run_of_boundedLine_end (hw : host.NeverFails) (hs : s.settings.interactive = false)
    (h : boundedLine limit f = (.ok none, f')) :
    run host (boundedLines ω limit) f s =
      (.ok 0, f', { s with world := (host.flush s.world).2 }) := by
  have hends : InputItem.EndsRun (.ok none) := trivial
  exact run_of_handle_some (ask_boundedLines hs h)
    (Prod.ext (handle_of_endsRun host hw hends s) (handle_snd host _ s))

/-- A script of one line runs that line; at the end the output is handed on once more, unless the
line was the end already. -/
theorem run_of_boundedLine (hw : host.NeverFails) (hs : s.settings.interactive = false)
    (hline : boundedLine limit f = (.ok (some line), f'))
    (hend : boundedLine limit f' = (.ok none, f'')) :
    ∃ t s', run host (boundedLines ω limit) f s = (.ok 0, t, s') ∧
      s'.lastStatus = (executeLine host line s).2.lastStatus ∧
      (s'.world = (executeLine host line s).2.world ∨
        s'.world = (host.flush (executeLine host line s).2.world).2) := by
  have hask := @ask_boundedLines _ host _ _ _ _ hs _ hline
  by_cases hexit : IsExit line
  · -- `exit` ends the run, and the end of the script is never read
    have hends : InputItem.EndsRun (.ok (some line)) := hexit
    have hrun := run_of_handle_some hask
      (Prod.ext (handle_of_endsRun host hw hends s) (handle_snd host _ s))
    exact ⟨_, _, hrun, rfl, .inl rfl⟩
  · have hgoes : ¬ InputItem.EndsRun (.ok (some line)) := hexit
    have hrun := run_of_handle_none hask
      (Prod.ext (handle_of_not_endsRun host hgoes s) (handle_snd host _ s))
    have hquiet : (absorb host (.ok (some line)) s).settings.interactive = false := by
      show (executeLine host line s).2.settings.interactive = false
      rw [(keeps_executeLine host line s).1, hs]
    exact ⟨_, _, hrun.trans (run_of_boundedLine_end hw hquiet hend), rfl, .inr rfl⟩

end

end Session

/-! ### Following a session -/

section

variable {κ ω : Type}

/-- The host that keeps all that a session does beside the surroundings: its diagnostics, the bytes
that its receiver accepted, and what it did to children and files. -/
def Host.followed (host : Host ω) (kernel : Kernel ω) (writer : Writer κ) :
    Host ((List String × Bytes × κ) × List Deed × ω) :=
  { (host.tracing kernel).writingTo (writer.recording.within (List String)) with
    diagnose := fun text ((said, k), seen, w) => ((said ++ [text], k), seen, host.diagnose text w) }

variable {host : Host ω} {kernel : Kernel ω} {writer : Writer κ}

theorem Host.neverFails_followed (hw : writer.NeverFails) :
    (host.followed kernel writer).NeverFails :=
  have hrecording := Writer.neverFails_recording hw
  ⟨fun bytes s => hrecording.write bytes s.1.2, fun s => hrecording.flush s.1.2⟩

/-- Handing on what was accepted changes nothing but the receiver. -/
theorem Host.leaves_flush_followed :
    (host.followed kernel writer).flush.Leaves fun w => (w.1.1, w.1.2.1, w.2) := fun _ => rfl

namespace Session

/-- Two sessions that are followed have recorded the same status, reported and written the same, and
done the same to children and files, and their surroundings are the same. -/
structure Alike (a b : Session ((List String × Bytes × κ) × List Deed × ω)) : Prop where
  /-- They have recorded the same status. -/
  lastStatus : a.lastStatus = b.lastStatus
  /-- They have reported the same. -/
  diagnostics : a.world.1.1 = b.world.1.1
  /-- They have written the same. -/
  output : a.world.1.2.1 = b.world.1.2.1
  /-- They have launched the same programs, in as many children, which opened the same files. -/
  deeds : a.world.2.1 = b.world.2.1
  /-- Their surroundings are the same, with the working directory and all files. -/
  surroundings : a.world.2.2 = b.world.2.2

/-- It does not matter whether the output was handed on once more. -/
theorem alike_of_world {a b : Session ((List String × Bytes × κ) × List Deed × ω)}
    (hstatus : a.lastStatus = b.lastStatus)
    (hworld : a.world = b.world ∨ a.world = ((host.followed kernel writer).flush b.world).2) :
    Alike a b := by
  have hseen : (a.world.1.1, a.world.1.2.1, a.world.2) =
      (b.world.1.1, b.world.1.2.1, b.world.2) := by
    rcases hworld with hworld | hworld
    · rw [hworld]
    · rw [hworld]
      exact @Host.leaves_flush_followed _ _ host kernel writer b.world
  simp only [Prod.mk.injEq] at hseen
  obtain ⟨hdiagnostics, houtput, hrest⟩ := hseen
  exact ⟨hstatus, hdiagnostics, houtput, congrArg Prod.fst hrest, congrArg Prod.snd hrest⟩

/-- **A command and a script of one line do the same.**  The session is not interactive and its
receiver never fails; the command holds no line feed and is within the limit.  It is run as it is,
or as a script whose one line has no ending, a line feed, or a carriage return and a line feed, in
whatever pieces that is read.  The run of the script succeeds; and both report the same, write the
same, launch the same, record the same status, and leave the same working directory and files. -/
theorem single_line_script {limit : UInt64} (hlimit : limit.toNat + 2 < UInt64.size)
    (hw : writer.NeverFails) {command : String} (hcommand : '\n' ∉ command.toList)
    (hlength : (Utf8.encode command).length ≤ limit.toNat) {ending : Bytes}
    (hending : ending ∈ lineEndings) {f : Feed}
    (hfeed : f.Delivers (Utf8.encode command ++ ending) none)
    {s : Session ((List String × Bytes × κ) × List Deed × ω)}
    (hs : s.settings.interactive = false) :
    let following := host.followed kernel writer
    let script := run following (boundedLines _ limit) f s
    script.1 = .ok 0 ∧ Alike script.2.2 (executeLine following command s).2 := by
  intro following script
  have hnever : following.NeverFails := Host.neverFails_followed hw
  rcases exists_boundedLine_encode hlimit hcommand hlength hending hfeed with
    ⟨f', hend, hblank⟩ | ⟨line, f', f'', hline, htokens, hend⟩
  · have hrun : script = (.ok 0, f', { s with world := (following.flush s.world).2 }) :=
      run_of_boundedLine_end hnever hs hend
    rw [hrun, executeLine_of_blank hblank]
    exact ⟨rfl, @alike_of_world _ _ host kernel writer _ s rfl (.inr rfl)⟩
  · obtain ⟨t, s', hrun, hstatus, hworld⟩ := run_of_boundedLine hnever hs hline hend
    have hscript : script = (.ok 0, t, s') := hrun
    rw [hscript, ← executeLine_congr htokens]
    exact ⟨rfl, alike_of_world hstatus hworld⟩

/-- A command that ends with a carriage return, and the same as a script, in two pieces, of which
the second ends with another one and a line feed: both write the working directory. -/
theorem single_line_script_carriageReturn :
    let host := Machine.host.followed Machine.kernel Writer.collecting
    let s : Session ((List String × Bytes × Bytes) × List Deed × Machine.State) :=
      .start {} (([], [], []), [], Machine.boot Machine.furnished .null [] Machine.FileTree.root)
    let script := run host (boundedLines _ 4) ⟨[], [[112, 119], [100, 13, 13, 10]], none⟩ s
    (script.1 = .ok 0 ∧ Alike script.2.2 (executeLine host "pwd\r" s).2) ∧
      script.2.2.lastStatus = 0 ∧ script.2.2.world.1.1 = [] ∧
      script.2.2.world.1.2.1 = Utf8.encode "/\n" ∧ script.2.2.world.2.1 = [] := by
  intro host s script
  have halike : script.1 = .ok 0 ∧ Alike script.2.2 (executeLine host "pwd\r" s).2 :=
    single_line_script (by decide) ⟨fun _ _ => rfl, fun _ => rfl⟩ (by decide) (by decide)
      (by decide : [carriageReturn, lineFeed] ∈ lineEndings) ⟨rfl, by decide, rfl⟩ rfl
  have htokens : tokenize "pwd\r" = .ok ["pwd"] := @tokenize_of_scan "pwd\r" ["pwd".toList] rfl
  have hline : executeLine host "pwd\r" s = (.proceed,
      { s with world := (([], Utf8.encode "/\n", Utf8.encode "/\n"), s.world.2) }) :=
    @executeLine_pwd _ _ _ s _ htokens "/" _ _ rfl rfl rfl
  obtain ⟨hresult, hsame⟩ := halike
  have hstatus := hsame.lastStatus
  have hdiagnostics := hsame.diagnostics
  have houtput := hsame.output
  have hdeeds := hsame.deeds
  rw [hline] at hstatus hdiagnostics houtput hdeeds
  exact ⟨⟨hresult, hsame⟩, hstatus, hdiagnostics, houtput, hdeeds⟩

end Session

end

end LineShell
