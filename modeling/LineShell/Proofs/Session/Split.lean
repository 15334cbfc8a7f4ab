/-
**A session in two parts.**

The lines of a session can be cut in two behind any line feed, and the parts run one after the
other.  The reader of limited lines keeps nothing from one line to the next: a line that is too long
is passed over to its line feed before the next is read, and a carriage return belongs to the line
feed behind it.  And a session keeps nothing of a run but its status, the number of its lines and
its surroundings.

One thing is done in the middle that is not done otherwise.  The first part has an end, at which the
output is handed on.  A receiver that never fails may notice, but the session does not.

A line `exit` in the first part ends the whole, so what comes behind it is not read.

Main definitions:

* `LineShell.Session.handleAll` — answers handled one after the other.

Main results:

* `LineShell.exists_splitItems_append` — the answers for two byte strings in a row;
* `LineShell.Session.handleAll_of_answers`, `LineShell.Session.run_of_handleAll` — a run handles the
  answers of the reader, and ends as that ends;
* `LineShell.Session.agree_handleAll_append` — the output may be handed on in the middle;
* `LineShell.Session.run_append` — **a session can be cut at any line feed**.
-/

import LineShell.Machine.Boot
import LineShell.Machine.Host
import LineShell.Proofs.Session.SingleLine

set_option autoImplicit false

namespace LineShell

/-! ### Answers for two byte strings in a row -/

/-- **Behind a line feed the answers begin anew**: those for a byte string that ends with one come
first, and those for what follows are what they are by themselves. -/
theorem exists_splitItems_append (limit : UInt64) {front : Bytes}
    (hfront : front = [] ∨ front.getLast? = some lineFeed) :
    ∃ items : List InputItem, (∀ item ∈ items, item.isLast = false) ∧
      ∀ back failure, splitItems limit (front ++ back) failure =
        items ++ splitItems limit back failure := by
  -- on the number of bytes, of which each line takes some
  obtain ⟨n, hlen⟩ : ∃ n, front.length = n := ⟨_, rfl⟩
  induction n using Nat.strongRecOn generalizing front with
  | ind n ih =>
      rcases hfront with rfl | hlast
      · exact ⟨[], by simp, fun back failure => rfl⟩
      obtain ⟨piece, rest, rfl, hp⟩ := List.eq_append_cons_of_mem (List.mem_of_getLast? hlast)
      have hrest : rest = [] ∨ rest.getLast? = some lineFeed := by
        cases rest with
        | nil => exact .inl rfl
        | cons b rest => exact .inr (by simpa using hlast)
      rw [List.length_append, List.length_cons] at hlen
      obtain ⟨items, hitems, hsplit⟩ := ih rest.length (by omega) hrest rfl
      refine ⟨pieceItem limit piece :: items, ?_, fun back failure => ?_⟩
      · exact List.forall_mem_cons.2 ⟨isLast_pieceItem limit piece, hitems⟩
      · rw [List.append_assoc, List.cons_append, splitItems_append_cons limit hp, hsplit]
        rfl

namespace Session

section

variable {ω : Type} (host : Host ω)

/-! ### Answers one after the other -/

/-- Handles answers one after the other, up to the first that ends the run: its result, if there is
one, and the session then. -/
def handleAll : List InputItem → Session ω → Option (Except SessionError Int) × Session ω
  | [], s => (none, s)
  | item :: rest, s =>
    match handle host item s with
    | (some result, s') => (some result, s')
    | (none, s') => handleAll rest s'

variable {host} in
theorem handleAll_of_handle_some {item : InputItem} {result : Except SessionError Int}
    {s s' : Session ω} (h : handle host item s = (some result, s')) (rest : List InputItem) :
    handleAll host (item :: rest) s = (some result, s') := by
  rw [handleAll, h]

variable {host} in
theorem handleAll_of_handle_none {item : InputItem} {s s' : Session ω}
    (h : handle host item s = (none, s')) (rest : List InputItem) :
    handleAll host (item :: rest) s = handleAll host rest s' := by
  rw [handleAll, h]

variable {host} in
/-- Nothing is handled behind an answer that ends the run. -/
theorem handleAll_append_of_some {front : List InputItem} {result : Except SessionError Int}
    {s s' : Session ω} (h : handleAll host front s = (some result, s')) (back : List InputItem) :
    handleAll host (front ++ back) s = (some result, s') := by
  induction front generalizing s with
  | nil => cases h
  | cons item rest ih =>
      rw [List.cons_append]
      cases hhandle : handle host item s with
      | mk answer s₁ =>
        cases answer with
        | some result₁ =>
            rw [handleAll_of_handle_some hhandle] at h ⊢
            exact h
        | none =>
            rw [handleAll_of_handle_none hhandle] at h ⊢
            exact ih h

variable {host} in
/-- Behind answers none of which ends the run, others are handled. -/
theorem handleAll_append_of_none {front : List InputItem} {s s' : Session ω}
    (h : handleAll host front s = (none, s')) (back : List InputItem) :
    handleAll host (front ++ back) s = handleAll host back s' := by
  induction front generalizing s with
  | nil => exact congrArg (handleAll host back) (congrArg Prod.snd h)
  | cons item rest ih =>
      rw [List.cons_append]
      cases hhandle : handle host item s with
      | mk answer s₁ =>
        cases answer with
        | some result₁ =>
            rw [handleAll_of_handle_some hhandle] at h
            cases h
        | none =>
            rw [handleAll_of_handle_none hhandle] at h ⊢
            exact ih h

/-- Answers none of which ends a run are all handled. -/
theorem handleAll_of_not_endsRun {items : List InputItem} (h : ∀ item ∈ items, ¬ item.EndsRun)
    (s : Session ω) : (handleAll host items s).1 = none := by
  induction items generalizing s with
  | nil => rfl
  | cons item rest ih =>
      have hgoes := handle_of_not_endsRun host (h item (List.mem_cons_self ..)) s
      rw [handleAll_of_handle_none (Prod.ext hgoes rfl)]
      exact ih (fun i hi => h i (List.mem_cons_of_mem item hi)) _

/-- Where the output never fails, one that ends a run ends it. -/
theorem exists_handleAll_of_endsRun (hw : host.NeverFails) {items : List InputItem}
    (h : ∃ item ∈ items, item.EndsRun) (s : Session ω) :
    ∃ result s', handleAll host items s = (some result, s') := by
  induction items generalizing s with
  | nil => simp at h
  | cons item rest ih =>
      by_cases hends : item.EndsRun
      · exact ⟨_, _, handleAll_of_handle_some
          (Prod.ext (handle_of_endsRun host hw hends s) rfl) rest⟩
      · have hgoes := handle_of_not_endsRun host hends s
        rw [handleAll_of_handle_none (Prod.ext hgoes rfl)]
        exact ih (by simpa [hends] using h) _

theorem exists_handle_of_isLast {item : InputItem} (h : item.isLast = true) (s : Session ω) :
    ∃ result, (handle host item s).1 = some result := by
  match item with
  | .ok (some _) | .error (.tooLong _) => cases h
  | .ok none | .error (.read _) | .error (.editor _) | .error .overflow => exact ⟨_, rfl⟩

/-- **A run handles the answers of the reader** one after the other, if the session shows no
prompts. -/
theorem handleAll_of_answers {limit : UInt64} {f f' : Feed} {items : List InputItem}
    (h : Answers limit f items f') {s : Session ω} (hs : s.settings.interactive = false) :
    handleAll host items s = (some (run host (boundedLines ω limit) f s).1,
      (run host (boundedLines ω limit) f s).2.2) := by
  induction h generalizing s with
  | @last f f' item hanswer hlast =>
      obtain ⟨result, hresult⟩ := exists_handle_of_isLast host hlast s
      have hhandle : handle host item s = (some result, (handle host item s).2) :=
        Prod.ext hresult rfl
      rw [handleAll_of_handle_some hhandle,
        run_of_handle_some (ask_boundedLines hs hanswer) hhandle]
  | @cons f f₁ f' item items hanswer _ _ ih =>
      have hask := @ask_boundedLines _ host _ _ _ _ hs _ hanswer
      cases hhandle : handle host item s with
      | mk answer s₁ =>
        cases answer with
        | some result => rw [handleAll_of_handle_some hhandle, run_of_handle_some hask hhandle]
        | none =>
            have hs₁ : s₁.settings.interactive = false := by
              have hkept := settings_handle host item s
              rw [hhandle] at hkept
              rw [hkept, hs]
            rw [handleAll_of_handle_none hhandle, run_of_handle_none hask hhandle]
            exact ih hs₁

/-- So a run ends as handling the answers of the splitter does. -/
theorem run_of_handleAll {limit : UInt64} (hlimit : limit.toNat + 2 < UInt64.size) {f : Feed}
    {bs : Bytes} {failure : Option IoError} (h : f.Delivers bs failure) {s s' : Session ω}
    (hs : s.settings.interactive = false) {result : Except SessionError Int}
    (hall : handleAll host (splitItems limit bs failure) s = (some result, s')) :
    (run host (boundedLines ω limit) f s).1 = result ∧
      (run host (boundedLines ω limit) f s).2.2 = s' := by
  have hrun := hall.symm.trans (handleAll_of_answers host (answers_splitItems hlimit h) hs)
  obtain ⟨hresult, hafter⟩ := Prod.mk.inj hrun
  exact ⟨(Option.some.inj hresult).symm, hafter.symm⟩

theorem settings_handleAll (items : List InputItem) (s : Session ω) :
    (handleAll host items s).2.settings = s.settings := by
  induction items generalizing s with
  | nil => rfl
  | cons item rest ih =>
      have hkept := settings_handle host item s
      cases hhandle : handle host item s with
      | mk answer s' =>
        rw [hhandle] at hkept
        cases answer with
        | some result => rw [handleAll_of_handle_some hhandle, hkept]
        | none => rw [handleAll_of_handle_none hhandle, ih, hkept]

end

/-! ### A receiver that never fails -/

section

variable {κ ω : Type} {host : Host ω} {writer : Writer κ}

/-- Handing on what was accepted changes no more than the state of the receiver. -/
theorem agree_absorb_end (hw : writer.NeverFails) (s : Session ((Bytes × κ) × ω)) :
    Agree s (absorb (host.writingTo writer.recording) (.ok none) s) := by
  obtain ⟨settings, lineNumber, lastStatus, ⟨accepted, k⟩, w⟩ := s
  obtain ⟨k', hflush⟩ := @Host.exists_flush_recording _ _ host writer hw accepted k w
  simp only [absorb, hflush]
  exact ⟨rfl, rfl, rfl, rfl, rfl⟩

/-- **Sessions that agree make the same of all answers.** -/
theorem Agree.handleAll {a b : Session ((Bytes × κ) × ω)} (h : Agree a b) (hw : writer.NeverFails)
    (ha : a.settings.interactive = false) (items : List InputItem) :
    (Session.handleAll (host.writingTo writer.recording) items a).1 =
        (Session.handleAll (host.writingTo writer.recording) items b).1 ∧
      Agree (Session.handleAll (host.writingTo writer.recording) items a).2
        (Session.handleAll (host.writingTo writer.recording) items b).2 := by
  -- both sessions change, so the induction is for any two that agree
  induction items generalizing a b with
  | nil => exact ⟨rfl, h⟩
  | cons item rest ih =>
      obtain ⟨hanswer, hagree⟩ := @Agree.handle _ _ host writer _ _ h hw ha item
      have hkept := settings_handle (host.writingTo writer.recording) item a
      cases hfirst : Session.handle (host.writingTo writer.recording) item a with
      | mk answer a' =>
        cases hsecond : Session.handle (host.writingTo writer.recording) item b with
        | mk answer' b' =>
          rw [hfirst, hsecond] at hanswer hagree
          rw [hfirst] at hkept
          cases hanswer
          cases answer with
          | some result =>
              rw [handleAll_of_handle_some hfirst, handleAll_of_handle_some hsecond]
              exact ⟨rfl, hagree⟩
          | none =>
              rw [handleAll_of_handle_none hfirst, handleAll_of_handle_none hsecond]
              exact ih hagree (by rw [hkept, ha])

/-- **The output may be handed on in the middle**: it makes no difference to what comes behind. -/
theorem agree_handleAll_append (hw : writer.NeverFails) {items : List InputItem}
    (hgoes : ∀ item ∈ items, ¬ item.EndsRun) (rest : List InputItem)
    {s : Session ((Bytes × κ) × ω)} (hs : s.settings.interactive = false) :
    let hearing := host.writingTo writer.recording
    let whole := Session.handleAll hearing (items ++ rest) s
    let first := Session.handleAll hearing (items ++ [.ok none]) s
    let second := Session.handleAll hearing rest first.2
    whole.1 = second.1 ∧ Agree whole.2 second.2 ∧ first.2.settings.interactive = false := by
  intro hearing whole first second
  have hnever : hearing.NeverFails :=
    Host.neverFails_writingTo (Writer.neverFails_recording hw) host
  have hnone := handleAll_of_not_endsRun hearing hgoes s
  have hkept := settings_handleAll hearing items s
  cases hreached : Session.handleAll hearing items s with
  | mk answer reached =>
    rw [hreached] at hnone hkept
    cases hnone
    have hquiet : reached.settings.interactive = false := by rw [hkept, hs]
    have hends : InputItem.EndsRun (.ok none) := trivial
    have hfirst : first.2 = absorb hearing (.ok none) reached := by
      have hend := handle_of_endsRun hearing hnever hends reached
      show (Session.handleAll hearing (items ++ [.ok none]) s).2 = _
      rw [handleAll_append_of_none hreached, handleAll_of_handle_some (Prod.ext hend rfl),
        handle_snd]
    have hagree : Agree reached first.2 := hfirst ▸ agree_absorb_end hw reached
    obtain ⟨hresult, hafter⟩ := @Agree.handleAll _ _ host _ _ _ hagree hw hquiet rest
    have hwhole : whole = Session.handleAll hearing rest reached :=
      handleAll_append_of_none hreached rest
    rw [hwhole]
    exact ⟨hresult, hafter, by rw [← hagree.settings, hquiet]⟩

variable {limit : UInt64} {front back : Bytes} {failure : Option IoError} {f g h : Feed}

/-- **A session can be cut at any line feed.**  It is not interactive and its receiver never fails;
the first part is empty or ends with a line feed, and each part is read in whatever pieces.  If no
line of the first part within the limit is `exit`, both parts one after the other give the same
result as the whole, and leave the same number of lines, status, output, working directory and
files.  Otherwise the whole does exactly what the first part does. -/
theorem run_append (hlimit : limit.toNat + 2 < UInt64.size) (hw : writer.NeverFails)
    (hfront : front = [] ∨ front.getLast? = some lineFeed) (hf : f.Delivers front none)
    (hg : g.Delivers back failure) (hh : h.Delivers (front ++ back) failure)
    {s : Session ((Bytes × κ) × ω)} (hs : s.settings.interactive = false) :
    let hearing := host.writingTo writer.recording
    let source := boundedLines ((Bytes × κ) × ω) limit
    let first := run hearing source f s
    let second := run hearing source g first.2.2
    let whole := run hearing source h s
    ((∀ line, .ok (some line) ∈ splitItems limit front none → ¬ IsExit line) →
        whole.1 = second.1 ∧ Agree whole.2.2 second.2.2) ∧
      ((∃ line, .ok (some line) ∈ splitItems limit front none ∧ IsExit line) →
        whole.1 = first.1 ∧ whole.2.2 = first.2.2) := by
  intro hearing source first second whole
  obtain ⟨items, hitems, hsplit⟩ := exists_splitItems_append limit hfront
  have hfrontItems : splitItems limit front none = items ++ [.ok none] := by
    have hnil := hsplit [] none
    rwa [List.append_nil, splitItems_nil_none] at hnil
  have hfirst : handleAll hearing (items ++ [.ok none]) s = (some first.1, first.2.2) := by
    rw [← hfrontItems]
    exact handleAll_of_answers hearing (answers_splitItems hlimit hf) hs
  have hwhole : handleAll hearing (items ++ splitItems limit back failure) s =
      (some whole.1, whole.2.2) := by
    rw [← hsplit]
    exact handleAll_of_answers hearing (answers_splitItems hlimit hh) hs
  rw [hfrontItems]
  constructor
  · intro hlines
    have hgoes : ∀ item ∈ items, ¬ item.EndsRun := by
      intro item hitem hends
      have hlast := hitems item hitem
      match item with
      | .ok (some line) => exact hlines line (List.mem_append_left _ hitem) hends
      | .error (.tooLong _) => cases hends
    obtain ⟨hresult, hagree, hquiet⟩ :=
      @agree_handleAll_append _ _ host _ hw _ hgoes (splitItems limit back failure) _ hs
    rw [hfirst] at hresult hagree hquiet
    have hsecond : handleAll hearing (splitItems limit back failure) first.2.2 =
        (some second.1, second.2.2) :=
      handleAll_of_answers hearing (answers_splitItems hlimit hg) hquiet
    rw [hwhole, hsecond] at hresult hagree
    exact ⟨Option.some.inj hresult, hagree⟩
  · rintro ⟨line, hline, hexit⟩
    have hnever : hearing.NeverFails :=
      Host.neverFails_writingTo (Writer.neverFails_recording hw) host
    have hends : ∃ item ∈ items, item.EndsRun := ⟨.ok (some line), by simpa using hline, hexit⟩
    obtain ⟨result, reached, hreached⟩ := exists_handleAll_of_endsRun hearing hnever hends s
    rw [handleAll_append_of_some hreached] at hfirst hwhole
    obtain ⟨hresult, hafter⟩ := Prod.mk.inj (hwhole.symm.trans hfirst)
    exact ⟨Option.some.inj hresult, hafter⟩

end

/-- A cut behind a line that is too long, which a carriage return and a line feed end; the whole is
read in other pieces, and ends with `exit`.  Behind `exit` nothing is done. -/
theorem run_append_tooLong :
    let take := run (Machine.host.writingTo Writer.collecting.recording) (boundedLines _ 4)
    let s : Session ((Bytes × Bytes) × Machine.State) :=
      .start {} (([], []), Machine.boot Machine.furnished .null [] Machine.FileTree.root)
    let f : Feed := ⟨[], [Utf8.encode "pwd\r\n/bin/", Utf8.encode "ls\r\n"], none⟩
    let g : Feed := ⟨[], [Utf8.encode "exit"], none⟩
    let h : Feed := ⟨[], [Utf8.encode "pwd\r", Utf8.encode "\n/bin/ls\r\nexit"], none⟩
    let f' : Feed := ⟨[], [Utf8.encode "exit\n"], none⟩
    let h' : Feed := ⟨[], [Utf8.encode "exit\np", Utf8.encode "wd"], none⟩
    (((take h s).1 = (take g (take f s).2.2).1 ∧ Agree (take h s).2.2 (take g (take f s).2.2).2.2) ∧
      (take h s).1 = .ok 0 ∧ (take h s).2.2.lineNumber = 3 ∧ (take h s).2.2.lastStatus = 0 ∧
      (take h s).2.2.world.1.1 = Utf8.encode "/\n") ∧
    ((take h' s).1 = (take f' s).1 ∧ (take h' s).2.2 = (take f' s).2.2) ∧
      (take h' s).1 = .ok 0 ∧ (take h' s).2.2.lineNumber = 1 ∧ (take h' s).2.2.world = s.world := by
  intro take s f g h f' h'
  let hearing := Machine.host.writingTo Writer.collecting.recording
  have hs : s.settings.interactive = false := rfl
  have hnever : Writer.collecting.NeverFails := ⟨fun _ _ => rfl, fun _ => rfl⟩
  have hexit : splitItems 4 (Utf8.encode "exit\n") none = [.ok (some "exit"), .ok none] := by
    rw [← Utf8.decodeLossy_encode "exit"]
    rfl
  constructor
  · have hitems : splitItems 4 (Utf8.encode "pwd\r\n/bin/ls\r\n") none =
        [.ok (some "pwd"), .error (.tooLong 4), .ok none] := by
      rw [← Utf8.decodeLossy_encode "pwd"]
      rfl
    have hwhole : splitItems 4 (Utf8.encode "pwd\r\n/bin/ls\r\nexit") none =
        [.ok (some "pwd"), .error (.tooLong 4), .ok (some "exit"), .ok none] := by
      rw [← Utf8.decodeLossy_encode "pwd", ← Utf8.decodeLossy_encode "exit"]
      rfl
    have hh : h.Delivers (Utf8.encode "pwd\r\n/bin/ls\r\nexit") none :=
      ⟨by decide, by decide, rfl⟩
    have hpwd : tokenize "pwd" = .ok ["pwd"] := @tokenize_of_scan "pwd" ["pwd".toList] rfl
    refine ⟨(@run_append _ _ Machine.host _ 4 (Utf8.encode "pwd\r\n/bin/ls\r\n") _ none f g h
      (by decide) hnever (by decide) ⟨by decide, by decide, rfl⟩ ⟨by decide, by decide, rfl⟩ hh
      s rfl).1 ?_, ?_⟩
    · rintro line hline ⟨rest, hexit⟩
      rw [hitems] at hline
      obtain rfl : line = "pwd" := by simpa using hline
      simp [hpwd] at hexit
    · let s₁ : Session ((Bytes × Bytes) × Machine.State) :=
        ⟨{}, 1, 0, (Utf8.encode "/\n", Utf8.encode "/\n"), s.world.2⟩
      let s₂ := (report hearing (InputError.tooLong 4).message s₁).countLine
      have hfirst : handle hearing (.ok (some "pwd")) s = (none, s₁) := by
        rw [handle_of_proceed (@executeLine_pwd _ hearing _ s _ hpwd "/" _ _ rfl rfl rfl)]
        rfl
      have hthird : handle hearing (.ok (some "exit")) s₂ = (some (.ok 0), s₂.countLine) :=
        handle_of_exit (@executeLine_of_flush _ hearing _ s₂ _ isExit_exit rfl)
      have hall : Session.handleAll hearing
          (splitItems 4 (Utf8.encode "pwd\r\n/bin/ls\r\nexit") none) s =
            (some (.ok 0), s₂.countLine) := by
        rw [hwhole, handleAll_of_handle_none hfirst,
          handleAll_of_handle_none (rfl : handle hearing (.error (.tooLong 4)) s₁ = (none, s₂))]
        exact handleAll_of_handle_some hthird _
      obtain ⟨hresult, hafter⟩ := run_of_handleAll hearing (by decide) hh hs hall
      have htaken : (take h s).2.2 = s₂.countLine := hafter
      rw [htaken]
      exact ⟨hresult, rfl, rfl, rfl⟩
  · let rest : Feed := ⟨[], [Utf8.encode "pwd"], none⟩
    have hf' : f'.Delivers (Utf8.encode "exit\n") none := ⟨by decide, by decide, rfl⟩
    have hrest : rest.Delivers (Utf8.encode "pwd") none := ⟨by decide, by decide, rfl⟩
    obtain ⟨hresult, hafter⟩ := (@run_append _ _ Machine.host _ 4 (Utf8.encode "exit\n") _ none f'
      rest h' (by decide) hnever (by decide) hf' hrest ⟨by decide, by decide, rfl⟩ s rfl).2
        ⟨"exit", by simp [hexit], isExit_exit⟩
    refine ⟨⟨hresult, hafter⟩, ?_⟩
    have hend : handle hearing (.ok (some "exit")) s = (some (.ok 0), s.countLine) :=
      handle_of_exit (@executeLine_of_flush _ hearing _ s _ isExit_exit rfl)
    obtain ⟨hzero, hcounted⟩ :=
      run_of_handleAll hearing (by decide) hf' hs (hexit ▸ handleAll_of_handle_some hend [.ok none])
    have htaken : (take h' s).2.2 = s.countLine := hafter.trans hcounted
    rw [htaken]
    exact ⟨hresult.trans hzero, rfl, rfl⟩

end Session

end LineShell
