/-
**What a feed delivers, whatever the pieces it arrives in.**

A feed hands its bytes over in pieces, and a reader of lines sees only one piece at a time.  What it
makes of them must not depend on where the pieces end.  Here it is shown that it does not: the bytes
that a feed delivers, and what comes after them, alone decide what a reader takes off it, and what
the feed delivers from then on.

Every read must deliver something: an empty read says that the input has ended, even if more reads
follow.

Main definitions:

* `LineShell.Feed.Delivers` — the bytes of a feed, in whatever pieces, and what comes after them;
* `LineShell.ending` — an answer, or the failure that comes in its place;
* `LineShell.lineCut` — how many bytes are taken off for one line;
* `LineShell.RunsOut` — the input ends before the line and before the window does.

Main results:

* `LineShell.Feed.lineWithin_of_delivers` — **what is taken for a line depends on the bytes alone**;
* `LineShell.Feed.skipLine_of_delivers` — so does what is passed over;
* `LineShell.Feed.lineWithin_terminated`, `LineShell.Feed.lineWithin_full`,
  `LineShell.Feed.lineWithin_ended` — the three ways in which a line can lie in the window.
-/

import LineShell.Input.Feed

set_option autoImplicit false

namespace LineShell

/-! ### Delivering bytes -/

/-- The feed delivers `bs`, in pieces none of which is empty, and then ends or fails. -/
structure Feed.Delivers (f : Feed) (bs : Bytes) (failure : Option IoError) : Prop where
  /-- The bytes at hand and those of the reads to come. -/
  content : f.buffer ++ f.reads.flatten = bs
  /-- Each read delivers something. -/
  nonempty : ∀ read ∈ f.reads, read ≠ []
  /-- What comes after the bytes. -/
  after : f.failure = failure

/-- An answer, unless the input fails in its place. -/
def ending {α : Type} (failure : Option IoError) (a : α) : Except IoError α :=
  match failure with
  | some cause => .error cause
  | none => .ok a

namespace Feed

variable {f f' : Feed} {bs : Bytes} {failure : Option IoError}

/-- A feed that delivers nothing has no reads left. -/
theorem Delivers.eq_of_nil (h : f.Delivers [] failure) : f = ⟨[], [], failure⟩ := by
  obtain ⟨buffer, reads, after⟩ := f
  obtain ⟨hcontent, hnonempty, hafter⟩ := h
  obtain ⟨hbuffer, hreads⟩ := List.append_eq_nil_iff.1 hcontent
  cases reads with
  | nil =>
      simp only at hbuffer hafter
      rw [hbuffer, hafter]
  | cons read reads =>
      rw [List.flatten_cons] at hreads
      exact absurd (List.append_eq_nil_iff.1 hreads).1 (hnonempty read (List.mem_cons_self ..))

/-- A feed that delivers nothing lets its reader see the end, or the failure. -/
theorem Delivers.fill_nil (h : f.Delivers [] failure) : f.fill = (ending failure [], f) := by
  rw [h.eq_of_nil]
  cases failure <;> rfl

/-- A feed that delivers something lets its reader see the beginning of it, and goes on behind
whatever part of that is used. -/
theorem Delivers.fill_ne_nil (h : f.Delivers bs failure) (hne : bs ≠ []) :
    ∃ available rest f', available ≠ [] ∧ bs = available ++ rest ∧ f.fill = (.ok available, f') ∧
      ∀ n ≤ available.length, (f'.consume n).Delivers (bs.drop n) failure := by
  obtain ⟨buffer, reads, after⟩ := f
  obtain ⟨hcontent, hnonempty, hafter⟩ := h
  simp only at hcontent hnonempty hafter
  cases buffer with
  | cons b buffer =>
      refine ⟨b :: buffer, reads.flatten, _, List.cons_ne_nil _ _, hcontent.symm, rfl, ?_⟩
      intro n hn
      refine ⟨?_, hnonempty, hafter⟩
      rw [← hcontent, List.drop_append_of_le_length hn]
      rfl
  | nil =>
      cases reads with
      | nil => exact absurd hcontent.symm hne
      | cons read reads =>
          rw [List.nil_append, List.flatten_cons] at hcontent
          refine ⟨read, reads.flatten, _, hnonempty read (List.mem_cons_self ..), hcontent.symm,
            rfl, ?_⟩
          intro n hn
          refine ⟨?_, fun r hr => hnonempty r (List.mem_cons_of_mem _ hr), hafter⟩
          rw [← hcontent, List.drop_append_of_le_length hn]
          rfl

end Feed

/-! ### One line off the front -/

/-- How many bytes are taken off a byte string for one line, at most `window`. -/
def lineCut (window : Nat) (bs : Bytes) : Nat := (lineEnd? (bs.take window)).getD window

/-- The byte string ends before a line does, and before it fills the window. -/
def RunsOut (window : Nat) (bs : Bytes) : Prop := lineFeed ∉ bs ∧ bs.length < window

instance (window : Nat) (bs : Bytes) : Decidable (RunsOut window bs) := by
  unfold RunsOut
  infer_instance

@[simp] theorem lineCut_zero (bs : Bytes) : lineCut 0 bs = 0 := rfl

/-- A line that ends in a piece is taken off that piece. -/
theorem lineCut_of_lineEnd {window n : Nat} {available : Bytes}
    (h : lineEnd? (available.take window) = some n) (rest : Bytes) :
    lineCut window (available ++ rest) = n := by
  rw [lineCut, List.take_append, lineEnd?_append, h]
  rfl

theorem not_runsOut_of_lineEnd {window n : Nat} {available : Bytes}
    (h : lineEnd? (available.take window) = some n) (rest : Bytes) :
    ¬ RunsOut window (available ++ rest) := by
  rintro ⟨hmem, -⟩
  have hnone : lineEnd? (available.take window) = none :=
    lineEnd?_eq_none_iff.2 fun hav => hmem (List.mem_append_left rest (List.mem_of_mem_take hav))
  rw [h] at hnone
  cases hnone

/-- What is taken of a piece without a line feed comes before what is taken behind it. -/
theorem lineCut_append {window : Nat} {available : Bytes}
    (h : lineEnd? (available.take window) = none) (rest : Bytes) :
    lineCut window (available ++ rest) =
      min window available.length + lineCut (window - available.length) rest := by
  rw [lineCut, List.take_append, lineEnd?_append, h, lineCut, List.length_take]
  cases lineEnd? (rest.take (window - available.length)) with
  | some n =>
      simp only [Option.map_some, Option.or, Option.getD_some]
      omega
  | none =>
      simp only [Option.map_none, Option.or, Option.getD_none]
      omega

theorem runsOut_append {window : Nat} {available : Bytes}
    (h : lineEnd? (available.take window) = none) (rest : Bytes) :
    RunsOut window (available ++ rest) ↔ RunsOut (window - available.length) rest := by
  rw [lineEnd?_eq_none_iff] at h
  constructor
  · rintro ⟨hmem, hlen⟩
    rw [List.length_append] at hlen
    exact ⟨fun hrest => hmem (List.mem_append_right _ hrest), by omega⟩
  · rintro ⟨hmem, hlen⟩
    rw [List.take_of_length_le (by omega)] at h
    refine ⟨fun hboth => ?_, by rw [List.length_append]; omega⟩
    rcases List.mem_append.1 hboth with hav | hrest
    · exact h hav
    · exact hmem hrest

namespace Feed

/-- **What is taken for a line depends on the bytes alone**, and not on the pieces they arrive in. -/
theorem lineWithin_of_delivers {f : Feed} {bs : Bytes} {failure : Option IoError} (window : Nat)
    (h : f.Delivers bs failure) :
    ∃ f', lineWithin window f =
        (if RunsOut window bs then ending failure bs else .ok (bs.take (lineCut window bs)), f') ∧
      f'.Delivers (bs.drop (lineCut window bs)) failure := by
  -- on the window, of which each piece that holds no line feed leaves a smaller one
  induction window using Nat.strongRecOn generalizing f bs with
  | ind window ih =>
      by_cases hw : window = 0
      · subst hw
        refine ⟨f, ?_, by simpa using h⟩
        rw [lineWithin_zero, if_neg (by simp [RunsOut])]
        simp
      by_cases hbs : bs = []
      · subst hbs
        refine ⟨f, ?_, by simpa using h⟩
        rw [if_pos ⟨List.not_mem_nil, by simpa using Nat.pos_of_ne_zero hw⟩]
        cases failure with
        | none => exact lineWithin_of_nil hw h.fill_nil
        | some cause => exact lineWithin_of_error hw h.fill_nil
      obtain ⟨available, rest, f', hne, rfl, hfill, hleft⟩ := h.fill_ne_nil hbs
      cases hend : lineEnd? (available.take window) with
      | some n =>
          have hn := lineEnd?_le hend
          rw [List.length_take] at hn
          rw [lineWithin_of_lineEnd hfill hend, if_neg (not_runsOut_of_lineEnd hend rest),
            lineCut_of_lineEnd hend, List.take_append_of_le_length (by omega)]
          exact ⟨f'.consume n, rfl, hleft n (by omega)⟩
      | none =>
          have hpos := List.length_pos_iff.2 hne
          obtain ⟨f'', hrec, hdel⟩ :=
            ih (window - available.length) (by omega) (hleft _ (Nat.min_le_right window _))
          rw [lineWithin_of_no_lineEnd hw hfill hne hend, hrec, lineCut_append hend]
          rw [List.drop_drop] at hdel
          by_cases hlong : window ≤ available.length
          · -- the window ends in this piece
            have hzero : window - available.length = 0 := by omega
            have hmin : min window available.length = window := by omega
            rw [hzero, hmin, lineCut_zero] at hdel ⊢
            refine ⟨f'', ?_, hdel⟩
            rw [if_neg (by simp [RunsOut]), if_neg fun hout => by
              have := (runsOut_append hend rest).1 hout
              simp [RunsOut, hzero] at this]
            simp [Except.map, List.take_append_of_le_length hlong]
          · have hmin : min window available.length = available.length := by omega
            rw [hmin, List.drop_append_of_le_length (Nat.le_refl _), List.drop_length,
              List.nil_append] at hdel ⊢
            refine ⟨f'', ?_, hdel⟩
            rw [List.take_of_length_le (by omega : available.length ≤ window),
              List.take_length_add_append]
            by_cases hout : RunsOut (window - available.length) rest
            · rw [if_pos hout, if_pos ((runsOut_append hend rest).2 hout)]
              cases failure <;> rfl
            · rw [if_neg hout, if_neg fun h => hout ((runsOut_append hend rest).1 h)]
              rfl

/-- **What is passed over depends on the bytes alone**: all of them up to and with the first line
feed. -/
theorem skipLine_of_delivers {f : Feed} {bs : Bytes} {failure : Option IoError}
    (h : f.Delivers bs failure) :
    ∃ f', f.skipLine = (if lineFeed ∈ bs then .ok () else ending failure (), f') ∧
      f'.Delivers (bs.drop ((lineEnd? bs).getD bs.length)) failure := by
  -- on the number of bytes, of which each piece leaves fewer
  obtain ⟨n, hlen⟩ : ∃ n, bs.length = n := ⟨_, rfl⟩
  induction n using Nat.strongRecOn generalizing f bs with
  | ind n ih =>
      by_cases hbs : bs = []
      · subst hbs
        refine ⟨f, ?_, by simpa using h⟩
        rw [if_neg List.not_mem_nil]
        cases failure with
        | none => exact skipLine_of_nil h.fill_nil
        | some cause => exact skipLine_of_error h.fill_nil
      obtain ⟨available, rest, f', hne, rfl, hfill, hleft⟩ := h.fill_ne_nil hbs
      have hpos := List.length_pos_iff.2 hne
      rw [lineEnd?_append]
      cases hend : lineEnd? available with
      | some n =>
          have hmem : lineFeed ∈ available := by
            refine Decidable.byContradiction fun hmem => ?_
            rw [lineEnd?_eq_none_iff.2 hmem] at hend
            cases hend
          rw [skipLine_of_lineEnd hfill hend, if_pos (List.mem_append_left rest hmem)]
          exact ⟨_, rfl, hleft n (lineEnd?_le hend).2⟩
      | none =>
          have hmem := lineEnd?_eq_none_iff.1 hend
          have hdel := hleft available.length (Nat.le_refl _)
          rw [List.drop_left] at hdel
          rw [List.length_append] at hlen
          obtain ⟨f'', hrec, hdel'⟩ := ih rest.length (by omega) hdel rfl
          have hcut : (none.or ((lineEnd? rest).map (· + available.length))).getD
              (available ++ rest).length =
                available.length + (lineEnd? rest).getD rest.length := by
            rw [List.length_append]
            cases lineEnd? rest with
            | none => rfl
            | some m => exact Nat.add_comm m available.length
          refine ⟨f'', ?_, ?_⟩
          · rw [skipLine_of_no_lineEnd hfill hne hend, hrec]
            simp [hmem]
          · rw [hcut, List.drop_length_add_append]
            exact hdel'

/-! ### Where the line feed stands -/

section

variable {f : Feed} {failure : Option IoError} {window : Nat}

/-- A line whose line feed stands in the window is taken with it. -/
theorem lineWithin_terminated {piece rest : Bytes}
    (h : f.Delivers (piece ++ lineFeed :: rest) failure) (hp : lineFeed ∉ piece)
    (hw : piece.length < window) :
    ∃ f', lineWithin window f = (.ok (piece ++ [lineFeed]), f') ∧ f'.Delivers rest failure := by
  obtain ⟨f', hrun, hdel⟩ := lineWithin_of_delivers window h
  have hcut : lineCut window (piece ++ lineFeed :: rest) = piece.length + 1 := by
    obtain ⟨k, hk⟩ : ∃ k, window - piece.length = k + 1 := ⟨window - piece.length - 1, by omega⟩
    rw [lineCut, List.take_append, List.take_of_length_le (by omega), hk, List.take_succ_cons,
      lineEnd?_append_cons hp]
    rfl
  have hout : ¬ RunsOut window (piece ++ lineFeed :: rest) := fun hout =>
    hout.1 (List.mem_append_right piece (List.mem_cons_self ..))
  rw [if_neg hout, hcut, List.take_length_add_append] at hrun
  rw [hcut, List.drop_length_add_append] at hdel
  exact ⟨f', hrun, hdel⟩

/-- Bytes that fill the window without a line feed are taken. -/
theorem lineWithin_full {seen rest : Bytes} (h : f.Delivers (seen ++ rest) failure)
    (hs : lineFeed ∉ seen) (hw : seen.length = window) :
    ∃ f', lineWithin window f = (.ok seen, f') ∧ f'.Delivers rest failure := by
  subst hw
  obtain ⟨f', hrun, hdel⟩ := lineWithin_of_delivers seen.length h
  have hcut : lineCut seen.length (seen ++ rest) = seen.length := by
    rw [lineCut, List.take_left, lineEnd?_eq_none_iff.2 hs]
    rfl
  have hout : ¬ RunsOut seen.length (seen ++ rest) := by
    rintro ⟨-, hlen⟩
    rw [List.length_append] at hlen
    omega
  rw [if_neg hout, hcut, List.take_left] at hrun
  rw [hcut, List.drop_left] at hdel
  exact ⟨f', hrun, hdel⟩

/-- Input that ends or fails before the line and the window do. -/
theorem lineWithin_ended {bs : Bytes} (h : f.Delivers bs failure) (hs : lineFeed ∉ bs)
    (hw : bs.length < window) :
    ∃ f', lineWithin window f = (ending failure bs, f') ∧ f'.Delivers [] failure := by
  obtain ⟨f', hrun, hdel⟩ := lineWithin_of_delivers window h
  have hcut : lineCut window bs = window := by
    rw [lineCut, lineEnd?_eq_none_iff.2 fun hmem => hs (List.mem_of_mem_take hmem)]
    rfl
  rw [if_pos ⟨hs, hw⟩] at hrun
  rw [hcut, List.drop_eq_nil_of_le (by omega)] at hdel
  exact ⟨f', hrun, hdel⟩

theorem skipLine_terminated {piece rest : Bytes}
    (h : f.Delivers (piece ++ lineFeed :: rest) failure) (hp : lineFeed ∉ piece) :
    ∃ f', f.skipLine = (.ok (), f') ∧ f'.Delivers rest failure := by
  obtain ⟨f', hrun, hdel⟩ := skipLine_of_delivers h
  rw [if_pos (List.mem_append_right piece (List.mem_cons_self ..))] at hrun
  rw [lineEnd?_append_cons hp, Option.getD_some, List.drop_length_add_append] at hdel
  exact ⟨f', hrun, hdel⟩

theorem skipLine_ended {bs : Bytes} (h : f.Delivers bs failure) (hs : lineFeed ∉ bs) :
    ∃ f', f.skipLine = (ending failure (), f') ∧ f'.Delivers [] failure := by
  obtain ⟨f', hrun, hdel⟩ := skipLine_of_delivers h
  rw [if_neg hs] at hrun
  rw [lineEnd?_eq_none_iff.2 hs, Option.getD_none, List.drop_length] at hdel
  exact ⟨f', hrun, hdel⟩

end

end Feed

end LineShell
