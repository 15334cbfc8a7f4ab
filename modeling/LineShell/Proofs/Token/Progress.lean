/-
**Every reader of tokens makes progress.**

Five readers are nested in the reader of a line, and three of them are repeated: the pieces of a text
in double quotes, the parts of a word, the tokens of a line.  A repetition checks each time that its
reader took something, and refuses if it did not; inside a word this refusal would even be final.
Several readers on the way can take nothing: the blanks before a token, what stands between two quotes.
So progress has to come from something else at each level: from the character of a run, from a quote or
a backslash, from the first part of a word.

It does come, and none of the checks ever finds anything.  Whatever is taken off a line, a proper end
of the line is left; the repetitions end where their readers find nothing more; so a line is refused
only for what is left of it when no token begins there.

Main definitions:

* `LineShell.Text.Reader.Stalls` — somewhere along a text the repetition of a reader finds that nothing
  was taken.

Main results:

* `LineShell.Text.Reader.foldFrom_eq_stall_iff` — this is what a repetition refuses for;
* `LineShell.Text.Reader.Advances.not_stalls`, `LineShell.Text.Reader.Advances.proper` — a reader that
  always takes something never stalls, and leaves a proper end;
* `LineShell.tokenize_eq_of_all` — the tokens of a line, by what is left of it;
* `LineShell.Token.every_reader_progresses` — **progress at every level**.
-/

import LineShell.Token

set_option autoImplicit false

namespace LineShell

namespace Text.Reader

variable {α β : Type} {p : Reader α}

/-! ### Repetitions that stall -/

/-- Somewhere along the text, the repetition of the reader finds that nothing was taken. -/
inductive Stalls (p : Reader α) : List Char → Prop where
  /-- The reader takes nothing here. -/
  | here {cs rest : List Char} {a : α} :
    p.run cs = .ok (a, rest) → rest.length = cs.length → Stalls p cs
  /-- The reader takes something here, and the repetition stalls behind that. -/
  | behind {cs rest : List Char} {a : α} :
    p.run cs = .ok (a, rest) → rest.length ≠ cs.length → Stalls p rest → Stalls p cs

theorem Stalls.foldFrom_eq {cs : List Char} (h : p.Stalls cs) (f : β → α → β) (onStall : Refusal)
    (gathered : β) : foldFrom p f onStall gathered cs = .error onStall := by
  induction h generalizing gathered with
  | @here cs rest a hrun hlen =>
      rw [foldFrom]
      split
      · next e hrun' =>
        rw [hrun] at hrun'
        cases hrun'
      · next a' rest' hrun' =>
        rw [hrun, Except.ok.injEq, Prod.mk.injEq] at hrun'
        rw [dif_pos (by rw [← hrun'.2]; exact hlen)]
  | @behind cs rest a hrun hlen _ ih =>
      rw [foldFrom_of_ok hrun (Nat.lt_of_le_of_ne (p.length_le hrun) hlen)]
      exact ih (f gathered a)

/-- A repetition of a plain reader refuses exactly if it stalls. -/
theorem foldFrom_eq_stall_iff (hp : p.Plain) (f : β → α → β) (onStall : Refusal) (gathered : β)
    (cs : List Char) : foldFrom p f onStall gathered cs = .error onStall ↔ p.Stalls cs := by
  constructor
  · intro h
    fun_induction foldFrom p f onStall gathered cs with
    | case1 gathered cs e hrun hfinal =>
        rw [hp hrun] at hfinal
        cases hfinal
    | case2 => cases h
    | case3 gathered cs a rest hrun hstall => exact .here hrun hstall
    | case4 gathered cs a rest hrun hstall ih => exact .behind hrun hstall (ih h)
  · intro h
    exact h.foldFrom_eq f onStall gathered

/-- A reader that always takes something never stalls. -/
theorem Advances.not_stalls (ha : p.Advances) (cs : List Char) : ¬ p.Stalls cs := by
  intro h
  induction h with
  | here hrun hlen => exact Nat.ne_of_lt (ha hrun) hlen
  | behind _ _ _ ih => exact ih

/-- What is left by a reader that always takes something is a proper end of the text. -/
theorem Advances.proper (ha : p.Advances) {cs rest : List Char} {a : α}
    (h : p.run cs = .ok (a, rest)) : rest <:+ cs ∧ rest ≠ cs := by
  refine ⟨p.suffix h, ?_⟩
  rintro rfl
  exact Nat.lt_irrefl _ (ha h)

/-- So it takes the first character at least. -/
theorem Advances.exists_cons (ha : p.Advances) {cs rest : List Char} {a : α}
    (h : p.run cs = .ok (a, rest)) : ∃ c taken, cs = c :: (taken ++ rest) := by
  obtain ⟨⟨taken, htaken⟩, hne⟩ := ha.proper h
  cases taken with
  | nil => exact absurd htaken hne
  | cons c taken => exact ⟨c, taken, htaken.symm⟩

end Text.Reader

open Text (Reader Refusal)

/-! ### Lines -/

/-- The tokens of a line, by those that can be taken off it and what is left. -/
theorem tokenize_eq_of_all {cs rest : List Char} {tokens : List (List Char)}
    (h : Token.all.run cs = .ok (tokens, rest)) :
    tokenize (String.ofList cs) =
      if Text.isAllWhitespace rest then .ok (tokens.map String.ofList)
      else .error .unterminatedQuote := by
  rw [tokenize, String.toList_ofList, h]

namespace Token

/-- The readers that the reader of a line is made of. -/
def readers : List (Reader (List Char)) := [bare, doubleQuoted, singleQuoted, word, token]

/-- The readers that are repeated: inside double quotes, along a word and along a line. -/
def repeatedReaders : List (Reader (List Char)) := [doublePiece, part, token]

section

variable {reader : Reader (List Char)}

theorem progress_of_mem_readers (h : reader ∈ readers) : reader.Advances ∧ reader.Plain := by
  simp only [readers, List.mem_cons, List.not_mem_nil, or_false] at h
  rcases h with rfl | rfl | rfl | rfl | rfl
  · exact ⟨advances_bare, plain_bare⟩
  · exact ⟨advances_doubleQuoted, plain_doubleQuoted⟩
  · exact ⟨advances_singleQuoted, plain_singleQuoted⟩
  · exact ⟨advances_word, plain_word⟩
  · exact ⟨advances_token, plain_token⟩

theorem progress_of_mem_repeatedReaders (h : reader ∈ repeatedReaders) :
    reader.Advances ∧ reader.Plain := by
  simp only [repeatedReaders, List.mem_cons, List.not_mem_nil, or_false] at h
  rcases h with rfl | rfl | rfl
  · exact ⟨advances_doublePiece, plain_doublePiece⟩
  · exact ⟨advances_part, plain_part⟩
  · exact ⟨advances_token, plain_token⟩

end

/-- **Progress at every level**, on any text.  What any of the readers takes off it leaves a proper end
of it, and a piece of a text in double quotes takes its first character at least.  None of the three
repetitions stalls, nor refuses for that; so a reader refuses the text only for how it begins, tokens
are taken off it until none begins where the rest does, and the line is refused exactly if the rest is
not white space. -/
theorem every_reader_progresses (cs : List Char) :
    (∀ reader ∈ readers, ∀ text rest, reader.run cs = .ok (text, rest) →
      rest <:+ cs ∧ rest ≠ cs) ∧
    (∀ text rest, doublePiece.run cs = .ok (text, rest) → ∃ c taken, cs = c :: (taken ++ rest)) ∧
    (∀ reader ∈ repeatedReaders, ¬ reader.Stalls cs ∧
      ∀ {β : Type} (f : β → List Char → β) (onStall : Refusal) (gathered : β),
        Reader.foldFrom reader f onStall gathered cs ≠ .error onStall) ∧
    (∀ reader ∈ readers, ∀ refusal, reader.run cs = .error refusal → refusal = .mismatch) ∧
    ∃ tokens rest, all.run cs = .ok (tokens, rest) ∧ token.run rest = .error .mismatch ∧
      (tokenize (String.ofList cs) = .error .unterminatedQuote ↔ ¬ Text.isAllWhitespace rest) ∧
      (Text.isAllWhitespace rest → tokenize (String.ofList cs) = .ok (tokens.map String.ofList)) := by
  refine ⟨fun reader hreader text rest => (progress_of_mem_readers hreader).1.proper,
    fun text rest => advances_doublePiece.exists_cons, fun reader hreader => ?_,
    fun reader hreader refusal hrun => (progress_of_mem_readers hreader).2 hrun, ?_⟩
  · obtain ⟨hadvances, hplain⟩ := progress_of_mem_repeatedReaders hreader
    have hgoes := hadvances.not_stalls cs
    exact ⟨hgoes, fun f onStall gathered =>
      mt (Reader.foldFrom_eq_stall_iff hplain f onStall gathered cs).1 hgoes⟩
  · obtain ⟨tokens, rest, hall, hrefused⟩ := exists_all cs
    refine ⟨tokens, rest, hall, hrefused, ?_, ?_⟩
    · rw [tokenize_eq_of_all hall]
      split
      · next hwhite => simp [hwhite]
      · next hblack => simp [hblack]
    · intro hwhite
      rw [tokenize_eq_of_all hall, if_pos hwhite]

/-- A word of one empty text in quotes, and a quote without a partner behind a blank: the word is
empty, but takes two characters. -/
theorem every_reader_progresses_emptyQuotes :
    let cs := ['\'', '\'', ' ', '"']
    word ∈ readers ∧ word.run cs = .ok ([], [' ', '"']) ∧ [' ', '"'] <:+ cs ∧ [' ', '"'] ≠ cs := by
  intro cs
  have hword : word.run cs = .ok ([], [' ', '"']) := by
    have hpart : part.run cs = .ok ([], [' ', '"']) := rfl
    simp only [word, Reader.foldSome, hpart]
    exact Reader.foldFrom_of_error (e := .mismatch) rfl rfl
  have hmem : word ∈ readers := by simp [readers]
  exact ⟨hmem, hword, (every_reader_progresses cs).1 word hmem _ _ hword⟩

end Token

end LineShell
