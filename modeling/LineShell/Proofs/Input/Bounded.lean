/-
**The answers of the reader of limited lines.**

The reader takes two bytes more than the limit off its input, takes a line feed and a carriage return
off their end, and only then knows whether the line is too long; if it is, and goes on, the rest is
passed over in a second loop.  So it matters where a carriage return or a line feed stands relative
to the window, where the input ends or fails, and where the pieces it arrives in end.

The answers are those of a plain splitter, which cuts the whole input at its line feeds: none of
these places matters.

Main definitions:

* `LineShell.linePieces`, `LineShell.terminatedPieces` — the input cut at its line feeds;
* `LineShell.pieceItem` — the answer for one piece;
* `LineShell.splitItems` — **the answers of the splitter**;
* `LineShell.Answers` — the answers that the reader gives one after the other.

Main results:

* `LineShell.boundedLine_terminated`, `LineShell.boundedLine_unterminated` — the answer for the first
  line;
* `LineShell.answers_splitItems`, `LineShell.items_boundedLines` — **the reader gives the answers of
  the splitter**.
-/

import LineShell.Input.Bounded
import LineShell.Proofs.Input.Delivery

set_option autoImplicit false

namespace LineShell

/-! ### The splitter -/

/-- The pieces of a byte string between its line feeds; the last is left out if it is empty. -/
def linePieces (bs : Bytes) : List Bytes :=
  if (bs.splitOn lineFeed).getLast? = some [] then (bs.splitOn lineFeed).dropLast
  else bs.splitOn lineFeed

/-- The pieces of a byte string that a line feed follows. -/
def terminatedPieces (bs : Bytes) : List Bytes := (bs.splitOn lineFeed).dropLast

/-- The answer for a piece, less one carriage return at its end. -/
def pieceItem (limit : UInt64) (piece : Bytes) : InputItem :=
  if limit.toNat < (dropLastByte carriageReturn piece).length then .error (.tooLong limit)
  else .ok (some (Utf8.decodeLossy (dropLastByte carriageReturn piece)))

/-- The answers for a byte string, after which the input ends or fails. -/
def splitItems (limit : UInt64) (bs : Bytes) : Option IoError → List InputItem
  | none => (linePieces bs).map (pieceItem limit) ++ [.ok none]
  | some cause => (terminatedPieces bs).map (pieceItem limit) ++ [.error (.read cause)]

theorem splitItems_append_cons (limit : UInt64) {piece : Bytes} (h : lineFeed ∉ piece)
    (rest : Bytes) (failure : Option IoError) :
    splitItems limit (piece ++ lineFeed :: rest) failure =
      pieceItem limit piece :: splitItems limit rest failure := by
  have hsplit := List.splitOn_append_cons_self_of_not_mem h rest
  obtain ⟨q, qs, hrest⟩ := List.exists_cons_of_ne_nil (List.splitOn_ne_nil lineFeed rest)
  cases failure with
  | none =>
      simp only [splitItems, linePieces, hsplit, hrest, List.getLast?_cons_cons, List.dropLast_cons_cons]
      split <;> rfl
  | some cause => simp only [splitItems, terminatedPieces, hsplit, hrest, List.dropLast_cons_cons]; rfl

theorem splitItems_nil_none (limit : UInt64) : splitItems limit [] none = [.ok none] := rfl

theorem splitItems_none_of_not_mem (limit : UInt64) {bs : Bytes} (h : lineFeed ∉ bs)
    (hne : bs ≠ []) : splitItems limit bs none = [pieceItem limit bs, .ok none] := by
  simp [splitItems, linePieces, List.splitOn_eq_singleton h, hne]

theorem splitItems_some_of_not_mem (limit : UInt64) {bs : Bytes} (h : lineFeed ∉ bs)
    (cause : IoError) : splitItems limit bs (some cause) = [.error (.read cause)] := by
  simp [splitItems, terminatedPieces, List.splitOn_eq_singleton h]

/-! ### The first answer -/

section

variable {limit : UInt64} {f : Feed} {failure : Option IoError}

/-- Under a limit that has a window, that is what the line is looked for in. -/
theorem boundedLine_eq_windowedLine (hlimit : limit.toNat + 2 < UInt64.size) (f : Feed) :
    boundedLine limit f = windowedLine limit (limit.toNat + 2) f :=
  boundedLine_of_some (lineWindow_eq_some hlimit) f

/-- A line as long as the window is too long, whatever its last byte is. -/
theorem limit_lt_of_window_le {bs : Bytes} (h : limit.toNat + 2 ≤ bs.length) :
    limit.toNat < (dropLastByte carriageReturn bs).length := by
  have hbody := length_le_dropLastByte carriageReturn bs
  omega

/-- Bytes without a line feed that fill the window make a line too long; the answer then hangs on
passing over its rest. -/
theorem windowedLine_full {piece rest : Bytes} (hw : limit.toNat + 2 ≤ piece.length)
    (hp : lineFeed ∉ piece) (h : f.Delivers (piece ++ rest) failure) :
    ∃ f' : Feed, f'.Delivers (piece.drop (limit.toNat + 2) ++ rest) failure ∧
      ∀ (r : Except IoError Unit) (f'' : Feed), f'.skipLine = (r, f'') →
        windowedLine limit (limit.toNat + 2) f = (skipAnswer limit r, f'') := by
  have hlen : (piece.take (limit.toNat + 2)).length = limit.toNat + 2 := by
    rw [List.length_take]
    omega
  have hseen : lineFeed ∉ piece.take (limit.toNat + 2) := fun hm => hp (List.mem_of_mem_take hm)
  have hlt : limit.toNat < (lineBody (piece.take (limit.toNat + 2))).length := by
    rw [lineBody_of_not_mem hseen]
    exact limit_lt_of_window_le (by omega)
  rw [← List.take_append_drop (limit.toNat + 2) piece, List.append_assoc] at h
  obtain ⟨f', hline, hdel⟩ := Feed.lineWithin_full h hseen hlen
  exact ⟨f', hdel, fun r f'' hskip =>
    windowedLine_of_skipLine hline hlt (isTerminated_of_not_mem hseen) hskip⟩

/-- **The answer for a line that a line feed ends** is that for its piece, and the reader goes on
behind the line feed, wherever that stands. -/
theorem boundedLine_terminated (hlimit : limit.toNat + 2 < UInt64.size) {piece rest : Bytes}
    (hp : lineFeed ∉ piece) (h : f.Delivers (piece ++ lineFeed :: rest) failure) :
    ∃ f', boundedLine limit f = (pieceItem limit piece, f') ∧ f'.Delivers rest failure := by
  rw [boundedLine_eq_windowedLine hlimit]
  by_cases hw : piece.length < limit.toNat + 2
  · obtain ⟨f', hline, hdel⟩ := Feed.lineWithin_terminated h hp hw
    refine ⟨f', ?_, hdel⟩
    by_cases hlt : limit.toNat < (dropLastByte carriageReturn piece).length
    · rw [pieceItem, if_pos hlt]
      exact windowedLine_of_isTerminated hline (by rwa [lineBody_append]) (isTerminated_append piece)
    · rw [pieceItem, if_neg hlt, ← lineBody_append]
      exact windowedLine_of_le hline (by simp) (by simpa using hlt)
  · -- the window ends inside the piece, so the line feed is found only while the rest is passed over
    obtain ⟨f', hdel, hanswer⟩ := windowedLine_full (Nat.le_of_not_lt hw) hp h
    obtain ⟨f'', hskip, hdel'⟩ :=
      Feed.skipLine_terminated hdel fun hm => hp (List.mem_of_mem_drop hm)
    refine ⟨f'', ?_, hdel'⟩
    rw [hanswer _ _ hskip, pieceItem, if_pos (limit_lt_of_window_le (by omega))]
    rfl

/-- The answer for input that holds no line feed. -/
def lastItem (limit : UInt64) (bs : Bytes) : Option IoError → InputItem
  | none => if bs = [] then .ok none else pieceItem limit bs
  | some cause => .error (.read cause)

/-- **The answer for the rest of the input**, where no line feed follows; if the input fails there,
the failure is the answer however long the rest is. -/
theorem boundedLine_unterminated (hlimit : limit.toNat + 2 < UInt64.size) {bs : Bytes}
    (hs : lineFeed ∉ bs) (h : f.Delivers bs failure) :
    ∃ f', boundedLine limit f = (lastItem limit bs failure, f') ∧ f'.Delivers [] failure := by
  rw [boundedLine_eq_windowedLine hlimit]
  by_cases hw : bs.length < limit.toNat + 2
  · obtain ⟨f', hline, hdel⟩ := Feed.lineWithin_ended h hs hw
    cases failure with
    | some cause => exact ⟨f', windowedLine_of_error hline, hdel⟩
    | none =>
        by_cases hne : bs = []
        · subst hne
          exact ⟨f', windowedLine_of_nil hline, hdel⟩
        rw [lastItem, if_neg hne]
        by_cases hlt : limit.toNat < (dropLastByte carriageReturn bs).length
        · -- nothing is left to pass over
          obtain ⟨f'', hskip, hdel'⟩ := Feed.skipLine_ended hdel List.not_mem_nil
          refine ⟨f'', ?_, hdel'⟩
          rw [windowedLine_of_skipLine hline (by rwa [lineBody_of_not_mem hs])
            (isTerminated_of_not_mem hs) hskip, pieceItem, if_pos hlt]
          rfl
        · refine ⟨f', ?_, hdel⟩
          rw [pieceItem, if_neg hlt, ← lineBody_of_not_mem hs]
          exact windowedLine_of_le hline hne (by rw [lineBody_of_not_mem hs]; omega)
  · rw [← List.append_nil bs] at h
    obtain ⟨f', hdel, hanswer⟩ := windowedLine_full (Nat.le_of_not_lt hw) hs h
    rw [List.append_nil] at hdel
    obtain ⟨f'', hskip, hdel'⟩ := Feed.skipLine_ended hdel fun hm => hs (List.mem_of_mem_drop hm)
    refine ⟨f'', ?_, hdel'⟩
    rw [hanswer _ _ hskip]
    cases failure with
    | some cause => rfl
    | none =>
        have hne : bs ≠ [] := by
          rintro rfl
          simp at hw
        rw [lastItem, if_neg hne, pieceItem,
          if_pos (limit_lt_of_window_le (by omega))]
        rfl

theorem isLast_pieceItem (limit : UInt64) (piece : Bytes) :
    (pieceItem limit piece).isLast = false := by
  unfold pieceItem
  split <;> rfl

/-! ### All answers -/

/-- The answers that the reader gives one after the other up to the last one, and what is left of
its feed then. -/
inductive Answers (limit : UInt64) : Feed → List InputItem → Feed → Prop where
  /-- The last answer. -/
  | last {f f' : Feed} {item : InputItem} :
    boundedLine limit f = (item, f') → item.isLast = true → Answers limit f [item] f'
  /-- An answer that others follow. -/
  | cons {f f₁ f' : Feed} {item : InputItem} {items : List InputItem} :
    boundedLine limit f = (item, f₁) → item.isLast = false → Answers limit f₁ items f' →
    Answers limit f (item :: items) f'

theorem Answers.items_eq {ω : Type} {items : List InputItem} {f' : Feed}
    (h : Answers limit f items f') (w : ω) :
    (boundedLines ω limit).items f w = (items, f', w) := by
  induction h with
  | last hanswer hlast => exact LineSource.items_of_isLast (next_boundedLines hanswer "" w) hlast
  | cons hanswer hgoes _ ih =>
      rw [LineSource.items_of_not_isLast (next_boundedLines hanswer "" w) hgoes, ih]

/-- The answers are those of the splitter, and all of the feed is taken. -/
theorem answers_splitItems (hlimit : limit.toNat + 2 < UInt64.size) {bs : Bytes}
    (h : f.Delivers bs failure) :
    Answers limit f (splitItems limit bs failure) ⟨[], [], failure⟩ := by
  -- on the number of bytes, of which each answer but the last takes some
  obtain ⟨n, hlen⟩ : ∃ n, bs.length = n := ⟨_, rfl⟩
  induction n using Nat.strongRecOn generalizing f bs with
  | ind n ih =>
      by_cases hmem : lineFeed ∈ bs
      · obtain ⟨piece, rest, rfl, hp⟩ := List.eq_append_cons_of_mem hmem
        obtain ⟨f', hanswer, hdel⟩ := boundedLine_terminated hlimit hp h
        rw [List.length_append, List.length_cons] at hlen
        rw [splitItems_append_cons limit hp]
        exact .cons hanswer (isLast_pieceItem limit piece) (ih rest.length (by omega) hdel rfl)
      · obtain ⟨f', hanswer, hdel⟩ := boundedLine_unterminated hlimit hmem h
        cases failure with
        | some cause =>
            rw [splitItems_some_of_not_mem limit hmem, ← hdel.eq_of_nil]
            exact .last hanswer rfl
        | none =>
            by_cases hne : bs = []
            · subst hne
              rw [splitItems_nil_none, ← hdel.eq_of_nil]
              exact .last hanswer rfl
            · rw [lastItem, if_neg hne] at hanswer
              rw [splitItems_none_of_not_mem limit hmem hne]
              exact .cons hanswer (isLast_pieceItem limit bs)
                (ih 0 (hlen ▸ List.length_pos_iff.2 hne) hdel rfl)

/-- **The reader gives the answers of the splitter**, in whatever pieces its input arrives, and takes
all of it. -/
theorem items_boundedLines {ω : Type} (hlimit : limit.toNat + 2 < UInt64.size) {bs : Bytes}
    (h : f.Delivers bs failure) (w : ω) :
    (boundedLines ω limit).items f w = (splitItems limit bs failure, ⟨[], [], failure⟩, w) :=
  (answers_splitItems hlimit h).items_eq w

end

/-- A carriage return and its line feed in two pieces, a line that is too long, and one that is not
but for a carriage return. -/
theorem items_boundedLines_split :
    (boundedLines Unit 3).items
        ⟨[], [[97, 98, 13], [10, 97, 98, 99, 100], [101, 10, 97], [98, 99, 13]], none⟩ () =
      ([.ok (some (Utf8.decodeLossy [97, 98])), .error (.tooLong 3),
        .ok (some (Utf8.decodeLossy [97, 98, 99])), .ok none], ⟨[], [], none⟩, ()) := by
  have hanswers : splitItems 3 [97, 98, 13, 10, 97, 98, 99, 100, 101, 10, 97, 98, 99, 13] none =
      [.ok (some (Utf8.decodeLossy [97, 98])), .error (.tooLong 3),
        .ok (some (Utf8.decodeLossy [97, 98, 99])), .ok none] := rfl
  rw [← hanswers]
  exact items_boundedLines (by decide) ⟨rfl, by decide, rfl⟩ ()

end LineShell
