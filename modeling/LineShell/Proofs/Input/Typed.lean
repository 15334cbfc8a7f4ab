/-
**What a text that is typed leaves behind.**

The editor reads bytes, cuts them into lines and looks at one line at a time.  What comes of a text can
be said of its characters, all at once: the text is cut at its line feeds; a carriage return at the end
of a line belongs to the line's end, unless no line feed follows; the backspaces of each line are
carried out.  Each line is answered for by its length alone, and the history takes those that are
neither too long nor blank, in their order.

Main definitions:

* `LineShell.Typist.textLines`, `LineShell.Typist.typedTexts` — the lines of a text, and the same with
  their backspaces carried out;
* `LineShell.Typist.lineAnswer`, `LineShell.Typist.isAccepted` — the answer for a line, and whether the
  history takes it.

Main results:

* `LineShell.Typist.nextLine_of_textOf` — what the editor does with one line;
* `LineShell.Typist.items_editedLines_eq` — **and with a text**.
-/

import LineShell.Proofs.Input.Edited

set_option autoImplicit false

namespace LineShell.Typist

/-! ### The lines of a text -/

/-- A line without one carriage return at its end. -/
def dropReturn (cs : List Char) : List Char := if cs.getLast? = some '\r' then cs.dropLast else cs

/-- The lines of a text, without the characters that end them; the last is left out if it is empty. -/
def textLines (cs : List Char) : List (List Char) :=
  (cs.splitOn '\n').dropLast.map dropReturn ++
    (cs.splitOn '\n').getLast?.toList.filter (!·.isEmpty)

/-- The lines of a text, with their backspaces carried out. -/
def typedTexts (cs : List Char) : List String :=
  (textLines cs).map fun line => String.ofList (Text.rubOut line)

theorem typedTexts_append_cons {line : List Char} (h : '\n' ∉ line) (rest : List Char) :
    typedTexts (line ++ '\n' :: rest) =
      String.ofList (Text.rubOut (dropReturn line)) :: typedTexts rest := by
  obtain ⟨q, qs, hrest⟩ := List.exists_cons_of_ne_nil (List.splitOn_ne_nil '\n' rest)
  simp only [typedTexts, textLines, List.splitOn_append_cons_self_of_not_mem h, hrest,
    List.dropLast_cons_cons, List.getLast?_cons_cons, List.map_cons, List.cons_append]

theorem typedTexts_nil : typedTexts [] = [] := rfl

theorem typedTexts_of_not_mem {cs : List Char} (h : '\n' ∉ cs) (hne : cs ≠ []) :
    typedTexts cs = [String.ofList (Text.rubOut cs)] := by
  simp [typedTexts, textLines, List.splitOn_eq_singleton h, hne]

/-! ### One line -/

/-- The answer for a line. -/
def lineAnswer (limit : UInt64) (line : String) : InputItem :=
  if (Utf8.encode line).length ≤ limit.toNat then .ok (some line) else .error (.tooLong limit)

/-- Whether the history takes a line: it is neither too long nor blank. -/
def isAccepted (limit : UInt64) (line : String) : Bool :=
  decide ((Utf8.encode line).length ≤ limit.toNat) && !Text.isAllWhitespace line.toList

/-- The history takes the lines that are answered, but for the blank ones. -/
theorem isAccepted_iff {limit : UInt64} {line : String} :
    isAccepted limit line = true ↔
      lineAnswer limit line = .ok (some line) ∧ Text.isAllWhitespace line.toList = false := by
  unfold isAccepted lineAnswer
  split
  · next hfits => simp [hfits]
  · next hlong => simp [hlong]

theorem ne_empty_of_isAccepted {limit : UInt64} {line : String} (h : isAccepted limit line = true) :
    line ≠ "" := by
  rintro rfl
  simp [isAccepted] at h

theorem isLast_lineAnswer (limit : UInt64) (line : String) :
    (lineAnswer limit line).isLast = false := by
  unfold lineAnswer
  split <;> rfl

/-- The history after a line. -/
def historyAfter (limit : UInt64) (h : History) (line : String) : History :=
  if isAccepted limit line then h.add line else h

/-- The history after lines is that after those which it takes. -/
theorem foldl_historyAfter (limit : UInt64) (lines : List String) (h : History) :
    lines.foldl (historyAfter limit) h = (lines.filter (isAccepted limit)).foldl History.add h := by
  rw [List.foldl_filter]
  rfl

section

variable {limit : UInt64} {t : Typist} {cs rest : List Char}

/-- **What the editor does with one line**: it answers by the length of the line, and gives it to the
history if that takes it. -/
theorem nextLine_of_textOf {bs : Bytes} {f : Feed} {line : String}
    (hline : t.feed.line = (.ok bs, f)) (hne : bs ≠ []) (htext : textOf bs = some line) :
    t.nextLine limit = (lineAnswer limit line, ⟨f, historyAfter limit t.history line⟩) := by
  obtain ⟨b, bs, rfl⟩ := List.exists_cons_of_ne_nil hne
  simp only [nextLine, hline, htext, lineAnswer, historyAfter, isAccepted, remember]
  by_cases hfits : (Utf8.encode line).length ≤ limit.toNat
  · by_cases hblank : Text.isAllWhitespace line.toList = true
    · simp [hfits, hblank]
    · simp [hfits, hblank]
  · simp [hfits]

theorem dropLastByte_encodeChars (cs : List Char) :
    dropLastByte carriageReturn (Utf8.encodeChars cs) = Utf8.encodeChars (dropReturn cs) := by
  obtain ⟨front, hbytes, hfront⟩ := Utf8.exists_dropLastByte_encodeChars cs
  rw [hbytes, dropReturn]
  rcases hfront with ⟨rfl, hlast⟩ | rfl
  · rw [if_neg hlast]
  · rw [if_pos List.getLast?_concat, List.dropLast_concat]

theorem textOf_of_strictLineBody {bs : Bytes} (h : strictLineBody bs = Utf8.encodeChars cs) :
    textOf bs = some (String.ofList (Text.rubOut cs)) := by
  have hwritten : Utf8.encodeChars cs = Utf8.encode (String.ofList cs) := by
    rw [Utf8.encode, String.toList_ofList]
  rw [textOf, h, hwritten, Utf8.decode?_encode, Option.map_some, String.toList_ofList]

/-- What the editor does with a line that a line feed ends. -/
theorem nextLine_encode_concat (hfree : '\n' ∉ cs)
    (h : t.feed.Delivers (Utf8.encodeChars (cs ++ '\n' :: rest)) none) :
    ∃ f, f.Delivers (Utf8.encodeChars rest) none ∧
      t.nextLine limit = (lineAnswer limit (String.ofList (Text.rubOut (dropReturn cs))),
        ⟨f, historyAfter limit t.history (String.ofList (Text.rubOut (dropReturn cs)))⟩) := by
  have hpiece := mt (Utf8.lineFeed_mem_encodeChars_iff cs).1 hfree
  rw [Utf8.encodeChars_append_lineFeed] at h
  obtain ⟨f, hline, hrest⟩ := Feed.line_terminated hpiece h
  have hbody : strictLineBody (Utf8.encodeChars cs ++ [lineFeed]) =
      Utf8.encodeChars (dropReturn cs) := by
    rw [lineBody_eq_strictLineBody (isTerminated_append _), lineBody_append,
      dropLastByte_encodeChars]
  exact ⟨f, hrest, nextLine_of_textOf hline (by simp) (textOf_of_strictLineBody hbody)⟩

/-- And with the rest of the text, where no line feed follows. -/
theorem nextLine_encode (hfree : '\n' ∉ cs) (hne : cs ≠ [])
    (h : t.feed.Delivers (Utf8.encodeChars cs) none) :
    ∃ f, f.Delivers [] none ∧
      t.nextLine limit = (lineAnswer limit (String.ofList (Text.rubOut cs)),
        ⟨f, historyAfter limit t.history (String.ofList (Text.rubOut cs))⟩) := by
  have hpiece := mt (Utf8.lineFeed_mem_encodeChars_iff cs).1 hfree
  obtain ⟨f, hline, hrest⟩ := Feed.line_unterminated hpiece h
  have hbytes : Utf8.encodeChars cs ≠ [] := by
    obtain ⟨c, cs, rfl⟩ := List.exists_cons_of_ne_nil hne
    obtain ⟨b, bs, hwritten, -⟩ := Utf8.exists_first_encode c []
    rw [Utf8.encodeChars_cons, hwritten]
    exact List.cons_ne_nil _ _
  have hbody : strictLineBody (Utf8.encodeChars cs) = Utf8.encodeChars cs := by
    rw [strictLineBody, isTerminated_of_not_mem hpiece]
    rfl
  exact ⟨f, hrest, nextLine_of_textOf hline hbytes (textOf_of_strictLineBody hbody)⟩

/-! ### A text -/

/-- **What the editor does with a text**: it answers for its lines one after the other, and the history
takes those that are accepted; all of the text is taken off the input. -/
theorem items_editedLines_eq {ω : Type} (h : t.feed.Delivers (Utf8.encodeChars cs) none) (w : ω) :
    (editedLines ω limit).items t w =
      ((typedTexts cs).map (lineAnswer limit) ++ [.ok none],
        ⟨⟨[], [], none⟩, (typedTexts cs).foldl (historyAfter limit) t.history⟩, w) := by
  -- on the number of characters, of which each line but the last takes some
  obtain ⟨n, hlen⟩ : ∃ n, cs.length = n := ⟨_, rfl⟩
  induction n using Nat.strongRecOn generalizing t cs with
  | ind n ih =>
      by_cases hmem : '\n' ∈ cs
      · obtain ⟨line, rest, rfl, hfree⟩ := List.eq_append_cons_of_mem hmem
        obtain ⟨f, hrest, hanswer⟩ := @nextLine_encode_concat limit t _ _ hfree h
        rw [List.length_append, List.length_cons] at hlen
        have hitems := @ih rest.length (by omega)
          ⟨f, historyAfter limit t.history (String.ofList (Text.rubOut (dropReturn line)))⟩ rest
          hrest rfl
        rw [LineSource.items_of_not_isLast (next_editedLines hanswer w) (isLast_lineAnswer _ _)]
        simp only [hitems, typedTexts_append_cons hfree, List.map_cons, List.cons_append,
          List.foldl_cons]
      by_cases hne : cs = []
      · subst hne
        have hend : t.nextLine limit = (.ok none, t) := by
          have hline : t.feed.line = (.ok [], t.feed) :=
            Feed.lineWithin_of_nil (Nat.succ_ne_zero _) h.fill_nil
          simp only [nextLine, hline]
        rw [LineSource.items_of_isLast (next_editedLines hend w) rfl, typedTexts_nil,
          ← h.eq_of_nil]
        rfl
      · obtain ⟨f, hrest, hanswer⟩ := @nextLine_encode limit t _ hmem hne h
        have hpos := List.length_pos_iff.2 hne
        have hitems := @ih 0 (by omega)
          ⟨f, historyAfter limit t.history (String.ofList (Text.rubOut cs))⟩ [] hrest rfl
        rw [LineSource.items_of_not_isLast (next_editedLines hanswer w) (isLast_lineAnswer _ _)]
        simp only [hitems, typedTexts_of_not_mem hmem hne, typedTexts_nil, List.map_cons,
          List.map_nil, List.cons_append, List.nil_append, List.foldl_cons, List.foldl_nil]

end

end LineShell.Typist
