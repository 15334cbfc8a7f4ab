/-
**The answers of the editor.**

The editor takes a whole line off its input, however long, and holds its length against the limit
afterwards; the reader of limited lines takes two bytes more than the limit and passes over the rest.
The editor wants UTF-8; the other reads anything.  The editor leaves a carriage return alone that no
line feed follows; the other takes it.

On text that holds no backspace, and does not end with a carriage return, none of this makes a
difference: both answer the same, whatever the limit, and whatever pieces the text arrives in.  For
a line feed is never part of another character, so the lines of a text are texts; what is left of
one without its carriage return is a text too; and it has as many bytes as were read for it.

Main definitions:

* `LineShell.Typist.lineItem` — the answer for the bytes of one line.

Main results:

* `LineShell.Typist.nextLine_terminated`, `LineShell.Typist.nextLine_unterminated` — the answer for
  the first line;
* `LineShell.lineItem_encode_concat`, `LineShell.lineItem_encode` — **the two answer the same for a
  line**;
* `LineShell.items_editedLines` — **and for a text**.
-/

import LineShell.Input.Edited
import LineShell.Proofs.Input.Bounded
import LineShell.Proofs.Text.Utf8

set_option autoImplicit false

namespace LineShell

/-! ### Whole lines -/

namespace Feed

variable {f : Feed} {bs piece rest : Bytes} {failure : Option IoError}

/-- A feed is no smaller than what it delivers. -/
theorem Delivers.length_le_size (h : f.Delivers bs failure) : bs.length ≤ f.size := by
  have hreads : ∀ reads : List Bytes,
      reads.flatten.length ≤ reads.foldr (fun r n => r.length + 1 + n) 0 := by
    intro reads
    induction reads with
    | nil => exact Nat.le_refl _
    | cons read reads ih =>
        rw [List.flatten_cons, List.length_append, List.foldr_cons]
        omega
  have hle := hreads f.reads
  rw [← h.content, List.length_append, size]
  omega

theorem line_terminated (hp : lineFeed ∉ piece)
    (h : f.Delivers (piece ++ lineFeed :: rest) failure) :
    ∃ f', f.line = (.ok (piece ++ [lineFeed]), f') ∧ f'.Delivers rest failure := by
  have hsize := h.length_le_size
  rw [List.length_append, List.length_cons] at hsize
  exact lineWithin_terminated h hp (by omega)

theorem line_unterminated (hs : lineFeed ∉ bs) (h : f.Delivers bs failure) :
    ∃ f', f.line = (ending failure bs, f') ∧ f'.Delivers [] failure :=
  lineWithin_ended h hs (Nat.lt_succ_of_le h.length_le_size)

end Feed

/-! ### The answer for a line -/

namespace Typist

/-- The answer of the editor for the bytes of a line. -/
def lineItem (limit : UInt64) (bs : Bytes) : InputItem :=
  match textOf bs with
  | none => .error (.editor .notUtf8)
  | some line =>
    if (Utf8.encode line).length ≤ limit.toNat then .ok (some line) else .error (.tooLong limit)

section

variable {limit : UInt64} {t : Typist} {bs piece rest : Bytes} {f : Feed}

/-- What is read for a line decides on the answer. -/
theorem exists_nextLine (hline : t.feed.line = (.ok bs, f)) (hne : bs ≠ []) :
    ∃ history, t.nextLine limit = (lineItem limit bs, ⟨f, history⟩) := by
  obtain ⟨b, bs, rfl⟩ := List.exists_cons_of_ne_nil hne
  simp only [nextLine, hline, lineItem]
  cases textOf (b :: bs) with
  | none => exact ⟨t.history, rfl⟩
  | some line =>
    dsimp only
    split
    · exact ⟨_, rfl⟩
    · exact ⟨t.history, rfl⟩

/-- The answer for a line that a line feed ends. -/
theorem nextLine_terminated (hp : lineFeed ∉ piece)
    (h : t.feed.Delivers (piece ++ lineFeed :: rest) none) :
    ∃ t', t.nextLine limit = (lineItem limit (piece ++ [lineFeed]), t') ∧
      t'.feed.Delivers rest none := by
  obtain ⟨f', hline, hrest⟩ := Feed.line_terminated hp h
  obtain ⟨history, hnext⟩ := @exists_nextLine limit t _ f' hline (by simp)
  exact ⟨⟨f', history⟩, hnext, hrest⟩

/-- The answer for the rest of the input, where no line feed follows. -/
theorem nextLine_unterminated (hs : lineFeed ∉ bs) (hne : bs ≠ [])
    (h : t.feed.Delivers bs none) :
    ∃ t', t.nextLine limit = (lineItem limit bs, t') ∧ t'.feed.Delivers [] none := by
  obtain ⟨f', hline, hrest⟩ := Feed.line_unterminated hs h
  obtain ⟨history, hnext⟩ := @exists_nextLine limit t _ f' hline hne
  exact ⟨⟨f', history⟩, hnext, hrest⟩

/-- At the end of the input there is no line. -/
theorem nextLine_ended (h : t.feed.Delivers [] none) : ∃ t', t.nextLine limit = (.ok none, t') := by
  obtain ⟨f', hline, -⟩ := Feed.line_unterminated List.not_mem_nil h
  have hnil : t.feed.line = (.ok [], f') := hline
  exact ⟨{ t with feed := f' }, by simp only [nextLine, hnil]⟩

end

end Typist

/-! ### The same answers -/

section

variable {limit : UInt64} {cs : List Char}

/-- Bytes that a line was written as are answered by that line, if it holds no backspace. -/
theorem lineItem_of_strictLineBody {bs : Bytes} {line : List Char}
    (hbody : strictLineBody bs = Utf8.encodeChars line) (hplain : Text.backspace ∉ line) :
    Typist.lineItem limit bs =
      if (Utf8.encodeChars line).length ≤ limit.toNat then .ok (some (String.ofList line))
      else .error (.tooLong limit) := by
  have hwritten : Utf8.encode (String.ofList line) = Utf8.encodeChars line := by
    rw [Utf8.encode, String.toList_ofList]
  have htext : Typist.textOf bs = some (String.ofList line) := by
    rw [Typist.textOf, hbody, ← hwritten, Utf8.decode?_encode, Option.map_some,
      String.toList_ofList, Text.rubOut_of_not_mem hplain]
  rw [Typist.lineItem, htext]
  dsimp only
  rw [hwritten]

/-- So are they by the reader of limited lines. -/
theorem pieceItem_of_dropLastByte {piece : Bytes} {line : List Char}
    (hbody : dropLastByte carriageReturn piece = Utf8.encodeChars line) :
    pieceItem limit piece =
      if (Utf8.encodeChars line).length ≤ limit.toNat then .ok (some (String.ofList line))
      else .error (.tooLong limit) := by
  have hread : Utf8.decodeLossy (Utf8.encodeChars line) = String.ofList line := by
    rw [← Utf8.decodeLossy_encode (String.ofList line), Utf8.encode, String.toList_ofList]
  rw [pieceItem, hbody, hread]
  split
  · next hlt => rw [if_neg (Nat.not_le_of_lt hlt)]
  · next hle => rw [if_pos (Nat.le_of_not_lt hle)]

/-- **Both answer the same for a line that a line feed ends.** -/
theorem lineItem_encode_concat (hplain : Text.backspace ∉ cs) :
    Typist.lineItem limit (Utf8.encodeChars cs ++ [lineFeed]) =
      pieceItem limit (Utf8.encodeChars cs) := by
  obtain ⟨line, hbody, hline⟩ := Utf8.exists_dropLastByte_encodeChars cs
  have hplainLine : Text.backspace ∉ line := by
    rcases hline with ⟨rfl, -⟩ | rfl
    · exact hplain
    · exact fun hmem => hplain (List.mem_append_left _ hmem)
  have hstrict : strictLineBody (Utf8.encodeChars cs ++ [lineFeed]) = Utf8.encodeChars line := by
    rw [lineBody_eq_strictLineBody (isTerminated_append _), lineBody_append, hbody]
  rw [lineItem_of_strictLineBody hstrict hplainLine, pieceItem_of_dropLastByte hbody]

/-- **And for a last line**, if that does not end with a carriage return. -/
theorem lineItem_encode (hplain : Text.backspace ∉ cs) (hfree : '\n' ∉ cs)
    (hlast : cs.getLast? ≠ some '\r') :
    Typist.lineItem limit (Utf8.encodeChars cs) = pieceItem limit (Utf8.encodeChars cs) := by
  obtain ⟨line, hbody, hline⟩ := Utf8.exists_dropLastByte_encodeChars cs
  obtain rfl : cs = line := by
    rcases hline with ⟨heq, -⟩ | rfl
    · exact heq
    · exact absurd List.getLast?_concat hlast
  have hstrict : strictLineBody (Utf8.encodeChars cs) = Utf8.encodeChars cs := by
    rw [strictLineBody, isTerminated_of_not_mem (mt (Utf8.lineFeed_mem_encodeChars_iff cs).1 hfree)]
    rfl
  rw [lineItem_of_strictLineBody hstrict hplain, pieceItem_of_dropLastByte hbody]

/-! ### All answers -/

theorem next_editedLines {ω : Type} {t t' : Typist} {item : InputItem}
    (h : t.nextLine limit = (item, t')) (w : ω) :
    (editedLines ω limit).next "" t w = (item, t', w) := by
  simp only [editedLines, h]

/-- The editor gives the answers of the splitter, which cuts its input at the line feeds. -/
theorem items_editedLines_eq_splitItems {ω : Type} (hplain : Text.backspace ∉ cs)
    (hlast : cs.getLast? ≠ some '\r') {t : Typist}
    (h : t.feed.Delivers (Utf8.encodeChars cs) none) (w : ω) :
    ((editedLines ω limit).items t w).1 = splitItems limit (Utf8.encodeChars cs) none := by
  -- on the number of characters, of which each line but the last takes some
  obtain ⟨n, hlen⟩ : ∃ n, cs.length = n := ⟨_, rfl⟩
  induction n using Nat.strongRecOn generalizing t cs with
  | ind n ih =>
      by_cases hmem : '\n' ∈ cs
      · obtain ⟨line, rest, rfl, hfree⟩ := List.eq_append_cons_of_mem hmem
        have hpiece : lineFeed ∉ Utf8.encodeChars line :=
          mt (Utf8.lineFeed_mem_encodeChars_iff line).1 hfree
        rw [Utf8.encodeChars_append_lineFeed] at h ⊢
        obtain ⟨t', hanswer, hrest⟩ := @Typist.nextLine_terminated limit t _ _ hpiece h
        have hplainLine : Text.backspace ∉ line := fun hin =>
          hplain (List.mem_append_left _ hin)
        have hplainRest : Text.backspace ∉ rest := fun hin =>
          hplain (List.mem_append_right _ (List.mem_cons_of_mem _ hin))
        have hlastRest : rest.getLast? ≠ some '\r' := by
          intro hreturn
          rw [List.getLast?_append, List.getLast?_cons, hreturn] at hlast
          exact hlast rfl
        rw [lineItem_encode_concat hplainLine] at hanswer
        rw [List.length_append, List.length_cons] at hlen
        rw [LineSource.items_of_not_isLast (next_editedLines hanswer w) (isLast_pieceItem _ _),
          splitItems_append_cons limit hpiece,
          ih rest.length (by omega) hplainRest hlastRest hrest rfl]
      · have hpiece : lineFeed ∉ Utf8.encodeChars cs :=
          mt (Utf8.lineFeed_mem_encodeChars_iff cs).1 hmem
        by_cases hne : Utf8.encodeChars cs = []
        · rw [hne] at h ⊢
          obtain ⟨t', hanswer⟩ := @Typist.nextLine_ended limit t h
          rw [LineSource.items_of_isLast (next_editedLines hanswer w) rfl, splitItems_nil_none]
        · obtain ⟨t', hanswer, hrest⟩ := @Typist.nextLine_unterminated limit t _ hpiece hne h
          obtain ⟨t'', hend⟩ := @Typist.nextLine_ended limit t' hrest
          rw [lineItem_encode hplain hmem hlast] at hanswer
          rw [LineSource.items_of_not_isLast (next_editedLines hanswer w) (isLast_pieceItem _ _),
            LineSource.items_of_isLast (next_editedLines hend w) rfl,
            splitItems_none_of_not_mem limit hpiece hne]

/-- **The editor and the reader of limited lines give the same answers** on a text that holds no
backspace and does not end with a carriage return, up to the end of the input; in whatever pieces
the text arrives at either, whatever the editor remembers, and whatever the limit. -/
theorem items_editedLines {ω ω' : Type} (hlimit : limit.toNat + 2 < UInt64.size) {text : String}
    (hplain : Text.backspace ∉ text.toList) (hlast : text.toList.getLast? ≠ some '\r')
    {t : Typist} (ht : t.feed.Delivers (Utf8.encode text) none) {f : Feed}
    (hf : f.Delivers (Utf8.encode text) none) (w : ω) (w' : ω') :
    ((editedLines ω limit).items t w).1 = ((boundedLines ω' limit).items f w').1 := by
  rw [(answers_splitItems hlimit hf).items_eq]
  exact items_editedLines_eq_splitItems hplain hlast ht w

end

/-- A character of two bytes at the limit, a carriage return before a line feed and one inside a
line, a line that is too long, and a last line without a line feed; some pieces end inside a
character. -/
theorem items_editedLines_umlaut :
    let text := "aü\r\na\rb\naüü\nü"
    let t : Typist :=
      ⟨⟨[], [[97, 195], [188, 13, 10, 97, 13, 98, 10, 97, 195, 188, 195, 188, 10, 195, 188]], none⟩,
        .empty⟩
    let f : Feed :=
      ⟨[], [[97, 195, 188, 13], [10, 97, 13, 98, 10, 97, 195, 188, 195], [188, 10, 195], [188]],
        none⟩
    text.toList.getLast? ≠ some '\r' ∧ t.feed.Delivers (Utf8.encode text) none ∧
      f.Delivers (Utf8.encode text) none ∧
      ((editedLines Unit 3).items t ()).1 = ((boundedLines Unit 3).items f ()).1 := by
  intro text t f
  have hlast : text.toList.getLast? ≠ some '\r' := by decide
  have ht : t.feed.Delivers (Utf8.encode text) none := ⟨by decide, by decide, rfl⟩
  have hf : f.Delivers (Utf8.encode text) none := ⟨by decide, by decide, rfl⟩
  exact ⟨hlast, ht, hf, items_editedLines (by decide) (by decide) hlast ht hf () ()⟩

end LineShell
