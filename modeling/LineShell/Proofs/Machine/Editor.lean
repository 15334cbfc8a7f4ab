/-
**The editor on a machine.**

The editor reads standard input in large pieces, and between two lines its state is what it has read
and not used yet.  On a machine the pieces to come are not part of that state: they stand in a file,
behind the position up to which it was read.  Here it is shown that nothing is lost on the way from one
line to the next.  What the reads still have to deliver, behind what the editor holds, is at each line
what the editor would have had to go on with if it had been given all pieces at the beginning.  So a
session does with a file what the editor does with the text in it.

Main definitions:

* `LineShell.Machine.State.Supplies` — standard input is a file, and what is left of it.

Main results:

* `LineShell.Machine.State.Supplies.afterReads` — reads take a file's bytes off the front, and
  nothing else changes;
* `LineShell.Machine.items_typedLines` — **the lines of the machine are those of the feed**;
* `LineShell.Machine.editLines_eq` — **what a session does with a text**.
-/

import LineShell.Machine.Host
import LineShell.Proofs.Input.Typed
import LineShell.Proofs.Machine.Descriptors

set_option autoImplicit false

namespace LineShell

/-! ### The reads that are left -/

namespace Feed

/-- What is left of the pieces of a byte string are the pieces of what is left of it. -/
theorem drop_cut (size n : Nat) (bs : Bytes) :
    (cut size bs).drop n = cut size (bs.drop (n * size)) := by
  induction n generalizing bs with
  | zero => rw [Nat.zero_mul, List.drop_zero, List.drop_zero]
  | succ n ih =>
      by_cases hdone : bs = [] ∨ size = 0
      · have hleft : bs.drop ((n + 1) * size) = [] ∨ size = 0 :=
          hdone.imp_left fun hnil => by rw [hnil, List.drop_nil]
        rw [cut, dif_pos hdone, cut, dif_pos hleft, List.drop_nil]
      · rw [cut, dif_neg hdone, List.drop_succ_cons, ih, List.drop_drop, Nat.succ_mul,
          Nat.add_comm]

theorem ne_nil_of_mem_cut {size : Nat} {bs piece : Bytes} (h : piece ∈ cut size bs) :
    piece ≠ [] := by
  fun_induction cut size bs with
  | case1 => cases h
  | case2 bs hdone ih =>
      rcases List.mem_cons.1 h with rfl | h
      · rw [ne_eq, List.take_eq_nil_iff]
        exact fun hnone => hdone hnone.symm
      · exact ih h

section

variable {f f' : Feed}

/-- Looking at bytes may need some reads; the others are left. -/
theorem reads_of_fill {r : Except IoError Bytes} (h : f.fill = (r, f')) :
    f'.reads <:+ f.reads ∧ f'.failure = f.failure := by
  obtain ⟨buffer, reads, failure⟩ := f
  unfold fill at h
  split at h
  · cases h
    exact ⟨List.suffix_rfl, rfl⟩
  · next read more _ hreads =>
    cases h
    obtain rfl : reads = read :: more := hreads
    exact ⟨List.suffix_cons _ _, rfl⟩
  · split at h
    · cases h
      exact ⟨List.suffix_rfl, rfl⟩
    · cases h
      exact ⟨List.suffix_rfl, rfl⟩

/-- So does taking a line. -/
theorem reads_of_lineWithin {window : Nat} {r : Except IoError Bytes}
    (h : lineWithin window f = (r, f')) : f'.reads <:+ f.reads ∧ f'.failure = f.failure := by
  fun_induction lineWithin window f generalizing r f' with
  | case1 f =>
      cases h
      exact ⟨List.suffix_rfl, rfl⟩
  | case2 window f _ cause f₁ hfill =>
      cases h
      exact reads_of_fill hfill
  | case3 window f _ available f₁ hfill n _ =>
      cases h
      show f₁.reads <:+ f.reads ∧ f₁.failure = f.failure
      exact reads_of_fill hfill
  | case4 window f _ f₁ hfill =>
      cases h
      exact reads_of_fill hfill
  | case5 window f _ available f₁ hfill _ _ r f₂ hrec ih =>
      cases h
      obtain ⟨hreads, hfailure⟩ := ih hrec
      obtain ⟨hfirst, hkept⟩ := reads_of_fill hfill
      exact ⟨hreads.trans hfirst, hfailure.trans hkept⟩

end

end Feed

/-- The editor takes a line off its feed, whatever becomes of it. -/
theorem Typist.feed_nextLine (limit : UInt64) (t : Typist) :
    (t.nextLine limit).2.feed = t.feed.line.2 := by
  unfold Typist.nextLine
  split
  · next hline => rw [hline]
  · next hline => rw [hline]
  · next hline =>
    rw [hline]
    split
    · rfl
    · split <;> rfl

namespace Machine

/-! ### Standard input from a file -/

/-- The session goes on, its standard input is a file that may be read, and `bs` is what is left of
that file. -/
structure State.Supplies (m : State) (bs : Bytes) : Prop where
  /-- The session goes on. -/
  alive : m.isAlive = true
  /-- The bytes behind the position. -/
  file : ∃ n f content mode, m.openFile? 0 = some (n, f) ∧ f.readable = true ∧
    m.tree.node f.node = .file content mode ∧ content.drop f.position = bs

section

variable {m : State} {bs : Bytes}

theorem State.openFile?_seek {d n : Nat} {f : OpenFile} (h : m.openFile? d = some (n, f))
    (position : Nat) :
    (m.seek n position).openFile? d = some (n, { f with position := position }) := by
  obtain ⟨hfile, hf⟩ := State.of_openFile? h
  simp only [State.openFile?, State.seek, hfile, Array.getElem?_modify, if_true, hf, Option.map_some]

theorem State.Supplies.pendingReads (h : m.Supplies bs) :
    pendingReads 0 m = (Feed.cut lineReadSize bs, none) := by
  obtain ⟨halive, n, f, content, mode, hopen, -, hnode, rfl⟩ := h
  simp only [Machine.pendingReads, halive, hopen, hnode, Bool.not_true, Bool.false_eq_true, if_false]

/-- The bytes of a file are delivered behind what was read before. -/
theorem State.Supplies.delivers (h : m.Supplies bs) (buffer : Bytes) :
    (feedOf 0 buffer m).Delivers (buffer ++ bs) none := by
  rw [feedOf, h.pendingReads]
  refine ⟨?_, fun read hread => Feed.ne_nil_of_mem_cut hread, rfl⟩
  dsimp only
  rw [Feed.flatten_cut (by decide)]

/-- A read takes bytes off the front; nothing else on the machine changes. -/
theorem State.Supplies.read (h : m.Supplies bs) :
    ∃ files, (read 0 lineReadSize m).2 = { m with files := files } ∧
      State.Supplies { m with files := files } (bs.drop lineReadSize) := by
  obtain ⟨halive, n, f, content, mode, hopen, hreadable, hnode, rfl⟩ := h
  have hread : (Machine.read 0 lineReadSize m).2 =
      m.seek n (f.position + ((content.drop f.position).take lineReadSize).length) := by
    simp only [Machine.read, hopen, hreadable, hnode, Bool.not_true, Bool.false_eq_true, if_false]
  refine ⟨_, hread, halive, n, _, content, mode, State.openFile?_seek hopen _, hreadable, hnode, ?_⟩
  dsimp only
  rw [← List.drop_drop, List.length_take]
  generalize content.drop f.position = bs
  rcases Nat.le_total lineReadSize bs.length with hle | hle
  · rw [Nat.min_eq_left hle]
  · rw [Nat.min_eq_right hle, List.drop_length, List.drop_eq_nil_of_le hle]

/-- So do some reads in a row. -/
theorem State.Supplies.afterReads (h : m.Supplies bs) (n : Nat) :
    ∃ files, afterReads 0 n m = { m with files := files } ∧
      State.Supplies { m with files := files } (bs.drop (n * lineReadSize)) := by
  induction n generalizing m bs with
  | zero =>
      refine ⟨m.files, rfl, ?_⟩
      rw [Nat.zero_mul, List.drop_zero]
      exact h
  | succ n ih =>
      obtain ⟨files, hread, hleft⟩ := h.read
      obtain ⟨files', hreads, hleft'⟩ := ih hleft
      refine ⟨files', ?_, ?_⟩
      · rw [Machine.afterReads, hread, hreads]
      · rw [List.drop_drop] at hleft'
        rw [Nat.succ_mul, Nat.add_comm]
        exact hleft'

/-- Where the editor goes from its feed to one that has some reads less, the machine keeps up: its
reads deliver just those that are left. -/
theorem State.Supplies.advance (h : m.Supplies bs) {buffer : Bytes} {after : Feed}
    (hreads : after.reads <:+ (feedOf 0 buffer m).reads)
    (hfailure : after.failure = (feedOf 0 buffer m).failure) :
    ∃ files bs', advance 0 (feedOf 0 buffer m) after m = { m with files := files } ∧
      State.Supplies { m with files := files } bs' ∧
      feedOf 0 after.buffer { m with files := files } = after := by
  obtain ⟨files, hmachine, hleft⟩ :=
    h.afterReads ((feedOf 0 buffer m).reads.length - after.reads.length)
  refine ⟨files, _, hmachine, hleft, ?_⟩
  have hrest := List.suffix_iff_eq_drop.1 hreads
  obtain ⟨held, reads, failure⟩ := after
  rw [feedOf, hleft.pendingReads, ← Feed.drop_cut]
  rw [feedOf, h.pendingReads] at hrest hfailure ⊢
  dsimp only at hrest hfailure ⊢
  rw [← hrest, hfailure]

/-! ### The lines of a session -/

variable {limit : UInt64}

/-- **One line**: the machine gives the answer of the editor, and is then where the editor is. -/
theorem next_typedLines (h : m.Supplies bs) (n : Nat) {buffer : Bytes} {history : History}
    {item : InputItem} {t : Typist}
    (hanswer : Typist.nextLine limit ⟨feedOf 0 buffer m, history⟩ = (item, t)) :
    ∃ files bs', (typedLines limit).next "" (n + 1, buffer, history) m =
        (item, (n, t.feed.buffer, t.history), { m with files := files }) ∧
      State.Supplies { m with files := files } bs' ∧
      feedOf 0 t.feed.buffer { m with files := files } = t.feed := by
  have hline : t.feed = (feedOf 0 buffer m).line.2 := by
    have hfeed := Typist.feed_nextLine limit ⟨feedOf 0 buffer m, history⟩
    rw [hanswer] at hfeed
    exact hfeed
  obtain ⟨hreads, hfailure⟩ : t.feed.reads <:+ (feedOf 0 buffer m).reads ∧
      t.feed.failure = (feedOf 0 buffer m).failure := by
    rw [hline]
    exact Feed.reads_of_lineWithin rfl
  obtain ⟨files, bs', hmachine, hleft, hfeed⟩ := h.advance hreads hfailure
  refine ⟨files, bs', ?_, hleft, hfeed⟩
  have hprompt : showEditorPrompt "" m = m := by simp [showEditorPrompt]
  simp only [typedLines, LineSource.counted, hprompt, hanswer, hmachine]

/-- **The lines of the machine are those of the feed**: it gives the answers of the editor for what
standard input delivers, and ends with the editor's history. -/
theorem items_typedLines (h : m.Supplies bs) {n : Nat} {buffer : Bytes} {history : History}
    (hn : (feedOf 0 buffer m).size < n) {items : List InputItem} {t : Typist}
    (hitems : (editedLines Unit limit).items ⟨feedOf 0 buffer m, history⟩ () = (items, t, ())) :
    ∃ left files, (typedLines limit).items (n, buffer, history) m =
      (items, (left, t.feed.buffer, t.history), { m with files := files }) := by
  -- on the number of answers that are left, of which each takes something off the feed
  induction n generalizing m bs buffer history items with
  | zero => exact absurd hn (Nat.not_lt_zero _)
  | succ n ih =>
      obtain ⟨⟨item, t₁⟩, hanswer⟩ : ∃ answer,
          Typist.nextLine limit ⟨feedOf 0 buffer m, history⟩ = answer := ⟨_, rfl⟩
      obtain ⟨files, bs', hnext, hleft, hfeed⟩ := next_typedLines h n hanswer
      have hedited := next_editedLines hanswer ()
      cases hlast : item.isLast with
      | true =>
          rw [LineSource.items_of_isLast hedited hlast] at hitems
          cases hitems
          exact ⟨n, files, LineSource.items_of_isLast hnext hlast⟩
      | false =>
          rw [LineSource.items_of_not_isLast hedited hlast] at hitems
          cases hitems
          have hsize := Typist.size_nextLine_lt hanswer hlast
          dsimp only at hsize
          rw [← hfeed] at hsize
          have hrest : (editedLines Unit limit).items
              ⟨feedOf 0 t₁.feed.buffer { m with files := files }, t₁.history⟩ () =
                (editedLines Unit limit).items t₁ () := by
            rw [hfeed]
          obtain ⟨left, files', hitems⟩ :=
            ih hleft (Nat.lt_of_lt_of_le hsize (Nat.le_of_lt_succ hn)) hrest
          refine ⟨left, files', ?_⟩
          rw [LineSource.items_of_not_isLast hnext hlast, hitems]

/-- The answers of a session for a text, the history then, and what has changed on the machine. -/
theorem editLines_eq {text : String} (h : m.Supplies (Utf8.encode text)) (limit : UInt64) :
    ∃ files, editLines limit m =
      ((Typist.typedTexts text.toList).map (Typist.lineAnswer limit) ++ [.ok none],
        (Typist.typedTexts text.toList).foldl (Typist.historyAfter limit) (loadHistory m),
        { m with files := files }) := by
  have hitems := @Typist.items_editedLines_eq limit ⟨feedOf 0 [] m, loadHistory m⟩ text.toList Unit
    (h.delivers []) ()
  obtain ⟨left, files, hlines⟩ := items_typedLines h (Nat.lt_succ_self _) hitems
  refine ⟨files, ?_⟩
  simp only [editLines, hlines]

end

end Machine

end LineShell
