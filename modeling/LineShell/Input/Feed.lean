/-
**Input that arrives in pieces.**

A reader holds some bytes that were read already; the rest comes in reads of whatever size.  A read
that delivers nothing says that the input has ended there — a terminal may say so and go on later.
After the last read the input has ended for good, or reading fails.

A reader looks at the bytes at hand, and only if there are none does it read again; then it says how
many of them it has used.  A line is put together from as many of these pieces as it takes.

Main definitions:

* `LineShell.Feed` — bytes at hand, the reads to come, and what happens after them;
* `LineShell.Feed.fill`, `LineShell.Feed.consume` — the bytes to look at, and the use of some;
* `LineShell.Feed.lineWithin` — the bytes up to a line feed, at most so many;
* `LineShell.Feed.line` — the bytes up to a line feed, however many;
* `LineShell.Feed.skipLine` — the bytes up to a line feed are passed over.

Main results:

* `LineShell.Feed.lineWithin_of_lineEnd`, `LineShell.Feed.lineWithin_of_no_lineEnd` — a line, one
  piece at a time;
* `LineShell.Feed.lineWithin_length_le` — no more bytes are taken than were asked for;
* `LineShell.Feed.size_lineWithin_add_le`, `LineShell.Feed.size_skipLine_le` — bytes that were taken
  are gone.
-/

import LineShell.Errno
import LineShell.Input.Line

set_option autoImplicit false

namespace LineShell

/-- Input that arrives in pieces. -/
structure Feed where
  /-- The bytes that were read and not taken yet. -/
  buffer : Bytes
  /-- The reads to come; an empty one says that the input has ended there. -/
  reads : List Bytes
  /-- What reading fails with after the last read; `none` if the input ends there. -/
  failure : Option IoError

namespace Feed

/-! ### Feeds -/

/-- A byte string cut into pieces of a size; pieces of size zero deliver nothing. -/
def cut (size : Nat) (bs : Bytes) : List Bytes :=
  if _done : bs = [] ∨ size = 0 then []
  else bs.take size :: cut size (bs.drop size)
termination_by bs.length
decreasing_by
  have : bs.length ≠ 0 := fun e => _done (.inl (List.length_eq_zero_iff.1 e))
  rw [List.length_drop]
  omega

/-- The feed of a byte string that arrives in pieces of a size. -/
def ofBytes (size : Nat) (bs : Bytes) (failure : Option IoError) : Feed :=
  ⟨[], cut size bs, failure⟩

/-- The reads deliver everything. -/
theorem flatten_cut {size : Nat} (h : size ≠ 0) (bs : Bytes) : (cut size bs).flatten = bs := by
  fun_induction cut size bs with
  | case1 bs h' =>
    rcases h' with rfl | h'
    · rfl
    · exact absurd h' h
  | case2 bs _ ih => simp [ih]

/-- The bytes at hand and those to come, and one more for each read. -/
def size (f : Feed) : Nat := f.buffer.length + f.reads.foldr (fun r n => r.length + 1 + n) 0

/-! ### Looking at bytes and using them -/

/-- The bytes to look at: those at hand, or else those of the next read.  Nothing at all says that
the input has ended. -/
def fill (f : Feed) : Except IoError Bytes × Feed :=
  match f.buffer, f.reads with
  | b :: rest, _ => (.ok (b :: rest), f)
  | [], read :: more => (.ok read, { f with buffer := read, reads := more })
  | [], [] =>
    match f.failure with
    | some cause => (.error cause, f)
    | none => (.ok [], f)

/-- So many of the bytes at hand are used. -/
def consume (n : Nat) (f : Feed) : Feed := { f with buffer := f.buffer.drop n }

/-- What is looked at is at hand. -/
theorem buffer_of_fill {f f' : Feed} {available : Bytes} (h : f.fill = (.ok available, f')) :
    f'.buffer = available := by
  obtain ⟨buffer, reads, failure⟩ := f
  unfold fill at h
  split at h <;> simp_all only [Prod.mk.injEq, Except.ok.injEq]
  · rw [← h.2]
    exact h.1
  · rw [← h.2]
    exact h.1
  · split at h
    · simp at h
    · simp only [Prod.mk.injEq, Except.ok.injEq] at h
      rw [← h.2]
      exact h.1

theorem size_of_fill {f f' : Feed} {r : Except IoError Bytes} (h : f.fill = (r, f')) :
    f'.size ≤ f.size := by
  obtain ⟨buffer, reads, failure⟩ := f
  unfold fill at h
  split at h <;> simp_all only [Prod.mk.injEq]
  · exact h.2 ▸ Nat.le_refl _
  · rw [← h.2]
    simp only [size, List.foldr_cons, List.length_nil]
    omega
  · split at h <;> simp_all only [Prod.mk.injEq]
    · exact h.2 ▸ Nat.le_refl _
    · exact h.2 ▸ Nat.le_refl _

/-- The bytes that are used are gone. -/
theorem size_consume_of_fill {f f' : Feed} {available : Bytes} {n : Nat}
    (h : f.fill = (.ok available, f')) (hn : n ≤ available.length) :
    (f'.consume n).size + n ≤ f.size := by
  have hfill := size_of_fill h
  have hbuffer := buffer_of_fill h
  simp only [size, consume, hbuffer, List.length_drop] at hfill ⊢
  omega

/-! ### Lines -/

/-- The bytes up to and with the first line feed, or up to the end of the input, but at most
`window`; the failure if reading fails before that. -/
def lineWithin (window : Nat) (f : Feed) : Except IoError Bytes × Feed :=
  if _open : window = 0 then (.ok [], f)
  else
    match f.fill with
    | (.error cause, f') => (.error cause, f')
    | (.ok available, f') =>
      match lineEnd? (available.take window) with
      | some n => (.ok (available.take n), f'.consume n)
      | none =>
        if _more : available = [] then (.ok [], f')
        else
          match lineWithin (window - available.length) (f'.consume (min window available.length)) with
          | (r, f'') => (r.map (available.take window ++ ·), f'')
termination_by window
decreasing_by
  have := List.length_pos_iff.2 _more
  omega

theorem lineWithin_zero (f : Feed) : lineWithin 0 f = (.ok [], f) := by
  rw [lineWithin, dif_pos rfl]

section

variable {window n : Nat} {f f' : Feed} {available : Bytes}

theorem lineWithin_of_error {cause : IoError} (hw : window ≠ 0)
    (h : f.fill = (.error cause, f')) : lineWithin window f = (.error cause, f') := by
  rw [lineWithin, dif_neg hw, h]

theorem lineWithin_of_nil (hw : window ≠ 0) (h : f.fill = (.ok [], f')) :
    lineWithin window f = (.ok [], f') := by
  rw [lineWithin, dif_neg hw, h]
  simp

/-- A line that ends among the bytes to look at. -/
theorem lineWithin_of_lineEnd (h : f.fill = (.ok available, f'))
    (hn : lineEnd? (available.take window) = some n) :
    lineWithin window f = (.ok (available.take n), f'.consume n) := by
  have hw : window ≠ 0 := by
    rintro rfl
    simp at hn
  rw [lineWithin, dif_neg hw, h]
  simp only [hn]

/-- A line that goes on behind the bytes to look at. -/
theorem lineWithin_of_no_lineEnd (hw : window ≠ 0) (h : f.fill = (.ok available, f'))
    (hne : available ≠ []) (hn : lineEnd? (available.take window) = none) :
    lineWithin window f =
      let r := lineWithin (window - available.length) (f'.consume (min window available.length))
      (r.1.map (available.take window ++ ·), r.2) := by
  rw [lineWithin, dif_neg hw, h]
  simp only [hn, dif_neg hne]

end

/-- The bytes up to and with the first line feed, or up to the end of the input. -/
def line (f : Feed) : Except IoError Bytes × Feed := lineWithin (f.size + 1) f

/-- The bytes up to and with the first line feed, or up to the end of the input, are passed over. -/
def skipLine (f : Feed) : Except IoError Unit × Feed :=
  match _filled : f.fill with
  | (.error cause, f') => (.error cause, f')
  | (.ok available, f') =>
    if _more : available = [] then (.ok (), f')
    else
      match lineEnd? available with
      | some n => (.ok (), f'.consume n)
      | none => skipLine (f'.consume available.length)
termination_by f.size
decreasing_by
  have := size_consume_of_fill _filled (Nat.le_refl _)
  have := List.length_pos_iff.2 _more
  omega

section

variable {n : Nat} {f f' : Feed} {available : Bytes}

theorem skipLine_of_error {cause : IoError} (h : f.fill = (.error cause, f')) :
    f.skipLine = (.error cause, f') := by
  rw [skipLine]
  split <;> simp_all

theorem skipLine_of_nil (h : f.fill = (.ok [], f')) : f.skipLine = (.ok (), f') := by
  rw [skipLine]
  split <;> simp_all

theorem skipLine_of_lineEnd (h : f.fill = (.ok available, f')) (hn : lineEnd? available = some n) :
    f.skipLine = (.ok (), f'.consume n) := by
  have hne : available ≠ [] := by
    rintro rfl
    simp at hn
  rw [skipLine]
  split <;> simp_all

theorem skipLine_of_no_lineEnd (h : f.fill = (.ok available, f')) (hne : available ≠ [])
    (hn : lineEnd? available = none) : f.skipLine = (f'.consume available.length).skipLine := by
  rw [skipLine]
  split <;> simp_all

end

/-- No more bytes are taken than were asked for. -/
theorem lineWithin_length_le {window : Nat} {f f' : Feed} {bs : Bytes}
    (h : lineWithin window f = (.ok bs, f')) : bs.length ≤ window := by
  fun_induction lineWithin window f generalizing bs f' with
  | case1 f => simp_all
  | case2 => simp at h
  | case3 window f _ available f₁ _ n hn =>
      simp only [Prod.mk.injEq, Except.ok.injEq] at h
      have hle := (lineEnd?_le hn).2
      rw [List.length_take] at hle
      rw [← h.1, List.length_take]
      omega
  | case4 => simp_all
  | case5 window f _ available f₁ _ _ hne r f₂ hrec ih =>
      cases r with
      | error e => simp [Except.map] at h
      | ok taken =>
          simp only [Except.map, Prod.mk.injEq, Except.ok.injEq] at h
          have hle := ih hrec
          rw [← h.1, List.length_append, List.length_take]
          omega

/-- The bytes that were taken are gone. -/
theorem size_lineWithin_add_le {window : Nat} {f f' : Feed} {bs : Bytes}
    (h : lineWithin window f = (.ok bs, f')) : f'.size + bs.length ≤ f.size := by
  fun_induction lineWithin window f generalizing bs f' with
  | case1 f => simp_all
  | case2 => simp at h
  | case3 window f _ available f₁ hf n hn =>
      simp only [Prod.mk.injEq, Except.ok.injEq] at h
      have hle := (lineEnd?_le hn).2
      rw [List.length_take] at hle
      have hsize := size_consume_of_fill hf (n := n) (by omega)
      rw [← h.1, ← h.2, List.length_take]
      omega
  | case4 window f _ f₁ hf =>
      simp only [Prod.mk.injEq, Except.ok.injEq] at h
      rw [← h.1, ← h.2]
      exact size_of_fill hf
  | case5 window f _ available f₁ hf _ hne r f₂ hrec ih =>
      cases r with
      | error e => simp [Except.map] at h
      | ok taken =>
          simp only [Except.map, Prod.mk.injEq, Except.ok.injEq] at h
          have hle := ih hrec
          have hsize := size_consume_of_fill hf (Nat.min_le_right window available.length)
          rw [← h.1, ← h.2, List.length_append, List.length_take]
          omega

theorem size_skipLine_le (f : Feed) : f.skipLine.2.size ≤ f.size := by
  fun_induction skipLine f with
  | case1 f cause f' hf => exact size_of_fill hf
  | case2 f f' hf => exact size_of_fill hf
  | case3 f available f' hf _ n hn =>
      have hsize := size_consume_of_fill hf (lineEnd?_le hn).2
      simp only
      omega
  | case4 f available f' hf _ _ ih =>
      have hsize := size_consume_of_fill hf (Nat.le_refl _)
      omega

end Feed

end LineShell
