/-
**Readers: taking text apart from the front.**

A reader takes something off the front of a text and says what it was, or refuses.  What it leaves
is always an end of the text it was given.  Readers are put together: one after the other, one in
place of another that refused, one again and again.

A reader that is repeated must take something each time.  One that takes nothing would be repeated
for ever, so a repetition that sees this refuses.  A refusal of this kind, when it comes after a
first success that the repetition requires, is final; after any other refusal something else may be
tried in the reader's place.

Main definitions:

* `LineShell.Text.Refusal`, `LineShell.Text.Reader` — why nothing was taken, and the readers;
* `LineShell.Text.Reader.one`, `LineShell.Text.Reader.span`, `LineShell.Text.Reader.spanSome` — one
  character, and the longest run of characters, that pass a test;
* `LineShell.Text.Reader.orElse`, `LineShell.Text.Reader.optional`, `LineShell.Text.Reader.andThen`,
  `LineShell.Text.Reader.between` — choice and sequence;
* `LineShell.Text.Reader.fold`, `LineShell.Text.Reader.foldSome` — repetition;
* `LineShell.Text.Reader.Advances`, `LineShell.Text.Reader.Plain` — the readers that always take
  something, and those that see no repetition stall.

Main results:

* `LineShell.Text.Reader.foldFrom_of_error`, `LineShell.Text.Reader.foldFrom_of_ok` — a repetition
  stops where its reader refuses, and goes on behind what its reader took;
* `LineShell.Text.Reader.foldFrom_invariant` — what each success keeps, the whole repetition keeps;
* `LineShell.Text.Reader.exists_foldFrom` — the repetition of a plain reader that always takes
  something never refuses.
-/

set_option autoImplicit false

namespace LineShell.Text

/-! ### Readers -/

/-- Why a reader takes nothing. -/
inductive Refusal where
  /-- The text does not begin as it should. -/
  | mismatch
  /-- A repeated reader took nothing. -/
  | stalled
  /-- A repeated reader took nothing, behind a first success; this refusal is final. -/
  | stuck
deriving DecidableEq

/-- Whether nothing else is tried after the refusal. -/
def Refusal.isFinal : Refusal → Bool
  | .stuck => true
  | _ => false

/-- A reader: what it takes off the front of a text, and what it leaves. -/
structure Reader (α : Type) where
  /-- What was taken and the rest, or the refusal. -/
  run : List Char → Except Refusal (α × List Char)
  /-- The rest is an end of the text. -/
  suffix : ∀ {cs : List Char} {a : α} {rest : List Char}, run cs = .ok (a, rest) → rest <:+ cs

namespace Reader

variable {α β γ : Type}

/-- What is left is no longer than the text. -/
theorem length_le (p : Reader α) {cs : List Char} {a : α} {rest : List Char}
    (h : p.run cs = .ok (a, rest)) : rest.length ≤ cs.length := (p.suffix h).length_le

/-! ### Characters -/

/-- One character that passes a test. -/
def one (test : Char → Bool) : Reader Char where
  run
    | [] => .error .mismatch
    | c :: rest => if test c then .ok (c, rest) else .error .mismatch
  suffix := by
    intro cs a rest h
    cases cs with
    | nil => simp at h
    | cons c cs =>
        simp only at h
        split at h
        · simp only [Except.ok.injEq, Prod.mk.injEq] at h
          exact h.2 ▸ List.suffix_cons c cs
        · simp at h

/-- The longest run of characters that pass a test; it may be empty. -/
def span (test : Char → Bool) : Reader (List Char) where
  run cs := .ok (cs.takeWhile test, cs.dropWhile test)
  suffix := by
    intro cs a rest h
    simp only [Except.ok.injEq, Prod.mk.injEq] at h
    exact h.2 ▸ List.dropWhile_suffix test

/-- The longest run of characters that pass a test, if it is not empty. -/
def spanSome (test : Char → Bool) : Reader (List Char) where
  run cs :=
    if cs.takeWhile test = [] then .error .mismatch
    else .ok (cs.takeWhile test, cs.dropWhile test)
  suffix := by
    intro cs a rest h
    split at h
    · simp at h
    · simp only [Except.ok.injEq, Prod.mk.injEq] at h
      exact h.2 ▸ List.dropWhile_suffix test

/-! ### Choice and sequence -/

/-- What a reader takes, seen differently. -/
def map (f : α → β) (p : Reader α) : Reader β where
  run cs :=
    match p.run cs with
    | .error e => .error e
    | .ok (a, rest) => .ok (f a, rest)
  suffix := by
    intro cs b rest h
    split at h
    · simp at h
    · next a rest' hp =>
      simp only [Except.ok.injEq, Prod.mk.injEq] at h
      exact h.2 ▸ p.suffix hp

/-- The first of two readers, or the second where the first refuses and may be replaced. -/
def orElse (p q : Reader α) : Reader α where
  run cs :=
    match p.run cs with
    | .error e => if e.isFinal then .error e else q.run cs
    | .ok r => .ok r
  suffix := by
    intro cs a rest h
    split at h
    · split at h
      · simp at h
      · exact q.suffix h
    · next r hp => exact p.suffix (hp.trans h)

/-- What a reader takes, if it does not refuse. -/
def optional (p : Reader α) : Reader (Option α) where
  run cs :=
    match p.run cs with
    | .error e => if e.isFinal then .error e else .ok (none, cs)
    | .ok (a, rest) => .ok (some a, rest)
  suffix := by
    intro cs a rest h
    split at h
    · split at h
      · simp at h
      · simp only [Except.ok.injEq, Prod.mk.injEq] at h
        exact h.2 ▸ List.suffix_refl cs
    · next a rest' hp =>
      simp only [Except.ok.injEq, Prod.mk.injEq] at h
      exact h.2 ▸ p.suffix hp

/-- One reader after another; what the first takes is forgotten. -/
def andThen (p : Reader α) (q : Reader β) : Reader β where
  run cs :=
    match p.run cs with
    | .error e => .error e
    | .ok (_, rest) => q.run rest
  suffix := by
    intro cs b rest h
    split at h
    · simp at h
    · next a rest' hp => exact (q.suffix h).trans (p.suffix hp)

/-- A reader between two others, whose findings are forgotten. -/
def between (left : Reader α) (p : Reader β) (right : Reader γ) : Reader β where
  run cs :=
    match left.run cs with
    | .error e => .error e
    | .ok (_, inner) =>
      match p.run inner with
      | .error e => .error e
      | .ok (b, outer) =>
        match right.run outer with
        | .error e => .error e
        | .ok (_, rest) => .ok (b, rest)
  suffix := by
    intro cs b rest h
    split at h
    · simp at h
    next inner hl =>
    split at h
    · simp at h
    next b' outer hp =>
    split at h
    · simp at h
    next rest' hr =>
    simp only [Except.ok.injEq, Prod.mk.injEq] at h
    exact h.2 ▸ ((right.suffix hr).trans (p.suffix hp)).trans (left.suffix hl)

/-! ### What was taken -/

theorem run_one_eq_ok {test : Char → Bool} {cs rest : List Char} {c : Char} :
    (one test).run cs = .ok (c, rest) ↔ cs = c :: rest ∧ test c = true := by
  cases cs with
  | nil => simp [one]
  | cons d ds =>
      simp only [one, List.cons.injEq]
      split
      · next hd =>
        simp only [Except.ok.injEq, Prod.mk.injEq]
        constructor
        · rintro ⟨rfl, rfl⟩
          exact ⟨⟨rfl, rfl⟩, hd⟩
        · exact And.left
      · next hd =>
        constructor
        · exact nofun
        · rintro ⟨⟨rfl, -⟩, hc⟩
          exact absurd hc hd

theorem head_of_run_spanSome {test : Char → Bool} {cs run rest : List Char}
    (h : (spanSome test).run cs = .ok (run, rest)) : ∃ c cs', cs = c :: cs' ∧ test c = true := by
  cases cs with
  | nil => simp [spanSome] at h
  | cons c cs =>
      refine ⟨c, cs, rfl, ?_⟩
      by_cases hc : test c = true
      · exact hc
      · have hnone : (spanSome test).run (c :: cs) = .error .mismatch :=
          if_pos (List.takeWhile_cons_of_neg hc)
        rw [hnone] at h
        cases h

theorem run_orElse_eq_ok {p q : Reader α} {cs : List Char} {r : α × List Char}
    (h : (p.orElse q).run cs = .ok r) : p.run cs = .ok r ∨ q.run cs = .ok r := by
  simp only [orElse] at h
  split at h
  · split at h
    · cases h
    · exact .inr h
  · next hp => exact .inl (hp.trans h)

theorem run_map_eq_ok {f : α → β} {p : Reader α} {cs rest : List Char} {b : β} :
    (p.map f).run cs = .ok (b, rest) ↔ ∃ a, p.run cs = .ok (a, rest) ∧ f a = b := by
  simp only [Reader.map]
  constructor
  · intro h
    split at h
    · cases h
    · next a rest' hp =>
      simp only [Except.ok.injEq, Prod.mk.injEq] at h
      exact ⟨a, h.2 ▸ hp, h.1⟩
  · rintro ⟨a, hp, rfl⟩
    rw [hp]

theorem run_andThen_eq_ok {p : Reader α} {q : Reader β} {cs rest : List Char} {b : β} :
    (p.andThen q).run cs = .ok (b, rest) ↔
      ∃ a middle, p.run cs = .ok (a, middle) ∧ q.run middle = .ok (b, rest) := by
  simp only [andThen]
  constructor
  · intro h
    split at h
    · cases h
    · next a middle hp => exact ⟨a, middle, hp, h⟩
  · rintro ⟨a, middle, hp, hq⟩
    rw [hp]
    exact hq

theorem run_between_eq_ok {left : Reader α} {p : Reader β} {right : Reader γ}
    {cs rest : List Char} {b : β} :
    (left.between p right).run cs = .ok (b, rest) ↔
      ∃ a inner outer c, left.run cs = .ok (a, inner) ∧ p.run inner = .ok (b, outer) ∧
        right.run outer = .ok (c, rest) := by
  simp only [between]
  constructor
  · intro h
    split at h
    · cases h
    next a inner hl =>
    split at h
    · cases h
    next b' outer hp =>
    split at h
    · cases h
    next c rest' hr =>
    simp only [Except.ok.injEq, Prod.mk.injEq] at h
    exact ⟨a, inner, outer, c, hl, h.1 ▸ hp, h.2 ▸ hr⟩
  · rintro ⟨a, inner, outer, c, hl, hp, hr⟩
    simp only [hl, hp, hr]

/-- What stands between two characters. -/
theorem run_enclosed_eq_ok {a b : Char} {p : Reader α} {cs rest : List Char} {x : α} :
    ((one (· == a)).between p (one (· == b))).run cs = .ok (x, rest) ↔
      ∃ inner, cs = a :: inner ∧ p.run inner = .ok (x, b :: rest) := by
  simp only [run_between_eq_ok, run_one_eq_ok, beq_iff_eq]
  constructor
  · rintro ⟨_, inner, _, _, ⟨rfl, rfl⟩, hp, rfl, rfl⟩
    exact ⟨inner, rfl, hp⟩
  · rintro ⟨inner, rfl, hp⟩
    exact ⟨a, inner, b :: rest, b, ⟨rfl, rfl⟩, hp, rfl, rfl⟩

/-- A run that need not be there. -/
theorem run_optional_spanSome (test : Char → Bool) (cs : List Char) :
    ((spanSome test).optional.map (·.getD [])).run cs =
      .ok (cs.takeWhile test, cs.dropWhile test) := by
  simp only [Reader.map, optional, spanSome]
  by_cases h : cs.takeWhile test = []
  · have hrest : cs.dropWhile test = cs := by
      have := List.takeWhile_append_dropWhile (p := test) (l := cs)
      rwa [h] at this
    simp [h, hrest, Refusal.isFinal]
  · simp [h]

/-! ### Repetition -/

/-- A reader as often as it does not refuse, its findings gathered from the left; `onStall` is the
refusal for a reader that takes nothing. -/
def foldFrom (p : Reader α) (f : β → α → β) (onStall : Refusal) (gathered : β) (cs : List Char) :
    Except Refusal (β × List Char) :=
  match _taken : p.run cs with
  | .error e => if e.isFinal then .error e else .ok (gathered, cs)
  | .ok (a, rest) =>
    if _stall : rest.length = cs.length then .error onStall
    else foldFrom p f onStall (f gathered a) rest
termination_by cs.length
decreasing_by exact Nat.lt_of_le_of_ne (p.length_le _taken) _stall

theorem suffix_foldFrom (p : Reader α) (f : β → α → β) (onStall : Refusal) {gathered b : β}
    {cs rest : List Char} (h : foldFrom p f onStall gathered cs = .ok (b, rest)) : rest <:+ cs := by
  fun_induction foldFrom p f onStall gathered cs with
  | case1 => simp at h
  | case2 gathered cs =>
      simp only [Except.ok.injEq, Prod.mk.injEq] at h
      exact h.2 ▸ List.suffix_refl cs
  | case3 => simp at h
  | case4 gathered cs a rest' hp _ ih => exact (ih h).trans (p.suffix hp)

/-- A reader any number of times. -/
def fold (p : Reader α) (f : β → α → β) (start : β) : Reader β where
  run := foldFrom p f .stalled start
  suffix := suffix_foldFrom p f .stalled

/-- A reader at least once; that it takes something is checked from the second time on. -/
def foldSome (p : Reader α) (f : β → α → β) (start : β) : Reader β where
  run cs :=
    match p.run cs with
    | .error e => .error e
    | .ok (a, rest) => foldFrom p f .stuck (f start a) rest
  suffix := by
    intro cs b rest h
    split at h
    · simp at h
    · next a rest' hp => exact (suffix_foldFrom p f .stuck h).trans (p.suffix hp)

/-- A reader any number of times, its findings in order. -/
def repeated (p : Reader α) : Reader (List α) := p.fold (fun found a => found ++ [a]) []

/-- Where the reader refuses, and not for good, its repetition ends. -/
theorem foldFrom_of_error {p : Reader α} {f : β → α → β} {onStall e : Refusal} {gathered : β}
    {cs : List Char} (h : p.run cs = .error e) (he : e.isFinal = false) :
    foldFrom p f onStall gathered cs = .ok (gathered, cs) := by
  rw [foldFrom]
  split
  · next e' h' =>
    rw [h, Except.error.injEq] at h'
    rw [← h', if_neg (by simp [he])]
  · next h' =>
    rw [h] at h'
    cases h'

/-- Where the reader takes something, its repetition goes on behind that. -/
theorem foldFrom_of_ok {p : Reader α} {f : β → α → β} {onStall : Refusal} {gathered : β} {a : α}
    {cs rest : List Char} (h : p.run cs = .ok (a, rest)) (hlt : rest.length < cs.length) :
    foldFrom p f onStall gathered cs = foldFrom p f onStall (f gathered a) rest := by
  rw [foldFrom]
  split
  · next h' =>
    rw [h] at h'
    cases h'
  · next a' rest' h' =>
    rw [h, Except.ok.injEq, Prod.mk.injEq] at h'
    rw [dif_neg (by rw [← h'.2]; exact Nat.ne_of_lt hlt), h'.1, h'.2]

/-- What each further success keeps, the whole repetition keeps. -/
theorem foldFrom_invariant {p : Reader α} {f : β → α → β} {onStall : Refusal}
    {R : β → List Char → Prop}
    (hstep : ∀ (gathered : β) (cs : List Char) (a : α) (rest : List Char),
      p.run cs = .ok (a, rest) → R gathered cs → R (f gathered a) rest)
    {gathered b : β} {cs rest : List Char}
    (h : foldFrom p f onStall gathered cs = .ok (b, rest)) (hstart : R gathered cs) :
    R b rest := by
  fun_induction foldFrom p f onStall gathered cs with
  | case1 => simp at h
  | case2 gathered cs =>
      simp only [Except.ok.injEq, Prod.mk.injEq] at h
      rwa [← h.1, ← h.2]
  | case3 => simp at h
  | case4 gathered cs a rest' hp _ ih => exact ih h (hstep gathered cs a rest' hp hstart)

/-! ### Progress -/

/-- A reader that takes something whenever it does not refuse. -/
def Advances (p : Reader α) : Prop :=
  ∀ ⦃cs : List Char⦄ ⦃a : α⦄ ⦃rest : List Char⦄, p.run cs = .ok (a, rest) →
    rest.length < cs.length

/-- A reader that refuses a text only for how it begins. -/
def Plain (p : Reader α) : Prop :=
  ∀ ⦃cs : List Char⦄ ⦃e : Refusal⦄, p.run cs = .error e → e = .mismatch

theorem advances_one (test : Char → Bool) : (one test).Advances := by
  intro cs a rest h
  cases cs with
  | nil => simp [one] at h
  | cons c cs =>
      simp only [one] at h
      split at h
      · simp only [Except.ok.injEq, Prod.mk.injEq] at h
        rw [← h.2]
        exact Nat.lt_succ_self _
      · simp at h

theorem plain_one (test : Char → Bool) : (one test).Plain := by
  intro cs e h
  cases cs with
  | nil =>
      simp only [one, Except.error.injEq] at h
      exact h.symm
  | cons c cs =>
      simp only [one] at h
      split at h
      · simp at h
      · simp only [Except.error.injEq] at h
        exact h.symm

theorem plain_span (test : Char → Bool) : (span test).Plain := by
  intro cs e h
  simp [span] at h

theorem advances_spanSome (test : Char → Bool) : (spanSome test).Advances := by
  intro cs a rest h
  simp only [spanSome] at h
  split at h
  · simp at h
  · next hne =>
    simp only [Except.ok.injEq, Prod.mk.injEq] at h
    have hlen : (cs.takeWhile test ++ cs.dropWhile test).length = cs.length := by
      rw [List.takeWhile_append_dropWhile]
    rw [List.length_append] at hlen
    have hpos := List.length_pos_iff.2 hne
    rw [← h.2]
    omega

theorem plain_spanSome (test : Char → Bool) : (spanSome test).Plain := by
  intro cs e h
  simp only [spanSome] at h
  split at h
  · simp only [Except.error.injEq] at h
    exact h.symm
  · simp at h

theorem Advances.map {p : Reader α} (hp : p.Advances) (f : α → β) : (p.map f).Advances := by
  intro cs b rest h
  simp only [Reader.map] at h
  split at h
  · simp at h
  · next a rest' hrun =>
    simp only [Except.ok.injEq, Prod.mk.injEq] at h
    exact h.2 ▸ hp hrun

theorem Plain.map {p : Reader α} (hp : p.Plain) (f : α → β) : (p.map f).Plain := by
  intro cs e h
  simp only [Reader.map] at h
  split at h
  · next e' hrun =>
    simp only [Except.error.injEq] at h
    exact h ▸ hp hrun
  · simp at h

theorem Advances.orElse {p q : Reader α} (hp : p.Advances) (hq : q.Advances) :
    (p.orElse q).Advances := by
  intro cs a rest h
  simp only [Reader.orElse] at h
  split at h
  · split at h
    · simp at h
    · exact hq h
  · next r hrun => exact hp (hrun.trans h)

theorem Plain.orElse {p q : Reader α} (hp : p.Plain) (hq : q.Plain) : (p.orElse q).Plain := by
  intro cs e h
  simp only [Reader.orElse] at h
  split at h
  · next e' hrun =>
    rw [hp hrun] at h
    exact hq h
  · simp at h

/-- Where a choice refuses, both readers do. -/
theorem run_orElse_eq_error {p q : Reader α} (hp : p.Plain) {cs : List Char} {e : Refusal}
    (h : (p.orElse q).run cs = .error e) : p.run cs = .error .mismatch ∧ q.run cs = .error e := by
  simp only [Reader.orElse] at h
  split at h
  · next e' hrun =>
    rw [hp hrun] at h hrun
    exact ⟨hrun, h⟩
  · cases h

theorem Plain.optional {p : Reader α} (hp : p.Plain) : p.optional.Plain := by
  intro cs e h
  simp only [Reader.optional] at h
  split at h
  · next e' hrun =>
    rw [hp hrun] at h
    simp [Refusal.isFinal] at h
  · simp at h

theorem Advances.andThen_left {p : Reader α} (hp : p.Advances) (q : Reader β) :
    (p.andThen q).Advances := by
  intro cs b rest h
  simp only [Reader.andThen] at h
  split at h
  · simp at h
  · next a rest' hrun => exact Nat.lt_of_le_of_lt (q.length_le h) (hp hrun)

theorem Advances.andThen_right (p : Reader α) {q : Reader β} (hq : q.Advances) :
    (p.andThen q).Advances := by
  intro cs b rest h
  simp only [Reader.andThen] at h
  split at h
  · simp at h
  · next a rest' hrun => exact Nat.lt_of_lt_of_le (hq h) (p.length_le hrun)

theorem Plain.andThen {p : Reader α} {q : Reader β} (hp : p.Plain) (hq : q.Plain) :
    (p.andThen q).Plain := by
  intro cs e h
  simp only [Reader.andThen] at h
  split at h
  · next e' hrun =>
    simp only [Except.error.injEq] at h
    exact h ▸ hp hrun
  · exact hq h

theorem Advances.between {left : Reader α} (hl : left.Advances) (p : Reader β) (right : Reader γ) :
    (left.between p right).Advances := by
  intro cs b rest h
  simp only [Reader.between] at h
  split at h
  · simp at h
  next inner hleft =>
  split at h
  · simp at h
  next b' outer hp =>
  split at h
  · simp at h
  next rest' hright =>
  simp only [Except.ok.injEq, Prod.mk.injEq] at h
  rw [← h.2]
  have := hl hleft
  have := p.length_le hp
  have := right.length_le hright
  omega

theorem Plain.between {left : Reader α} {p : Reader β} {right : Reader γ} (hl : left.Plain)
    (hp : p.Plain) (hr : right.Plain) : (left.between p right).Plain := by
  intro cs e h
  simp only [Reader.between] at h
  split at h
  · next e' hrun =>
    simp only [Except.error.injEq] at h
    exact h ▸ hl hrun
  split at h
  · next e' hrun =>
    simp only [Except.error.injEq] at h
    exact h ▸ hp hrun
  split at h
  · next e' hrun =>
    simp only [Except.error.injEq] at h
    exact h ▸ hr hrun
  · simp at h

/-- **A repetition of a plain reader that always takes something never refuses**: it goes on until
the reader finds nothing more. -/
theorem exists_foldFrom {p : Reader α} (ha : p.Advances) (hp : p.Plain) (f : β → α → β)
    (onStall : Refusal) (gathered : β) (cs : List Char) :
    ∃ b rest, foldFrom p f onStall gathered cs = .ok (b, rest) ∧ p.run rest = .error .mismatch := by
  fun_induction foldFrom p f onStall gathered cs with
  | case1 gathered cs e hrun hfinal =>
      rw [hp hrun] at hfinal
      simp [Refusal.isFinal] at hfinal
  | case2 gathered cs e hrun _ => exact ⟨gathered, cs, rfl, hp hrun ▸ hrun⟩
  | case3 gathered cs a rest hrun hstall => exact absurd hstall (Nat.ne_of_lt (ha hrun))
  | case4 gathered cs a rest hrun _ ih => exact ih

theorem Plain.fold {p : Reader α} (ha : p.Advances) (hp : p.Plain) (f : β → α → β) (start : β) :
    (p.fold f start).Plain := by
  intro cs e h
  obtain ⟨b, rest, hok, -⟩ := exists_foldFrom ha hp f .stalled start cs
  rw [show (p.fold f start).run cs = .ok (b, rest) from hok] at h
  cases h

theorem Advances.foldSome {p : Reader α} (ha : p.Advances) (f : β → α → β) (start : β) :
    (p.foldSome f start).Advances := by
  intro cs b rest h
  simp only [Reader.foldSome] at h
  split at h
  · simp at h
  · next a rest' hrun =>
    exact Nat.lt_of_le_of_lt (suffix_foldFrom p f .stuck h).length_le (ha hrun)

theorem Plain.foldSome {p : Reader α} (ha : p.Advances) (hp : p.Plain) (f : β → α → β)
    (start : β) : (p.foldSome f start).Plain := by
  intro cs e h
  simp only [Reader.foldSome] at h
  split at h
  · next e' hrun =>
    simp only [Except.error.injEq] at h
    exact h ▸ hp hrun
  · next a rest hrun =>
    obtain ⟨b, rest', hok, -⟩ := exists_foldFrom ha hp f .stuck (f start a) rest
    rw [hok] at h
    cases h

/-- A repetition begins with a success. -/
theorem head_of_foldSome {p : Reader α} {f : β → α → β} {start b : β} {cs rest : List Char}
    (h : (p.foldSome f start).run cs = .ok (b, rest)) :
    ∃ a rest', p.run cs = .ok (a, rest') ∧ foldFrom p f .stuck (f start a) rest' = .ok (b, rest) := by
  simp only [Reader.foldSome] at h
  split at h
  · cases h
  · next a rest' hrun => exact ⟨a, rest', hrun, h⟩

/-- A repetition leaves off where its reader refuses. -/
theorem run_of_foldSome {p : Reader α} (ha : p.Advances) (hp : p.Plain) {f : β → α → β}
    {start b : β} {cs rest : List Char} (h : (p.foldSome f start).run cs = .ok (b, rest)) :
    p.run rest = .error .mismatch := by
  obtain ⟨a, rest', -, hfold⟩ := head_of_foldSome h
  obtain ⟨b', last, hok, hlast⟩ := exists_foldFrom ha hp f .stuck (f start a) rest'
  rw [hok, Except.ok.injEq, Prod.mk.injEq] at hfold
  exact hfold.2 ▸ hlast

/-- A repetition refuses where its reader refuses from the start. -/
theorem run_of_foldSome_refused {p : Reader α} (ha : p.Advances) (hp : p.Plain) {f : β → α → β}
    {start : β} {cs : List Char} {e : Refusal} (h : (p.foldSome f start).run cs = .error e) :
    p.run cs = .error .mismatch := by
  cases hrun : p.run cs with
  | error e' => rw [hp hrun]
  | ok r =>
      obtain ⟨a, rest⟩ := r
      obtain ⟨b, last, hok, -⟩ := exists_foldFrom ha hp f .stuck (f start a) rest
      simp only [Reader.foldSome, hrun, hok] at h
      cases h

end Reader

end LineShell.Text
