/-
**An invocation, by the places of the tokens.**

What is built for a line can be said by places alone.  The token in place 1 decides whether there is
a redirection, which it is if it is exactly a marker; the target is then the token in place 2, and
the arguments begin in place 3.  Without a redirection they begin in place 1.  Nothing else makes a
difference: a marker anywhere else is an argument, or a target, and the token in place 0 is not
looked at.

Four things can be wrong, and several of them at once: there is no token in place 2, or it holds a
NUL; the path holds one; an argument does.  They are listed in this order, and the first of the list
is the refusal.  If the list is empty there is an invocation, and only one.

Main definitions:

* `LineShell.Invocation.redirected`, `LineShell.Invocation.directed`,
  `LineShell.Invocation.passedOn` — the stream, its directive and the arguments, by places;
* `LineShell.Invocation.faults` — **all that is wrong**, in the order in which it counts;
* `LineShell.Invocation.Fits` — the invocation is made of these parts.

Main results:

* `LineShell.Invocation.redirected_cases` — what the tokens behind the name can begin with;
* `LineShell.Invocation.build_of_head?_faults`, `LineShell.Invocation.exists_build_of_faults_eq_nil`
  — the first fault is the refusal, and without one there is an invocation;
* `LineShell.Invocation.build_eq_ok_iff` — what is built, and when;
* `LineShell.Invocation.build_by_places` — **all that is built, and all that is refused**.
-/

import LineShell.Proofs.Invocation.ZeroByte
import Mathlib.Data.List.Basic

set_option autoImplicit false

namespace LineShell

theorem CString.bytes_injective : Function.Injective CString.bytes := by
  rintro ⟨bs, h⟩ ⟨bs', h'⟩ heq
  cases heq
  rfl

namespace Invocation

/-! ### Places -/

/-- The stream that the tokens of a line redirect: that of a marker in place 1. -/
def redirected (tokens : List String) : Option Stream :=
  if tokens[1]? = some "<" then some .input
  else if tokens[1]? = some ">" then some .output
  else none

/-- The stream that is redirected and the bytes of its target, which stands in place 2. -/
def directed (tokens : List String) : Option (Stream × Bytes) :=
  (redirected tokens).bind fun stream => tokens[2]?.map fun target => (stream, Utf8.encode target)

/-- The arguments: the tokens from place 3 on if a stream is redirected, and else from place 1
on. -/
def passedOn (tokens : List String) : List String :=
  if (redirected tokens).isSome then tokens.drop 3 else tokens.drop 1

/-- What is wrong with the target. -/
def targetFaults (tokens : List String) : List BuildError :=
  match redirected tokens, tokens[2]? with
  | none, _ => []
  | some stream, none => [.missingTarget stream]
  | some _, some target => if NulFree target then [] else [.nul target]

/-- What is wrong with the path. -/
def pathFaults (path : Bytes) : List BuildError :=
  if 0 ∈ path then [.nul (Utf8.decodeLossy path)] else []

/-- What is wrong with arguments. -/
def argumentFaults (arguments : List String) : List BuildError :=
  (arguments.filter (¬ NulFree ·)).map .nul

/-- All that is wrong, in the order in which it counts. -/
def faults (path : Bytes) (tokens : List String) : List BuildError :=
  targetFaults tokens ++ pathFaults path ++ argumentFaults (passedOn tokens)

/-- The invocation is made of the path, the arguments and the directive. -/
structure Fits (path : Bytes) (tokens : List String) (invocation : Invocation) : Prop where
  /-- The path comes first and the arguments follow it. -/
  vector : invocation.vector.all.map CString.bytes = path :: (passedOn tokens).map Utf8.encode
  /-- The redirection is the one that the tokens direct. -/
  redirection : invocation.redirection.map (fun r => (r.stream, r.target.bytes)) = directed tokens

section

variable {path : Bytes} {tokens : List String} {cause : BuildError} {invocation : Invocation}

/-- There is one such invocation at most. -/
theorem Fits.eq {invocation' : Invocation} (h : Fits path tokens invocation)
    (h' : Fits path tokens invocation') : invocation = invocation' := by
  obtain ⟨⟨program, arguments⟩, redirection⟩ := invocation
  obtain ⟨⟨program', arguments'⟩, redirection'⟩ := invocation'
  have hall : program :: arguments = program' :: arguments' :=
    List.map_injective_iff.2 CString.bytes_injective (h.vector.trans h'.vector.symm)
  have hparts : Function.Injective fun r : Redirection => (r.stream, r.target.bytes) := by
    rintro ⟨stream, target⟩ ⟨stream', target'⟩ heq
    simp only [Prod.mk.injEq] at heq
    rw [heq.1, CString.bytes_injective heq.2]
  have hredirection : redirection = redirection' :=
    Option.map_injective hparts (h.redirection.trans h'.redirection.symm)
  simp only [List.cons.injEq] at hall
  rw [hall.1, hall.2, hredirection]

/-! ### What the tokens begin with -/

theorem redirected_eq (tokens : List String) :
    redirected tokens = tokens[1]?.bind Stream.ofMarker? := by
  unfold redirected
  cases tokens[1]? with
  | none => simp
  | some token => simp [Stream.ofMarker?]

/-- Behind the name there is no marker, or one with nothing behind it, or one and its target. -/
theorem redirected_cases (tokens : List String) :
    (redirected tokens = none ∧ directive tokens.tail = .ok (none, tokens.drop 1)) ∨
      ∃ stream, redirected tokens = some stream ∧
        ((tokens[2]? = none ∧ directive tokens.tail = .error (.missingTarget stream)) ∨
          ∃ target, tokens[2]? = some target ∧
            tokens.tail = stream.marker :: target :: tokens.drop 3) := by
  rw [redirected_eq]
  match tokens with
  | [] | [_] => exact .inl ⟨rfl, rfl⟩
  | name :: token :: rest =>
    simp only [List.getElem?_cons_succ, List.getElem?_cons_zero, Option.bind_some, List.tail_cons,
      List.drop_succ_cons, List.drop_zero]
    cases hmarker : Stream.ofMarker? token with
    | none => exact .inl ⟨rfl, by simp only [directive, hmarker]⟩
    | some stream =>
      obtain rfl := (Stream.ofMarker?_eq_some_iff token stream).1 hmarker
      refine .inr ⟨stream, rfl, ?_⟩
      cases rest with
      | nil => exact .inl ⟨rfl, directive_of_marker_alone stream⟩
      | cons target rest => exact .inr ⟨target, rfl, rfl⟩

/-! ### The first fault -/

theorem head?_argumentFaults (arguments : List String) :
    (argumentFaults arguments).head? = (arguments.find? (¬ NulFree ·)).map .nul := by
  rw [argumentFaults, List.head?_map, List.head?_filter]

/-- Behind the redirection, the path is checked before the arguments. -/
theorem build_of_head?_pathFaults {rest : List String} {redirection : Option Redirection}
    (hdirective : directive tokens.tail = .ok (redirection, rest))
    (h : (pathFaults path ++ argumentFaults rest).head? = some cause) :
    build path tokens = .error cause := by
  rw [build, hdirective]
  by_cases hpath : 0 ∈ path
  · have hrefused : CString.ofBytes path = .error ⟨path.idxOf 0⟩ := dif_pos hpath
    simp only [pathFaults, if_pos hpath, List.singleton_append, List.head?_cons,
      Option.some.injEq] at h
    simp only [bind, Except.bind, hrefused, h]
  · have hprogram : CString.ofBytes path = .ok ⟨path, hpath⟩ := dif_neg hpath
    rw [pathFaults, if_neg hpath, List.nil_append, head?_argumentFaults] at h
    obtain ⟨text, hfind, rfl⟩ := Option.map_eq_some_iff.1 h
    simp only [bind, Except.bind, hprogram, arguments_of_find_eq_some hfind]

/-- **The first fault is the refusal.** -/
theorem build_of_head?_faults (h : (faults path tokens).head? = some cause) :
    build path tokens = .error cause := by
  rw [faults, List.append_assoc] at h
  rcases redirected_cases tokens with
    ⟨hnone, hdirective⟩ | ⟨stream, hstream, ⟨hmissing, hdirective⟩ | ⟨target, htarget, htail⟩⟩
  · have hrest : passedOn tokens = tokens.drop 1 := by simp [passedOn, hnone]
    have hfaultless : targetFaults tokens = [] := by rw [targetFaults, hnone]
    rw [hfaultless, hrest] at h
    exact build_of_head?_pathFaults hdirective h
  · have hfault : targetFaults tokens = [.missingTarget stream] := by
      rw [targetFaults, hstream, hmissing]
    rw [hfault] at h
    cases h
    exact build_of_directive_error hdirective
  · have hrest : passedOn tokens = tokens.drop 3 := by simp [passedOn, hstream]
    by_cases hfree : NulFree target
    · have hfaultless : targetFaults tokens = [] := by simp [targetFaults, hstream, htarget, hfree]
      obtain ⟨redirection, hdirective, -, -⟩ :=
        exists_directive_marker stream hfree (tokens.drop 3)
      rw [← htail] at hdirective
      rw [hfaultless, hrest] at h
      exact build_of_head?_pathFaults hdirective h
    · have hfault : targetFaults tokens = [.nul target] := by
        simp [targetFaults, hstream, htarget, hfree]
      rw [hfault] at h
      cases h
      refine build_of_directive_error ?_
      rw [htail]
      exact directive_of_marker_not_nulFree stream hfree (tokens.drop 3)

/-! ### No fault -/

/-- **Without a fault there is an invocation**, which is made of all that was given. -/
theorem exists_build_of_faults_eq_nil (h : faults path tokens = []) :
    ∃ invocation, build path tokens = .ok invocation ∧ Fits path tokens invocation := by
  simp only [faults, List.append_eq_nil_iff] at h
  obtain ⟨⟨htarget, hpath⟩, harguments⟩ := h
  have hzero : 0 ∉ path := by simpa [pathFaults] using hpath
  have hfree : ∀ token ∈ passedOn tokens, NulFree token := by
    simpa [argumentFaults] using harguments
  rcases redirected_cases tokens with
    ⟨hnone, hdirective⟩ | ⟨stream, hstream, ⟨hmissing, hdirective⟩ | ⟨target, hplace, htail⟩⟩
  · have hrest : passedOn tokens = tokens.drop 1 := by simp [passedOn, hnone]
    rw [hrest] at hfree
    obtain ⟨invocation, hbuild, hredirection, hvector⟩ := exists_build hdirective hzero hfree
    refine ⟨invocation, hbuild, by rw [hvector, hrest], ?_⟩
    rw [hredirection, directed, hnone]
    rfl
  · simp [targetFaults, hstream, hmissing] at htarget
  · have hrest : passedOn tokens = tokens.drop 3 := by simp [passedOn, hstream]
    have hfreeTarget : NulFree target := by simpa [targetFaults, hstream, hplace] using htarget
    obtain ⟨redirection, hdirective, hsame, hbytes⟩ :=
      exists_directive_marker stream hfreeTarget (tokens.drop 3)
    rw [← htail] at hdirective
    rw [hrest] at hfree
    obtain ⟨invocation, hbuild, hredirection, hvector⟩ := exists_build hdirective hzero hfree
    refine ⟨invocation, hbuild, by rw [hvector, hrest], ?_⟩
    rw [hredirection, directed, hstream, hplace]
    simp [hsame, hbytes]

/-- **What is built, and when.** -/
theorem build_eq_ok_iff :
    build path tokens = .ok invocation ↔ faults path tokens = [] ∧ Fits path tokens invocation := by
  constructor
  · intro hbuild
    have hfaultless : faults path tokens = [] := by
      refine List.head?_eq_none_iff.1 (Option.eq_none_iff_forall_ne_some.2 fun cause hcause => ?_)
      rw [build_of_head?_faults hcause] at hbuild
      cases hbuild
    obtain ⟨invocation', hbuild', hfits⟩ := exists_build_of_faults_eq_nil hfaultless
    rw [hbuild, Except.ok.injEq] at hbuild'
    exact ⟨hfaultless, hbuild' ▸ hfits⟩
  · rintro ⟨hfaultless, hfits⟩
    obtain ⟨invocation', hbuild, hfits'⟩ := exists_build_of_faults_eq_nil hfaultless
    rw [hbuild, hfits'.eq hfits]

/-! ### Places that are kept -/

/-- Without a redirection every token but the name keeps its place, and with one every token behind
the target moves up by two. -/
theorem Fits.getElem? (h : Fits path tokens invocation) {i : Nat} {token : String}
    (htoken : tokens[i]? = some token) :
    (redirected tokens = none → 1 ≤ i →
      invocation.vector.all[i]?.map CString.bytes = some (Utf8.encode token)) ∧
    (redirected tokens ≠ none → 3 ≤ i →
      invocation.vector.all[i - 2]?.map CString.bytes = some (Utf8.encode token)) := by
  rw [← List.getElem?_map, ← List.getElem?_map, h.vector]
  constructor
  · intro hnone hi
    obtain ⟨j, rfl⟩ := Nat.exists_eq_add_of_le' hi
    have hrest : passedOn tokens = tokens.drop 1 := by simp [passedOn, hnone]
    rw [List.getElem?_cons_succ, hrest, List.getElem?_map, List.getElem?_drop, Nat.add_comm 1 j,
      htoken]
    rfl
  · intro hsome hi
    obtain ⟨j, rfl⟩ := Nat.exists_eq_add_of_le' hi
    have hrest : passedOn tokens = tokens.drop 3 := if_pos (Option.isSome_iff_ne_none.2 hsome)
    have hplace : j + 3 - 2 = j + 1 := by omega
    rw [hplace, List.getElem?_cons_succ, hrest, List.getElem?_map, List.getElem?_drop,
      Nat.add_comm 3 j, htoken]
    rfl

end

/-- **All that is built, and all that is refused**, for any path and any tokens.  The refusal is the
first fault; without a fault the one invocation that is made of the path, the arguments and the
directive is built.  A marker that stands in another place than the first, like any other token
there, is kept among the arguments, unless it is the target; and the token in place 0 makes no
difference. -/
theorem build_by_places (path : Bytes) (tokens : List String) :
    (∀ cause, build path tokens = .error cause ↔ (faults path tokens).head? = some cause) ∧
    (∀ invocation, build path tokens = .ok invocation ↔
      faults path tokens = [] ∧ Fits path tokens invocation) ∧
    (∀ invocation i token, build path tokens = .ok invocation → tokens[i]? = some token →
      (redirected tokens = none → 1 ≤ i →
        invocation.vector.all[i]?.map CString.bytes = some (Utf8.encode token)) ∧
      (redirected tokens ≠ none → 3 ≤ i →
        invocation.vector.all[i - 2]?.map CString.bytes = some (Utf8.encode token))) ∧
    ∀ name, build path (name :: tokens.tail) = build path tokens := by
  refine ⟨fun cause => ⟨fun hbuild => ?_, build_of_head?_faults⟩, fun invocation => build_eq_ok_iff,
    ?_, fun name => rfl⟩
  · cases hfaults : faults path tokens with
    | nil =>
        obtain ⟨invocation, hok, -⟩ := exists_build_of_faults_eq_nil hfaults
        rw [hbuild] at hok
        cases hok
    | cons first others =>
        have hfirst : build path tokens = .error first :=
          build_of_head?_faults (by rw [hfaults]; rfl)
        rw [hbuild, Except.error.injEq] at hfirst
        rw [hfirst]
        rfl
  · intro invocation i token hbuild htoken
    exact (build_eq_ok_iff.1 hbuild).2.getElem? htoken

/-- A marker behind the name, one for its target and one behind that, which alone is an argument;
the path is not UTF-8.  With a NUL in the target, in the path and in an argument the target is
named. -/
theorem build_by_places_markers :
    let tokens := ["cat", ">", "<", ">"]
    (∃ invocation, build [47, 255] tokens = .ok invocation ∧
      invocation.vector.all[1]?.map CString.bytes = some (Utf8.encode ">")) ∧
    build [0] ["cat", ">", "a\x00", "b\x00"] = .error (.nul "a\x00") := by
  intro tokens
  have hfaultless : faults [47, 255] tokens = [] := by decide
  obtain ⟨invocation, hbuild, -⟩ := exists_build_of_faults_eq_nil hfaultless
  obtain ⟨-, -, hplaces, -⟩ := build_by_places [47, 255] tokens
  obtain ⟨herrors, -⟩ := build_by_places [0] ["cat", ">", "a\x00", "b\x00"]
  refine ⟨⟨invocation, hbuild, ?_⟩, (herrors _).2 (by decide)⟩
  exact (hplaces invocation 3 ">" hbuild rfl).2 (by decide) (by decide)

end Invocation

end LineShell
