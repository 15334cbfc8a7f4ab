/-
**Texts that hold a NUL.**

The system takes every string as bytes ended by a NUL, so a text that holds one would be cut short.
Three kinds of text are handed over for a command: the target of its redirection, the path of its
program, and its arguments.  They are checked in this order, and the first that holds a NUL is named
in the refusal.

The command's name is not among them.  It is replaced by the path that was found for it, and only
that is checked.  A NUL in the name is still never lost: looking at a path that holds one fails, but
not because there is no such entry, so the name is not searched for and becomes the path itself.
Nor can a NUL get into the path from anywhere else: a directory of the search path may hold one, but
then nothing is found there.

Main definitions:

* `LineShell.Invocation.handedOver` — the texts that are handed to the system, in the order of the
  checks;
* `LineShell.Invocation.strings` — what they have become.

Main results:

* `LineShell.SearchPath.nulFree_resolve_iff` — a path holds a NUL exactly if the name does that it
  was found for;
* `LineShell.Invocation.build_of_find_eq_some`,
  `LineShell.Invocation.exists_build_of_find_eq_none` — the first text that holds a NUL is named,
  and without one nothing is refused;
* `LineShell.Invocation.nul_is_named` — **a NUL in any token is refused, and never cuts a text
  short**.
-/

import LineShell.Machine.Boot
import LineShell.Machine.Host
import LineShell.Proofs.Invocation.Quoted

set_option autoImplicit false

namespace LineShell

/-! ### The path of a name -/

namespace SearchPath

variable {search : SearchPath} {probe : String → Probe} {name found : String}

/-- A name is its own path, unless it is missing and something is found in its place. -/
theorem eq_or_found_of_resolve (h : search.resolve probe name = .ok found) :
    found = name ∨ (probe name = .missing ∧ probe found = .found) := by
  unfold resolve at h
  split at h
  · cases h
  split at h
  · cases h
    exact .inl rfl
  split at h
  · cases h
    exact .inl rfl
  · cases h
    exact .inl rfl
  next hmissing =>
  split at h
  · next candidate hsearch =>
    cases h
    refine .inr ⟨hmissing, ?_⟩
    have hseen : (probe found == .found) = true :=
      List.find?_some (p := fun c => probe c == .found) hsearch
    exact eq_of_beq hseen
  · cases h

/-- **A path holds a NUL exactly if the name does that it was found for**, whatever the search path
holds. -/
theorem nulFree_resolve_iff (hprobe : ∀ text, ¬ NulFree text → probe text = .unreadable)
    (h : search.resolve probe name = .ok found) : NulFree found ↔ NulFree name := by
  have hfree : ∀ text, probe text ≠ .unreadable → NulFree text := fun text hseen =>
    Decidable.byContradiction fun hnul => hseen (hprobe text hnul)
  rcases eq_or_found_of_resolve h with rfl | ⟨hname, hfound⟩
  · exact Iff.rfl
  -- neither of them is unreadable, so neither holds a NUL
  · have hfreeName : NulFree name := hfree name (by rw [hname]; decide)
    have hfreeFound : NulFree found := hfree found (by rw [hfound]; decide)
    exact ⟨fun _ => hfreeName, fun _ => hfreeFound⟩

end SearchPath

theorem CString.ofBytes_encode_of_not_nulFree {text : String} (h : ¬ NulFree text) :
    ∃ e, CString.ofBytes (Utf8.encode text) = .error e := by
  have hzero : 0 ∈ Utf8.encode text :=
    (Utf8.zero_mem_encode_iff text).2 (Decidable.not_not.1 h)
  exact ⟨_, dif_pos hzero⟩

namespace Invocation

/-! ### What is handed over -/

/-- The texts that are handed to the system for the tokens of a line, in the order in which they are
checked: the target of the redirection, if there is one, the path of the program, the arguments. -/
def handedOver (path : String) : List String → List String
  | _ :: token :: target :: rest =>
    if (Stream.ofMarker? token).isSome then target :: path :: rest
    else path :: token :: target :: rest
  | tokens => path :: tokens.tail

/-- The strings of an invocation in the same order. -/
def strings (invocation : Invocation) : List CString :=
  (invocation.redirection.map Redirection.target).toList ++ invocation.vector.all

/-- Unless a marker has no target, the tokens behind the name are all arguments, or a marker, its
target and the arguments. -/
theorem handedOver_cases (path name : String) {rest : List String}
    (htarget : ∀ stream : Stream, rest ≠ [stream.marker]) :
    (directive rest = .ok (none, rest) ∧ handedOver path (name :: rest) = path :: rest) ∨
      ∃ (stream : Stream) (target : String) (arguments : List String),
        rest = stream.marker :: target :: arguments ∧
          handedOver path (name :: rest) = target :: path :: arguments := by
  cases rest with
  | nil => exact .inl ⟨rfl, rfl⟩
  | cons token behind =>
      cases hmarker : Stream.ofMarker? token with
      | none =>
          refine .inl ⟨by simp only [directive, hmarker], ?_⟩
          cases behind <;> simp [handedOver, hmarker]
      | some stream =>
          obtain rfl := (Stream.ofMarker?_eq_some_iff token stream).1 hmarker
          cases behind with
          | nil => exact absurd rfl (htarget stream)
          | cons target arguments =>
              exact .inr ⟨stream, target, arguments, rfl, by simp [handedOver]⟩

/-- What is handed over holds a NUL if a token does, given that the path stands for the name. -/
theorem exists_mem_handedOver_iff {path name : String} {rest : List String}
    (hpath : NulFree path ↔ NulFree name)
    (htarget : ∀ stream : Stream, rest ≠ [stream.marker]) :
    (∃ text ∈ handedOver path (name :: rest), ¬ NulFree text) ↔
      ∃ token ∈ name :: rest, ¬ NulFree token := by
  rcases handedOver_cases path name htarget with
    ⟨-, hover⟩ | ⟨stream, target, arguments, rfl, hover⟩
  · simp only [hover, List.mem_cons, exists_eq_or_imp, hpath]
  · -- the marker itself is not handed over, but holds no NUL
    have hmarker : NulFree stream.marker := by cases stream <;> decide
    simp only [hover, List.mem_cons, exists_eq_or_imp, hpath, hmarker, not_true_eq_false, false_or]
    exact or_left_comm

/-! ### The first text that holds a NUL -/

/-- The first argument that holds a NUL is named. -/
theorem arguments_of_find_eq_some {tokens : List String} {text : String}
    (h : tokens.find? (¬ NulFree ·) = some text) : arguments tokens = .error (.nul text) := by
  induction tokens with
  | nil => cases h
  | cons token rest ih =>
      by_cases htoken : NulFree token
      · obtain ⟨c, hc, -⟩ := CString.exists_ofString htoken
        have hrest : rest.find? (¬ NulFree ·) = some text := by
          simpa [List.find?_cons, htoken] using h
        rw [arguments, hc, ih hrest]
        rfl
      · obtain ⟨e, he⟩ := CString.ofBytes_encode_of_not_nulFree htoken
        have htext : token = text := by simpa [List.find?_cons, htoken] using h
        rw [arguments, CString.ofString, he, htext]

/-- A target that holds a NUL is named, whatever is behind it. -/
theorem directive_of_marker_not_nulFree (stream : Stream) {target : String} (h : ¬ NulFree target)
    (rest : List String) : directive (stream.marker :: target :: rest) = .error (.nul target) := by
  obtain ⟨e, he⟩ := CString.ofBytes_encode_of_not_nulFree h
  simp only [directive, Stream.ofMarker?_marker, Redirection.ofText, CString.ofString, he,
    Except.map]

/-- Behind the redirection, the path is checked before the arguments. -/
theorem build_of_directive_ok {path text : String} {tokens rest : List String}
    {redirection : Option Redirection}
    (hdirective : directive tokens.tail = .ok (redirection, rest))
    (h : (path :: rest).find? (¬ NulFree ·) = some text) :
    build (Utf8.encode path) tokens = .error (.nul text) := by
  rw [build, hdirective]
  by_cases hpath : NulFree path
  · have hrest : rest.find? (¬ NulFree ·) = some text := by
      simpa [List.find?_cons, hpath] using h
    have hprogram : CString.ofBytes (Utf8.encode path) =
        .ok ⟨Utf8.encode path, hpath.zero_notMem⟩ := dif_neg hpath.zero_notMem
    simp only [bind, Except.bind, hprogram, arguments_of_find_eq_some hrest]
  · obtain ⟨e, he⟩ := CString.ofBytes_encode_of_not_nulFree hpath
    obtain rfl : path = text := by simpa [List.find?_cons, hpath] using h
    simp only [bind, Except.bind, he, Utf8.decodeLossy_encode]

section

variable {path name text : String} {rest : List String}

/-- The first text that holds a NUL is named. -/
theorem build_of_find_eq_some (htarget : ∀ stream : Stream, rest ≠ [stream.marker])
    (h : (handedOver path (name :: rest)).find? (¬ NulFree ·) = some text) :
    build (Utf8.encode path) (name :: rest) = .error (.nul text) := by
  rcases handedOver_cases path name htarget with
    ⟨hdirective, hover⟩ | ⟨stream, target, arguments, rfl, hover⟩
  · rw [hover] at h
    exact build_of_directive_ok hdirective h
  rw [hover] at h
  by_cases hfree : NulFree target
  · obtain ⟨redirection, hdirective, -, -⟩ := exists_directive_marker stream hfree arguments
    have hbehind : (path :: arguments).find? (¬ NulFree ·) = some text := by
      rw [List.find?_cons_of_neg (by simpa using hfree)] at h
      exact h
    exact build_of_directive_ok hdirective hbehind
  · -- the target is checked first of all
    obtain rfl : target = text := by simpa [List.find?_cons, hfree] using h
    exact build_of_directive_error (directive_of_marker_not_nulFree stream hfree arguments)

/-- Without a NUL nothing is refused, and the system finds every text in full. -/
theorem exists_build_of_find_eq_none (htarget : ∀ stream : Stream, rest ≠ [stream.marker])
    (h : (handedOver path (name :: rest)).find? (¬ NulFree ·) = none) :
    ∃ invocation, build (Utf8.encode path) (name :: rest) = .ok invocation ∧
      invocation.strings.map (fun c => CString.read c.memory) =
        (handedOver path (name :: rest)).map Utf8.encode := by
  have hall : ∀ text ∈ handedOver path (name :: rest), NulFree text := by
    simpa using List.find?_eq_none.1 h
  simp only [CString.read_memory]
  rcases handedOver_cases path name htarget with
    ⟨hdirective, hover⟩ | ⟨stream, target, arguments, rfl, hover⟩
  · rw [hover] at hall ⊢
    obtain ⟨hpath, hrest⟩ := List.forall_mem_cons.1 hall
    obtain ⟨invocation, hbuild, hnone, hvector⟩ :=
      @exists_build _ (name :: rest) _ _ hdirective hpath.zero_notMem hrest
    refine ⟨invocation, hbuild, ?_⟩
    simpa [strings, hnone] using hvector
  · rw [hover] at hall ⊢
    obtain ⟨hfree, hpath, hrest⟩ := by simpa only [List.forall_mem_cons] using hall
    obtain ⟨redirection, hdirective, -, hbytes⟩ := exists_directive_marker stream hfree arguments
    obtain ⟨invocation, hbuild, hsome, hvector⟩ :=
      @exists_build _ (name :: stream.marker :: target :: arguments) _ _ hdirective
        hpath.zero_notMem hrest
    refine ⟨invocation, hbuild, ?_⟩
    simpa [strings, hsome, hbytes] using hvector

end

/-! ### Tokens -/

/-- **A NUL in any token is refused, and never cuts a text short.**  The tokens lead to a path and
no marker is without its target.  Then the refusal of a NUL is the answer exactly if some token, the
command's name included, holds one; it names the first text with a NUL among the target, the path
and the arguments; and if there is none, the system reads every one of these texts to its end. -/
theorem nul_is_named {search : SearchPath} {probe : String → Probe} {name found : String}
    {rest : List String} (hprobe : ∀ text, ¬ NulFree text → probe text = .unreadable)
    (hresolve : search.resolve probe name = .ok found)
    (htarget : ∀ stream : Stream, rest ≠ [stream.marker]) :
    ((∃ text, build (Utf8.encode found) (name :: rest) = .error (.nul text)) ↔
      ∃ token ∈ name :: rest, ¬ NulFree token) ∧
    (∀ text, build (Utf8.encode found) (name :: rest) = .error (.nul text) ↔
      (handedOver found (name :: rest)).find? (¬ NulFree ·) = some text) ∧
    ((∀ token ∈ name :: rest, NulFree token) →
      ∃ invocation, build (Utf8.encode found) (name :: rest) = .ok invocation ∧
        invocation.strings.map (fun c => CString.read c.memory) =
          (handedOver found (name :: rest)).map Utf8.encode) := by
  have hpath : NulFree found ↔ NulFree name := SearchPath.nulFree_resolve_iff hprobe hresolve
  have hmem := exists_mem_handedOver_iff hpath htarget
  have hnamed : ∀ text, build (Utf8.encode found) (name :: rest) = .error (.nul text) ↔
      (handedOver found (name :: rest)).find? (¬ NulFree ·) = some text := by
    intro text
    refine ⟨fun hbuild => ?_, build_of_find_eq_some htarget⟩
    cases hfind : (handedOver found (name :: rest)).find? (¬ NulFree ·) with
    | none =>
        obtain ⟨invocation, hok, -⟩ := exists_build_of_find_eq_none htarget hfind
        rw [hbuild] at hok
        cases hok
    | some first =>
        have hfirst := build_of_find_eq_some htarget hfind
        rw [hbuild] at hfirst
        cases hfirst
        rfl
  refine ⟨?_, hnamed, ?_⟩
  · rw [← hmem]
    simp only [hnamed]
    rw [← Option.isSome_iff_exists, List.find?_isSome]
    simp only [decide_eq_true_eq]
  · intro hfree
    refine exists_build_of_find_eq_none htarget (List.find?_eq_none.2 ?_)
    intro text htext hnul
    obtain ⟨token, htoken, hheld⟩ := hmem.1 ⟨text, htext, of_decide_eq_true hnul⟩
    exact hheld (hfree token htoken)

/-- Looking at a path on a machine fails in the same way whatever the path is, if it holds a NUL. -/
theorem probe_of_not_nulFree (m : Machine.State) {text : String} (h : ¬ NulFree text) :
    Machine.probe m text = .unreadable :=
  if_pos ((Utf8.zero_mem_encode_iff text).2 (Decidable.not_not.1 h))

/-- A name, a target and an argument with a NUL, and a directory with one on the search path: the
target is named. -/
theorem nul_is_named_target :
    let search := SearchPath.parse (some "/bin:\x00")
    let m := Machine.boot Machine.furnished .null [] 0
    let tokens := ["a\x00", ">", "x\x00", "y\x00"]
    search.resolve (Machine.probe m) "a\x00" = .ok "a\x00" ∧
      build (Utf8.encode "a\x00") tokens = .error (.nul "x\x00") := by
  intro search m tokens
  have hunreadable : Machine.probe m "a\x00" = .unreadable := probe_of_not_nulFree m (by decide)
  have hresolve : search.resolve (Machine.probe m) "a\x00" = .ok "a\x00" := by
    simp only [SearchPath.resolve, hunreadable]
    rfl
  have hnamed := (nul_is_named (fun text h => probe_of_not_nulFree m h) hresolve
    (fun stream => by simp : ∀ stream : Stream, [">", "x\x00", "y\x00"] ≠ [stream.marker])).2.1
  exact ⟨hresolve, (hnamed "x\x00").2 (by decide)⟩

end Invocation

end LineShell
