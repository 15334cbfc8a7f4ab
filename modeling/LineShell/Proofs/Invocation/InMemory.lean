/-
**An invocation in memory.**

What is built for a line holds all that was given for it.  The path comes first, the tokens behind
the name follow, and a redirection keeps its marker and its target.  No token is lost and none is
made up, so the path and the tokens behind the name can be told from the invocation.  For that the
place of the marker matters: a vector whose first argument is a marker never comes without a
redirection, or the marker could be taken for one.

The program does not get strings, though, but the address of an array of addresses.  Each of them
leads to bytes that end at the first NUL, wherever that is, and the array ends at the first null
pointer.  Nothing tells the program how long a string was meant to be, or how many there are.  What
it reads in this way are the path and the arguments all the same, whatever else there is in memory.

Main definitions:

* `LineShell.Invocation.written` — the tokens behind the name, as an invocation holds them;
* `LineShell.Holds`, `LineShell.Reads` — the bytes that lie in memory from an address on, and those
  that are read from there, up to the first NUL;
* `LineShell.Laid` — pointers as an array of addresses.

Main results:

* `LineShell.Invocation.Fits.written_eq` — nothing is lost;
* `LineShell.Reads.eq`, `LineShell.reads_of_holds` — a string is read as it lies in memory, and in
  no other way;
* `LineShell.exists_laid`, `LineShell.Laid.exists_addresses` — any pointers can be laid out, and
  strings are read along their array up to its first null pointer;
* `LineShell.Invocation.build_loses_nothing` — **what is built is what was given, and what the
  program reads is what was built**.
-/

import LineShell.Proofs.Invocation.Faults
import Mathlib.Data.List.Forall2

set_option autoImplicit false

namespace LineShell

/-! ### Strings in memory -/

/-- The bytes lie in memory from the address on. -/
def Holds (memory : Nat → UInt8) : Nat → Bytes → Prop
  | _, [] => True
  | address, b :: bs => memory address = b ∧ Holds memory (address + 1) bs

/-- From the address on, these bytes are read before the first NUL. -/
inductive Reads (memory : Nat → UInt8) : Nat → Bytes → Prop where
  /-- There is a NUL. -/
  | nul {address : Nat} (h : memory address = 0) : Reads memory address []
  /-- There is another byte, and reading goes on behind it. -/
  | byte {address : Nat} {bs : Bytes} (h : memory address ≠ 0)
    (rest : Reads memory (address + 1) bs) : Reads memory address (memory address :: bs)

section

variable {memory : Nat → UInt8} {address : Nat} {bs bs' : Bytes}

/-- There is one way to read only. -/
theorem Reads.eq (h : Reads memory address bs) (h' : Reads memory address bs') : bs = bs' := by
  induction h generalizing bs' with
  | nul h =>
      cases h' with
      | nul _ => rfl
      | byte h' _ => exact absurd h h'
  | byte h _ ih =>
      cases h' with
      | nul h' => exact absurd h' h
      | byte _ rest' => rw [ih rest']

theorem reads_of_holds_append_nul (hzero : 0 ∉ bs) (h : Holds memory address (bs ++ [0])) :
    Reads memory address bs := by
  induction bs generalizing address with
  | nil => exact .nul h.1
  | cons b bs ih =>
      obtain ⟨rfl, hrest⟩ := h
      simp only [List.mem_cons, not_or] at hzero
      exact .byte (Ne.symm hzero.1) (ih hzero.2 hrest)

/-- **A string is read as it lies in memory.** -/
theorem reads_of_holds {c : CString} (h : Holds memory address c.memory) :
    Reads memory address c.bytes :=
  reads_of_holds_append_nul c.noNul h

end

/-! ### The array of pointers -/

/-- Pointers as an array of addresses.  The null pointer is the address 0; from any other address on
lie the bytes that its pointer leads to. -/
inductive Laid (memory : Nat → UInt8) : List Nat → List (Option Bytes) → Prop where
  /-- There are no pointers. -/
  | nil : Laid memory [] []
  /-- The null pointer comes first. -/
  | null {array : List Nat} {pointers : List (Option Bytes)} (rest : Laid memory array pointers) :
    Laid memory (0 :: array) (none :: pointers)
  /-- A pointer to some bytes comes first. -/
  | leads {address : Nat} {bs : Bytes} {array : List Nat} {pointers : List (Option Bytes)}
    (ne : address ≠ 0) (holds : Holds memory address bs) (rest : Laid memory array pointers) :
    Laid memory (address :: array) (some bs :: pointers)

/-- Bytes with others around them. -/
theorem holds_getD (front bs behind : Bytes) :
    Holds (fun address => (front ++ (bs ++ behind)).getD address 0) front.length bs := by
  induction bs generalizing front with
  | nil => trivial
  | cons b bs ih =>
      refine ⟨by simp, ?_⟩
      have hrest := ih (front ++ [b])
      simpa using hrest

/-- Behind the bytes that are in memory already, those of the pointers are put one behind the
other. -/
theorem exists_laid_behind {front : Bytes} (hfront : front ≠ []) (pointers : List (Option Bytes)) :
    ∃ array, Laid (fun address => (front ++ pointers.flatMap (·.getD [])).getD address 0) array
      pointers := by
  -- what was put there so far is in front of the next, so the front grows
  induction pointers generalizing front with
  | nil => exact ⟨[], .nil⟩
  | cons pointer pointers ih =>
      cases pointer with
      | none =>
          obtain ⟨array, hrest⟩ := ih hfront
          exact ⟨0 :: array, .null hrest⟩
      | some bs =>
          have hlonger : front ++ bs ≠ [] := List.append_ne_nil_of_left_ne_nil hfront bs
          obtain ⟨array, hrest⟩ := ih hlonger
          rw [List.append_assoc] at hrest
          have hne : front.length ≠ 0 := mt List.length_eq_zero_iff.1 hfront
          exact ⟨front.length :: array, .leads hne (holds_getD front bs _) hrest⟩

/-- **Any pointers can be laid out.** -/
theorem exists_laid (pointers : List (Option Bytes)) :
    ∃ memory array, Laid memory array pointers := by
  -- nothing begins at the address 0, which is that of the null pointer
  obtain ⟨array, hlaid⟩ := exists_laid_behind (List.cons_ne_nil 0 []) pointers
  exact ⟨_, array, hlaid⟩

/-- **Strings are read along their array**, which ends at its first null pointer: every address in
front of it leads to the string of its place. -/
theorem Laid.exists_addresses {memory : Nat → UInt8} {array : List Nat} {cs : List CString}
    (h : Laid memory array (cs.map (fun c => some c.memory) ++ [none])) :
    ∃ addresses, array = addresses ++ [0] ∧ (∀ address ∈ addresses, address ≠ 0) ∧
      List.Forall₂ (Reads memory) addresses (cs.map CString.bytes) := by
  induction cs generalizing array with
  | nil =>
      cases h with
      | null rest =>
          cases rest with
          | nil => exact ⟨[], rfl, by simp, .nil⟩
  | cons c cs ih =>
      cases h with
      | leads hne hholds rest =>
          obtain ⟨addresses, rfl, hnonzero, hreads⟩ := ih rest
          exact ⟨_ :: addresses, rfl, List.forall_mem_cons.2 ⟨hne, hnonzero⟩,
            .cons (reads_of_holds hholds) hreads⟩

theorem ArgumentVector.nullIndex_eq (v : ArgumentVector) : v.nullIndex = v.size := by
  simp [nullIndex, pointers, size, List.findIdx_append]

namespace Invocation

/-! ### What was given -/

/-- The tokens behind the name, as an invocation holds them: the marker and the target of the
redirection, if there is one, and the arguments behind the path. -/
def written (invocation : Invocation) : List Bytes :=
  (match invocation.redirection with
    | none => []
    | some redirection => [Utf8.encode redirection.stream.marker, redirection.target.bytes]) ++
  invocation.vector.arguments.map CString.bytes

section

variable {path : Bytes} {tokens : List String} {invocation : Invocation}

theorem Fits.program_eq (h : Fits path tokens invocation) :
    invocation.vector.program.bytes = path := by
  have hvector := h.vector
  simp only [ArgumentVector.all, List.map_cons, List.cons.injEq] at hvector
  exact hvector.1

/-- **Nothing is lost**: the tokens behind the name are what the invocation holds. -/
theorem Fits.written_eq (h : Fits path tokens invocation) (hfaultless : faults path tokens = []) :
    invocation.written = tokens.tail.map Utf8.encode := by
  have hvector := h.vector
  simp only [ArgumentVector.all, List.map_cons, List.cons.injEq] at hvector
  rw [written, hvector.2]
  rcases redirected_cases tokens with
    ⟨hnone, -⟩ | ⟨stream, hstream, ⟨hmissing, -⟩ | ⟨target, htarget, htail⟩⟩
  · have hredirection : invocation.redirection = none := by
      have hdirected := h.redirection
      rw [directed, hnone] at hdirected
      exact Option.map_eq_none_iff.1 hdirected
    have hrest : passedOn tokens = tokens.drop 1 := by simp [passedOn, hnone]
    rw [hredirection, hrest, List.drop_one]
    rfl
  · -- a marker without a target is a fault
    simp [faults, targetFaults, hstream, hmissing] at hfaultless
  · have hdirected := h.redirection
    rw [directed, hstream, htarget] at hdirected
    obtain ⟨redirection, hredirection, hparts⟩ := Option.map_eq_some_iff.1 hdirected
    simp only [Prod.mk.injEq] at hparts
    have hrest : passedOn tokens = tokens.drop 3 := by simp [passedOn, hstream]
    rw [hredirection, hrest, htail]
    simp [hparts]

end

/-- **What is built is what was given, and what the program reads is what was built.**  The tokens
behind the name are the marker and the target of the redirection, if there is one, and the arguments
behind the path.  So the path and the tokens behind the name can be told from what was built.  There
is always a path, the first null pointer is behind the last argument, and however the strings lie in
memory, reading each of them up to its first NUL gives the path and the tokens that are passed on. -/
theorem build_loses_nothing {path : Bytes} {tokens : List String} {invocation : Invocation}
    (h : build path tokens = .ok invocation) :
    tokens.tail.map Utf8.encode = invocation.written ∧
    (∀ path' tokens' invocation', build path' tokens' = .ok invocation' →
      invocation'.vector = invocation.vector → invocation'.redirection = invocation.redirection →
      path' = path ∧ tokens'.tail = tokens.tail) ∧
    invocation.vector.all ≠ [] ∧ invocation.vector.nullIndex = invocation.vector.size ∧
    ∀ memory array, Laid memory array invocation.vector.pointers →
      ∃ addresses, array = addresses ++ [0] ∧ (∀ address ∈ addresses, address ≠ 0) ∧
        addresses.length = invocation.vector.size ∧
        List.Forall₂ (Reads memory) addresses (path :: (passedOn tokens).map Utf8.encode) := by
  obtain ⟨hfaultless, hfits⟩ := build_eq_ok_iff.1 h
  have hwritten := hfits.written_eq hfaultless
  refine ⟨hwritten.symm, ?_, List.cons_ne_nil _ _, ArgumentVector.nullIndex_eq _, ?_⟩
  · intro path' tokens' invocation' h' hvector hredirection
    obtain ⟨hfaultless', hfits'⟩ := build_eq_ok_iff.1 h'
    -- there is nothing in an invocation besides its vector and its redirection
    have hsame : invocation' = invocation := by
      cases invocation'
      cases invocation
      simp only at hvector hredirection
      rw [hvector, hredirection]
    subst hsame
    refine ⟨hfits'.program_eq.symm.trans hfits.program_eq, ?_⟩
    have htail : tokens'.tail.map Utf8.encode = tokens.tail.map Utf8.encode :=
      (hfits'.written_eq hfaultless').symm.trans hwritten
    exact List.map_injective_iff.2 (fun _ _ => Utf8.eq_of_encode_eq) htail
  · intro memory array hlaid
    obtain ⟨addresses, harray, hnonzero, hreads⟩ := Laid.exists_addresses hlaid
    have hlength : addresses.length = invocation.vector.size := by
      rw [hreads.length_eq, List.length_map]
      rfl
    rw [hfits.vector] at hreads
    exact ⟨addresses, harray, hnonzero, hlength, hreads⟩

/-- A redirection from a file named like a marker, and behind it a marker and an empty text, which
are arguments. -/
theorem build_loses_nothing_markers :
    let path := Utf8.encode "/bin/cat"
    let tokens := ["cat", "<", ">", "<", ""]
    ∃ invocation, build path tokens = .ok invocation ∧
      invocation.written = tokens.tail.map Utf8.encode ∧
      ∃ memory array addresses, Laid memory array invocation.vector.pointers ∧
        array = addresses ++ [0] ∧
        List.Forall₂ (Reads memory) addresses [path, Utf8.encode "<", []] := by
  intro path tokens
  have hfaultless : faults path tokens = [] := by decide
  obtain ⟨invocation, hbuild, -⟩ := exists_build_of_faults_eq_nil hfaultless
  obtain ⟨hwritten, -, -, -, hread⟩ := build_loses_nothing hbuild
  obtain ⟨memory, array, hlaid⟩ := exists_laid invocation.vector.pointers
  obtain ⟨addresses, harray, -, -, hreads⟩ := hread memory array hlaid
  exact ⟨invocation, hbuild, hwritten.symm, memory, array, addresses, hlaid, harray, hreads⟩

end Invocation

end LineShell
