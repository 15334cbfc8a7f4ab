/-
**What a name stands for.**

A name that begins with a slash is a path, and nothing is looked at.  Any other name is looked at
where it stands, and unless it is missing it is a path too, whatever is wrong with it.  Only if it is
missing are the directories searched, and here it is the other way round: a candidate counts only if
something is found, and one that cannot be looked at is passed over like one that is missing.

So the directories matter for missing names alone, and then only through the first of them that has
the name.  Directories behind it make no difference, nor does one that was searched before.  This is
why search paths compose: what is written on the right of a colon is a second choice.

Main definitions:

* `LineShell.SearchPath.IsAbsolute`, `LineShell.SearchPath.inside` — the names that begin with a
  slash, and the path of a name in a directory;
* `LineShell.SearchPath.StandsFor` — the path that a name stands for, said without a search;
* `LineShell.SearchPath.resolveIn` — the path of a name, given the text of the search path.

Main results:

* `LineShell.SearchPath.search_eq_some_iff`, `LineShell.SearchPath.search_eq_none_iff` — the first
  directory that has the name, if there is one;
* `LineShell.SearchPath.resolve_first_match` — **what a name stands for, and which names stand for
  nothing**;
* `LineShell.SearchPath.search_append`, `LineShell.SearchPath.search_append_of_subset` — directories
  behind others, and those that were searched before;
* `LineShell.SearchPath.resolve_composes` — **search paths compose**.
-/

import LineShell.Proofs.SearchPath.Directories

set_option autoImplicit false

namespace LineShell.SearchPath

/-- The name begins with a slash. -/
def IsAbsolute (name : String) : Prop := ∃ rest, name = "/" ++ rest

/-- The path of a name in a directory: both with a slash between them, unless the directory ends with
one. -/
def inside (directory name : String) : String :=
  directory ++ (if ['/'] <:+ directory.toList then "" else "/") ++ name

/-- The path that a name stands for, given the directories in their order. -/
inductive StandsFor (directories : List String) (probe : String → Probe) (name : String) :
    String → Prop where
  /-- A name that begins with a slash is a path. -/
  | absolute (slash : IsAbsolute name) : StandsFor directories probe name name
  /-- So is a name that is not missing where it stands. -/
  | present (nonempty : name ≠ "") (relative : ¬ IsAbsolute name) (seen : probe name ≠ .missing) :
    StandsFor directories probe name name
  /-- A missing name is found in the directory of the least number that has it. -/
  | searched {i : Nat} {directory : String} (nonempty : name ≠ "") (relative : ¬ IsAbsolute name)
    (missing : probe name = .missing) (place : directories[i]? = some directory)
    (found : probe (inside directory name) = .found)
    (first : ∀ j < i, ∀ earlier, directories[j]? = some earlier →
      probe (inside earlier name) ≠ .found) :
    StandsFor directories probe name (inside directory name)

/-- The path of a name, given the text of the search path, if there is one. -/
def resolveIn (text : Option String) (probe : String → Probe) (name : String) :
    Except ResolveError String := (parse text).resolve probe name

variable {path : SearchPath} {probe : String → Probe} {name : String}

theorem isAbsolute_iff : IsAbsolute name ↔ name.toList.head? = some '/' := by
  constructor
  · rintro ⟨rest, rfl⟩
    rw [String.toList_append]
    rfl
  · intro h
    obtain ⟨cs, hcs⟩ := List.head?_eq_some_iff.1 h
    refine ⟨String.ofList cs, ?_⟩
    rw [← String.toList_inj, hcs, String.toList_append, String.toList_ofList]
    simp

theorem IsAbsolute.ne_empty (h : IsAbsolute name) : name ≠ "" := by
  rintro rfl
  rw [isAbsolute_iff] at h
  cases h

/-! ### The search -/

theorem candidate_eq : candidate = inside := by
  funext directory name
  by_cases hslash : directory.toList.getLast? = some '/'
  · simp [candidate, inside, List.singleton_suffix_iff_getLast?_eq_some, hslash]
  · simp [candidate, inside, List.singleton_suffix_iff_getLast?_eq_some, hslash]

/-- The directory of the least number that has the name is taken. -/
theorem search_eq_some_iff {found : String} :
    path.search probe name = some found ↔
      ∃ (i : Nat) (directory : String), path.directories[i]? = some directory ∧
        inside directory name = found ∧ probe found = .found ∧
        ∀ j < i, ∀ earlier, path.directories[j]? = some earlier →
          probe (inside earlier name) ≠ .found := by
  rw [search, candidate_eq, List.find?_eq_some_iff_getElem]
  constructor
  · rintro ⟨hfound, i, hi, hcandidate, hfirst⟩
    rw [List.length_map] at hi
    rw [List.getElem_map] at hcandidate
    refine ⟨i, path.directories[i], List.getElem?_eq_getElem hi, hcandidate, eq_of_beq hfound, ?_⟩
    intro j hj earlier place
    obtain ⟨hlt, rfl⟩ := List.getElem?_eq_some_iff.1 place
    simpa using hfirst j hj
  · rintro ⟨i, directory, place, rfl, hfound, hfirst⟩
    obtain ⟨hi, hdirectory⟩ := List.getElem?_eq_some_iff.1 place
    refine ⟨beq_iff_eq.2 hfound, i, by simpa using hi, by rw [List.getElem_map, hdirectory], ?_⟩
    intro j hj
    have hearlier := hfirst j hj _ (List.getElem?_eq_getElem (Nat.lt_trans hj hi))
    simpa using hearlier

/-- Nothing is found exactly if no directory has the name. -/
theorem search_eq_none_iff :
    path.search probe name = none ↔
      ∀ directory ∈ path.directories, probe (inside directory name) ≠ .found := by
  simp [search, candidate_eq]

/-! ### Names -/

theorem resolve_of_isAbsolute (h : IsAbsolute name) : path.resolve probe name = .ok name := by
  rw [resolve, if_neg h.ne_empty, if_pos (isAbsolute_iff.1 h)]

theorem resolve_of_present (hne : name ≠ "") (hrelative : ¬ IsAbsolute name)
    (h : probe name ≠ .missing) : path.resolve probe name = .ok name := by
  rw [resolve, if_neg hne, if_neg (mt isAbsolute_iff.2 hrelative)]
  cases hprobe : probe name with
  | found | unreadable => rfl
  | missing => exact absurd hprobe h

/-- Only for a missing name does the search decide. -/
theorem resolve_of_missing (hne : name ≠ "") (hrelative : ¬ IsAbsolute name)
    (h : probe name = .missing) :
    path.resolve probe name =
      match path.search probe name with
      | some found => .ok found
      | none => .error (.notFound name) := by
  rw [resolve, if_neg hne, if_neg (mt isAbsolute_iff.2 hrelative)]
  cases hprobe : probe name with
  | missing => rfl
  | found | unreadable =>
      rw [h] at hprobe
      cases hprobe

theorem StandsFor.resolve_eq {found : String}
    (h : StandsFor path.directories probe name found) : path.resolve probe name = .ok found := by
  cases h with
  | absolute slash => exact resolve_of_isAbsolute slash
  | present nonempty relative seen => exact resolve_of_present nonempty relative seen
  | searched nonempty relative missing place found first =>
      have hsearch := search_eq_some_iff.2 ⟨_, _, place, rfl, found, first⟩
      rw [resolve_of_missing nonempty relative missing, hsearch]

theorem resolve_of_nowhere
    (h : name = "" ∨ ¬ IsAbsolute name ∧ probe name = .missing ∧
      ∀ directory ∈ path.directories, probe (inside directory name) ≠ .found) :
    path.resolve probe name = .error (.notFound name) := by
  rcases h with rfl | ⟨hrelative, hmissing, hnone⟩
  · rfl
  by_cases hne : name = ""
  · rw [hne]
    rfl
  · rw [resolve_of_missing hne hrelative hmissing, search_eq_none_iff.2 hnone]

/-- A name stands for a path, or the search has come to nothing. -/
theorem exists_standsFor_or (path : SearchPath) (probe : String → Probe) (name : String) :
    (∃ found, StandsFor path.directories probe name found) ∨
      (name = "" ∨ ¬ IsAbsolute name ∧ probe name = .missing ∧
        ∀ directory ∈ path.directories, probe (inside directory name) ≠ .found) := by
  by_cases hne : name = ""
  · exact .inr (.inl hne)
  by_cases hslash : IsAbsolute name
  · exact .inl ⟨name, .absolute hslash⟩
  by_cases hmissing : probe name = .missing
  · cases hsearch : path.search probe name with
    | none => exact .inr (.inr ⟨hslash, hmissing, search_eq_none_iff.1 hsearch⟩)
    | some found =>
        obtain ⟨i, directory, place, rfl, hfound, hfirst⟩ := search_eq_some_iff.1 hsearch
        exact .inl ⟨_, .searched hne hslash hmissing place hfound hfirst⟩
  · exact .inl ⟨name, .present hne hslash hmissing⟩

/-- **What a name stands for, and which names stand for nothing.**  The refusal is always that the
name was not found.  It is the answer for the empty name, and for a name that does not begin with a
slash if it is missing and no directory that the text names has it.  Every other name stands for one
path: for itself, or for the candidate in the first directory that has it.  For a name that begins
with a slash it makes no difference what there is. -/
theorem resolve_first_match (text : Option String) (probe : String → Probe) (name : String) :
    (∀ cause, resolveIn text probe name = .error cause ↔
      cause = .notFound name ∧
        (name = "" ∨ ¬ IsAbsolute name ∧ probe name = .missing ∧
          ∀ directory ∈ written (text.getD ""), probe (inside directory name) ≠ .found)) ∧
    (∀ found, resolveIn text probe name = .ok found ↔
      StandsFor (written (text.getD "")) probe name found) ∧
    (IsAbsolute name → ∀ probe', resolveIn text probe' name = .ok name) := by
  rw [← directories_parse]
  refine ⟨fun cause => ⟨fun h => ?_, ?_⟩, fun found => ⟨fun h => ?_, StandsFor.resolve_eq⟩,
    fun hslash probe' => resolve_of_isAbsolute hslash⟩
  · rcases exists_standsFor_or (parse text) probe name with ⟨found, hfound⟩ | hnowhere
    · rw [resolveIn, hfound.resolve_eq] at h
      cases h
    · rw [resolveIn, resolve_of_nowhere hnowhere, Except.error.injEq] at h
      exact ⟨h.symm, hnowhere⟩
  · rintro ⟨rfl, hnowhere⟩
    exact resolve_of_nowhere hnowhere
  · rcases exists_standsFor_or (parse text) probe name with ⟨found', hfound⟩ | hnowhere
    · rw [resolveIn, hfound.resolve_eq, Except.ok.injEq] at h
      exact h ▸ hfound
    · rw [resolveIn, resolve_of_nowhere hnowhere] at h
      cases h

/-- A directory that cannot be looked into, one with a slash at its end and empty segments. -/
example :
    resolveIn (some "/opt:/bin/::/usr:")
      (fun path => if path = "/bin/ls" ∨ path = "/usr/ls" then .found
        else if path = "ls" then .missing else .unreadable) "ls" = .ok "/bin/ls" := by
  decide

/-! ### Directories behind others -/

theorem search_append (front back : List String) :
    search ⟨front ++ back⟩ probe name =
      (search ⟨front⟩ probe name).or (search ⟨back⟩ probe name) := by
  simp only [search, List.map_append, List.find?_append]

/-- Directories that were searched before make no difference. -/
theorem search_append_of_subset {front copies : List String}
    (h : ∀ directory ∈ copies, directory ∈ front) (back : List String) :
    search ⟨front ++ (copies ++ back)⟩ probe name = search ⟨front ++ back⟩ probe name := by
  rw [search_append, search_append, search_append]
  cases hfront : search ⟨front⟩ probe name with
  | some found => rfl
  | none =>
      -- none of them had the name the first time either
      have hcopies : search ⟨copies⟩ probe name = none := by
        rw [search_eq_none_iff] at hfront ⊢
        exact fun directory hmem => hfront directory (h directory hmem)
      rw [hcopies, Option.none_or]

/-- The directories matter through the search alone. -/
theorem resolve_congr {path' : SearchPath} (h : path.search probe name = path'.search probe name) :
    path.resolve probe name = path'.resolve probe name := by
  rw [resolve, resolve, h]

/-- Directories behind others are a second choice. -/
theorem resolve_append (front back : List String) :
    resolve ⟨front ++ back⟩ probe name =
      match resolve ⟨front⟩ probe name with
      | .ok found => .ok found
      | .error _ => resolve ⟨back⟩ probe name := by
  by_cases hne : name = ""
  · rw [hne]
    rfl
  by_cases hslash : IsAbsolute name
  · rw [resolve_of_isAbsolute hslash, resolve_of_isAbsolute hslash]
  by_cases hmissing : probe name = .missing
  · simp only [resolve_of_missing hne hslash hmissing, search_append]
    cases search ⟨front⟩ probe name with
    | some found => rfl
    | none => rfl
  · rw [resolve_of_present hne hslash hmissing, resolve_of_present hne hslash hmissing]

/-- **Search paths compose.**  What is written on the right of a colon is a second choice, so it
changes nothing for a name that stands for a path already.  Empty segments make no difference, nor
does a directory that is written once more behind the first time. -/
theorem resolve_composes (probe : String → Probe) (name : String) :
    (∀ a b, resolveIn (some (a ++ ":" ++ b)) probe name =
      match resolveIn (some a) probe name with
      | .ok found => .ok found
      | .error _ => resolveIn (some b) probe name) ∧
    (∀ a b found, resolveIn (some a) probe name = .ok found →
      resolveIn (some (a ++ ":" ++ b)) probe name = .ok found) ∧
    (∀ texts texts' : List String, texts'.filter (· ≠ "") = texts.filter (· ≠ "") →
      resolveIn (some (":".intercalate texts')) probe name =
        resolveIn (some (":".intercalate texts)) probe name) ∧
    ∀ (front back : List String) (directory : String), directory ∈ front →
      resolveIn (some (":".intercalate (front ++ directory :: back))) probe name =
        resolveIn (some (":".intercalate (front ++ back))) probe name := by
  have hresolve : ∀ text, resolveIn (some text) probe name = resolve ⟨written text⟩ probe name := by
    intro text
    rw [← Option.getD_some (a := text) (b := ""), ← directories_parse]
    rfl
  have happend : ∀ a b, resolveIn (some (a ++ ":" ++ b)) probe name =
      match resolveIn (some a) probe name with
      | .ok found => .ok found
      | .error _ => resolveIn (some b) probe name := by
    intro a b
    rw [hresolve, hresolve, hresolve, written_append, resolve_append]
  -- the last two hold of the directories, where the texts have been taken apart
  refine ⟨happend, fun a b found h => by rw [happend, h], fun texts texts' h => ?_,
    fun front back directory h => ?_⟩
  · rw [hresolve, hresolve, written_intercalate, written_intercalate, ← flatMap_written_filter,
      h, flatMap_written_filter]
  · rw [hresolve, hresolve, written_intercalate, written_intercalate, List.flatMap_append,
      List.flatMap_append, List.flatMap_cons]
    refine resolve_congr (search_append_of_subset (fun d hd => ?_) _)
    exact List.mem_flatMap.2 ⟨directory, h, hd⟩

end LineShell.SearchPath
