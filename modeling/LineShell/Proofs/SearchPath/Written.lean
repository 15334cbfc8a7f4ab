/-
**Search paths that are written and read back.**

Reading drops the empty segments of a text, so a text is not always what is written for its
directories: `:/bin::/usr/bin` names two directories, and for these `/bin:/usr/bin` is written.
But what is read has no empty segment and no colon inside one, and on such lists of directories
writing and reading undo each other, be there one directory, many, or none.

Which segments a text has is said here without a scan: they are the texts without colons that make
it up with a colon between each two.  There is one such list for each text, and the directories are
those of its members that are not empty, in the same order and as often.

Main definitions:

* `LineShell.SearchPath.Cut` — the segments of a text.

Main results:

* `LineShell.SearchPath.exists_cut`, `LineShell.SearchPath.Cut.unique` — each text has segments, and
  no others;
* `LineShell.SearchPath.Cut.directories_eq` — the directories are the segments that are not empty;
* `LineShell.SearchPath.parse_join` — directories that are written are read back;
* `LineShell.SearchPath.parse_written` — **reading and writing search paths**.
-/

import LineShell.Proofs.SearchPath.Directories

set_option autoImplicit false

namespace LineShell.SearchPath

/-- The segments of a text: texts without colons that make it up with a colon between each two. -/
structure Cut (text : String) (segments : List String) : Prop where
  /-- There is one at least, which may be empty. -/
  ne_nil : segments ≠ []
  /-- No segment has a colon. -/
  colonFree : ∀ segment ∈ segments, ':' ∉ segment.toList
  /-- With colons between them they are the text. -/
  joined : ":".intercalate segments = text

variable {text : String} {directories : List String}

/-! ### The segments of a text -/

theorem not_mem_of_mem_segments {cs piece : List Char} (h : piece ∈ segments cs) : ':' ∉ piece := by
  induction cs generalizing piece with
  | nil =>
      rw [segments_nil, List.mem_singleton] at h
      rw [h]
      exact List.not_mem_nil
  | cons c cs ih =>
      by_cases hc : c = ':'
      · rw [hc, segments_colon, List.mem_cons] at h
        rcases h with rfl | h
        · exact List.not_mem_nil
        · exact ih h
      · obtain ⟨first, rest, hsegments⟩ := List.exists_cons_of_ne_nil (segments_ne_nil cs)
        rw [segments_cons_of_ne hc, hsegments, List.mem_cons] at h
        rcases h with rfl | h
        · have hfirst : ':' ∉ first := ih (hsegments ▸ List.mem_cons_self ..)
          exact List.not_mem_cons_of_ne_of_not_mem (Ne.symm hc) hfirst
        · exact ih (hsegments ▸ List.mem_cons_of_mem _ h)

/-- **Every text has segments.** -/
theorem exists_cut (text : String) : ∃ segments, Cut text segments := by
  refine ⟨(segments text.toList).map String.ofList, ?_, ?_, ?_⟩
  · intro hnil
    exact segments_ne_nil _ (List.map_eq_nil_iff.1 hnil)
  · intro segment hmem
    obtain ⟨piece, hpiece, rfl⟩ := List.mem_map.1 hmem
    rw [String.toList_ofList]
    exact not_mem_of_mem_segments hpiece
  · have htoList : ((segments text.toList).map String.ofList).map String.toList =
        text.toList.splitOn ':' := by
      rw [List.map_map, segments_eq_splitOn]
      exact List.map_id'' (fun _ => String.toList_ofList) _
    rw [← String.toList_inj, String.toList_intercalate, htoList]
    exact List.intercalate_splitOn ':'

/-- **It has no others.** -/
theorem Cut.unique {segments segments' : List String} (h : Cut text segments)
    (h' : Cut text segments') : segments = segments' := by
  -- both are what the text is split into at its colons
  have hsplit : ∀ {pieces}, Cut text pieces →
      text.toList.splitOn ':' = pieces.map String.toList := by
    intro pieces hcut
    rw [← hcut.joined, String.toList_intercalate]
    refine List.splitOn_intercalate ':' ?_ (mt List.map_eq_nil_iff.1 hcut.ne_nil)
    intro cs hcs
    obtain ⟨piece, hpiece, rfl⟩ := List.mem_map.1 hcs
    exact hcut.colonFree piece hpiece
  refine List.map_injective_iff.2 (fun _ _ => String.toList_inj.1) ?_
  rw [← hsplit h, hsplit h']

/-! ### The directories of a text -/

/-- A segment names itself, unless it is empty. -/
theorem written_of_colonFree (h : ':' ∉ text.toList) : written text = [text].filter (· ≠ "") := by
  rw [written, List.splitOn_eq_singleton h]
  by_cases hempty : text = ""
  · rw [hempty]
    rfl
  · have hne : text.toList ≠ [] := mt String.toList_eq_nil_iff.1 hempty
    simp [hempty, hne]

theorem flatMap_written_of_colonFree {texts : List String}
    (h : ∀ text ∈ texts, ':' ∉ text.toList) :
    texts.flatMap written = texts.filter (· ≠ "") := by
  induction texts with
  | nil => rfl
  | cons text texts ih =>
      have htail := ih fun other hmem => h other (List.mem_cons_of_mem _ hmem)
      rw [List.flatMap_cons, written_of_colonFree (h text (List.mem_cons_self ..)), htail,
        ← List.filter_append]
      rfl

theorem directories_parse_some (text : String) : (parse (some text)).directories = written text :=
  directories_parse (some text)

/-- **The directories are the segments that are not empty**, in their order and as often. -/
theorem Cut.directories_eq {segments : List String} (h : Cut text segments) :
    (parse (some text)).directories = segments.filter (· ≠ "") := by
  rw [directories_parse_some, ← h.joined, written_intercalate,
    flatMap_written_of_colonFree h.colonFree]

theorem of_mem_directories {directory : String}
    (h : directory ∈ (parse (some text)).directories) :
    directory ≠ "" ∧ ':' ∉ directory.toList := by
  obtain ⟨segments, hcut⟩ := exists_cut text
  rw [hcut.directories_eq, List.mem_filter] at h
  exact ⟨of_decide_eq_true h.2, hcut.colonFree directory h.1⟩

/-! ### Writing and reading -/

/-- **Directories that are written are read back**, if they are such as a text can name. -/
theorem parse_join (h : ∀ directory ∈ directories, directory ≠ "" ∧ ':' ∉ directory.toList) :
    parse (some (join ⟨directories⟩)) = ⟨directories⟩ := by
  have hall : directories.filter (· ≠ "") = directories :=
    List.filter_eq_self.2 fun directory hmem => decide_eq_true (h directory hmem).1
  have hread : (parse (some (join ⟨directories⟩))).directories = directories := by
    rw [directories_parse_some, join, written_intercalate,
      flatMap_written_of_colonFree fun directory hmem => (h directory hmem).2, hall]
  exact congrArg SearchPath.mk hread

/-- **Reading and writing search paths.**  The directories of a text are neither empty nor have a
colon; they are the segments of the text that are not empty, in their order and as often.  Written
with colons between them they are read back, and so is every list of directories that are neither
empty nor have a colon.  A colon between two texts puts the directories of the one in front of those
of the other. -/
theorem parse_written (text : String) :
    (∀ directory ∈ (parse (some text)).directories, directory ≠ "" ∧ ':' ∉ directory.toList) ∧
    ((∃ segments, Cut text segments) ∧ ∀ segments, Cut text segments →
      (parse (some text)).directories = segments.filter (· ≠ "")) ∧
    parse (some (parse (some text)).join) = parse (some text) ∧
    (∀ directories : List String,
      (∀ directory ∈ directories, directory ≠ "" ∧ ':' ∉ directory.toList) →
        (parse (some (join ⟨directories⟩))).directories = directories) ∧
    ∀ other, (parse (some (text ++ ":" ++ other))).directories =
      (parse (some text)).directories ++ (parse (some other)).directories := by
  refine ⟨fun _ => of_mem_directories, ⟨exists_cut text, fun _ => Cut.directories_eq⟩,
    parse_join fun _ => of_mem_directories, fun directories h => ?_, fun other => ?_⟩
  · rw [parse_join h]
  · rw [directories_parse_some, directories_parse_some, directories_parse_some, written_append]

/-- Colons at both ends and two in a row, and a directory that is written twice. -/
theorem parse_written_colons :
    let text := ":/bin::/usr/bin:/bin:"
    Cut text ["", "/bin", "", "/usr/bin", "/bin", ""] ∧
      (parse (some text)).directories = ["/bin", "/usr/bin", "/bin"] ∧
      (parse (some "/bin:/usr/bin:/bin")).directories = ["/bin", "/usr/bin", "/bin"] := by
  intro text
  have hcut : Cut text ["", "/bin", "", "/usr/bin", "/bin", ""] :=
    ⟨by decide, by decide, by decide⟩
  obtain ⟨-, ⟨-, hsegments⟩, -, hread, -⟩ := parse_written text
  exact ⟨hcut, hsegments _ hcut, hread ["/bin", "/usr/bin", "/bin"] (by decide)⟩

end LineShell.SearchPath
