/-
**What the arguments say, by places.**

The arguments are read from the front, and each is looked at once: one that is an option sets its
flag, another that begins with a dash is passed over, and the first of the rest is the file to run.
The first `-c` ends this reading, since all that follows is the line to run; a second `-c` is part of
that line, and one that nothing follows is passed over like an option that is not known.

What comes out can be said without any reading.  A flag is set exactly if one of its words stands
before the first `-c`, wherever that is; the file is the first word there that does not begin with a
dash; the line is what stands behind the `-c`, with a space between any two words.  So what stands
behind the `-c` sets no flag and names no file, and the options before it may stand in any order,
among the other words too.

Main definitions:

* `LineShell.Options.before`, `LineShell.Options.fromLine`, `LineShell.Options.behind` — the arguments
  before the first `-c`, from it on, and behind it;
* `LineShell.Options.isName` — a word that does not begin with a dash.

Main results:

* `LineShell.Options.foldl_addWord_flag`, `LineShell.Options.foldl_addWord_script` — what a run of
  words sets, from what one word sets;
* `LineShell.Options.addAll_eq` — the words before the first `-c`, and the line behind it;
* `LineShell.Options.parse_by_places` — **all that the arguments say**.
-/

import LineShell.CommandLine
import Mathlib.Data.List.TakeWhile
import Mathlib.Tactic.SplitIfs

set_option autoImplicit false

namespace LineShell.Options

/-! ### Places -/

/-- The arguments before the first `-c`; all of them if there is none. -/
def before (arguments : List String) : List String := arguments.takeWhile (· ≠ "-c")

/-- The arguments from the first `-c` on. -/
def fromLine (arguments : List String) : List String := arguments.dropWhile (· ≠ "-c")

/-- The arguments behind the first `-c`. -/
def behind (arguments : List String) : List String := (fromLine arguments).tail

/-- A word that does not begin with a dash. -/
def isName (word : String) : Bool := word.toList.head? != some '-'

theorem before_cons_of_ne {word : String} (h : word ≠ "-c") (rest : List String) :
    before (word :: rest) = word :: before rest :=
  List.takeWhile_cons_of_pos (by simpa using h)

theorem fromLine_cons_of_ne {word : String} (h : word ≠ "-c") (rest : List String) :
    fromLine (word :: rest) = fromLine rest :=
  List.dropWhile_cons_of_pos (by simpa using h)

@[simp] theorem before_line (rest : List String) : before ("-c" :: rest) = [] := by simp [before]

@[simp] theorem fromLine_line (rest : List String) : fromLine ("-c" :: rest) = "-c" :: rest := by
  simp [fromLine]

/-- Nothing is lost between the two. -/
theorem before_append_fromLine (arguments : List String) :
    before arguments ++ fromLine arguments = arguments := List.takeWhile_append_dropWhile

theorem line_not_mem_before (arguments : List String) : "-c" ∉ before arguments := by
  intro hmem
  have hne := List.mem_takeWhile_imp hmem
  simp at hne

/-- Without a `-c` nothing stands from it on. -/
theorem fromLine_eq_nil_iff {arguments : List String} :
    fromLine arguments = [] ↔ "-c" ∉ arguments := by
  constructor
  · intro hnil
    have hall := before_append_fromLine arguments
    rw [hnil, List.append_nil] at hall
    rw [← hall]
    exact line_not_mem_before arguments
  · intro hout
    refine List.dropWhile_eq_nil_iff.2 fun word hword => ?_
    simp only [ne_eq, decide_eq_true_eq]
    rintro rfl
    exact hout hword

/-- The words before a `-c`, given apart from what stands from it on. -/
theorem before_append {words : List String} (h : "-c" ∉ words) (arguments : List String) :
    before (words ++ fromLine arguments) = words ∧
      fromLine (words ++ fromLine arguments) = fromLine arguments := by
  induction words with
  | nil =>
      cases hline : fromLine arguments with
      | nil => exact ⟨rfl, rfl⟩
      | cons word rest =>
          -- what is left over begins with the word that the search stopped at
          have hstop := List.head?_dropWhile_not (· ≠ "-c") arguments
          rw [show arguments.dropWhile (· ≠ "-c") = word :: rest from hline] at hstop
          obtain rfl : word = "-c" := by simpa using hstop
          exact ⟨before_line rest, fromLine_line rest⟩
  | cons word words ih =>
      have hne : word ≠ "-c" := fun heq => h (heq ▸ List.mem_cons_self ..)
      obtain ⟨hbefore, hfrom⟩ := ih fun hmem => h (List.mem_cons_of_mem _ hmem)
      rw [List.cons_append, before_cons_of_ne hne, fromLine_cons_of_ne hne]
      exact ⟨by rw [hbefore], hfrom⟩

/-! ### One word -/

/-- The words that set a flag. -/
def flagWords : List String := ["--trace", "--help", "-h", "--version", "-V"]

section

variable (o : Options) (word : String)

/-- What a word does: it sets its flag, or it names the file if it is a name and the first. -/
theorem addWord_cases :
    (word = "--trace" ∧ o.addWord word = { o with trace := true }) ∨
    ((word = "--help" ∨ word = "-h") ∧ o.addWord word = { o with help := true }) ∨
    ((word = "--version" ∨ word = "-V") ∧ o.addWord word = { o with version := true }) ∨
    (word ∉ flagWords ∧ o.addWord word =
      { o with script := o.script.or (.guard isName word) }) := by
  unfold addWord
  split_ifs with htrace hhelp hversion hpassed
  · exact .inl ⟨htrace, rfl⟩
  · exact .inr (.inl ⟨hhelp, rfl⟩)
  · exact .inr (.inr (.inl ⟨hversion, rfl⟩))
  · refine .inr (.inr (.inr ⟨by simp_all [flagWords], ?_⟩))
    rcases hpassed with hdash | hnamed
    · simp [Option.guard, isName, hdash]
    · obtain ⟨path, hpath⟩ := Option.isSome_iff_exists.1 hnamed
      rw [hpath, Option.some_or, ← hpath]
  · refine .inr (.inr (.inr ⟨by simp_all [flagWords], ?_⟩))
    obtain ⟨hname, hfree⟩ := not_or.1 hpassed
    simp [Option.guard, isName, hname, Option.not_isSome_iff_eq_none.1 hfree]

/-- Each flag is set by its own words, and by no other. -/
theorem flags_addWord :
    ((o.addWord word).trace = true ↔ o.trace = true ∨ word ∈ ["--trace"]) ∧
    ((o.addWord word).help = true ↔ o.help = true ∨ word ∈ ["-h", "--help"]) ∧
    ((o.addWord word).version = true ↔ o.version = true ∨ word ∈ ["-V", "--version"]) := by
  rcases addWord_cases o word with ⟨rfl, h⟩ | ⟨rfl | rfl, h⟩ | ⟨rfl | rfl, h⟩ | ⟨hout, h⟩
  all_goals simp_all [flagWords]

theorem command_addWord : (o.addWord word).command = o.command := by
  rcases addWord_cases o word with ⟨-, h⟩ | ⟨-, h⟩ | ⟨-, h⟩ | ⟨-, h⟩
  all_goals rw [h]

/-- A word names the file if it is the first to do so. -/
theorem script_addWord :
    (o.addWord word).script = o.script.or (.guard isName word) := by
  rcases addWord_cases o word with ⟨rfl, h⟩ | ⟨rfl | rfl, h⟩ | ⟨rfl | rfl, h⟩ | ⟨-, h⟩
  all_goals simp [h, Option.guard, isName]

end

/-! ### All words -/

section

variable (words : List String) (o : Options)

/-- A flag that each word of a kind sets, and nothing else, is set by a run of words exactly if one
of that kind is among them. -/
theorem foldl_addWord_flag {flag : Options → Bool} {kind : List String}
    (hstep : ∀ (o : Options) (word : String),
      flag (o.addWord word) = true ↔ flag o = true ∨ word ∈ kind) :
    flag (words.foldl addWord o) = true ↔ flag o = true ∨ ∃ word ∈ kind, word ∈ words := by
  induction words generalizing o with
  | nil => simp
  | cons word words ih =>
      rw [List.foldl_cons, ih, hstep, or_assoc]
      refine or_congr Iff.rfl ⟨?_, ?_⟩
      · rintro (hkind | ⟨w, hkind, hmem⟩)
        · exact ⟨word, hkind, List.mem_cons_self ..⟩
        · exact ⟨w, hkind, List.mem_cons_of_mem _ hmem⟩
      · rintro ⟨w, hkind, hmem⟩
        rcases List.mem_cons.1 hmem with rfl | hmem
        · exact .inl hkind
        · exact .inr ⟨w, hkind, hmem⟩

theorem foldl_addWord_command : (words.foldl addWord o).command = o.command := by
  induction words generalizing o with
  | nil => rfl
  | cons word words ih => rw [List.foldl_cons, ih, command_addWord]

/-- The file is the first word that names one. -/
theorem foldl_addWord_script :
    (words.foldl addWord o).script = o.script.or (words.find? isName) := by
  induction words generalizing o with
  | nil => simp
  | cons word words ih =>
      rw [List.foldl_cons, ih, script_addWord, Option.or_assoc, List.find?_cons, Option.guard]
      cases isName word <;> rfl

end

/-! ### All arguments -/

/-- The line to run: what stands behind the first `-c`, if anything does. -/
def lineOf (arguments : List String) : Option String :=
  if behind arguments = [] then none else some (" ".intercalate (behind arguments))

/-- **The words before the first `-c` are read one by one, and the line is what stands behind it.** -/
theorem addAll_eq (arguments : List String) (o : Options) :
    o.addAll arguments =
      { (before arguments).foldl addWord o with command := (lineOf arguments).or o.command } := by
  induction arguments generalizing o with
  | nil => rfl
  | cons word rest ih =>
      by_cases hline : word = "-c"
      · subst hline
        cases rest with
        | nil => simp [addAll, lineOf, behind]
        | cons _ _ => simp [addAll, lineOf, behind]
      · have hword : o.addAll (word :: rest) = (o.addWord word).addAll rest := by
          rw [addAll.eq_def]
          exact if_neg hline
        rw [hword, ih, before_cons_of_ne hline, List.foldl_cons, command_addWord, lineOf, lineOf,
          behind, behind, fromLine_cons_of_ne hline]

theorem parse_eq (arguments : List String) :
    parse arguments =
      { (before arguments).foldl addWord {} with command := lineOf arguments } := by
  rw [parse, addAll_eq, Option.or_none]

/-- The line, by what stands behind the first `-c`. -/
theorem lineOf_eq_some_iff {arguments : List String} {line : String} :
    lineOf arguments = some line ↔
      "-c" ∈ arguments ∧ behind arguments ≠ [] ∧ line = " ".intercalate (behind arguments) := by
  unfold lineOf
  split_ifs with hnil
  · simp [hnil]
  · have hmem : "-c" ∈ arguments := by
      by_contra hout
      exact hnil (by rw [behind, fromLine_eq_nil_iff.2 hout, List.tail_nil])
    simp only [Option.some.injEq, hmem, hnil, ne_eq, not_false_eq_true, true_and]
    exact eq_comm

/-- Words that are the same but for their order, and whose names are in the same order, say the
same. -/
theorem foldl_addWord_of_perm {words words' : List String} (hperm : words'.Perm words)
    (hnames : words'.filter isName = words.filter isName) (o : Options) :
    words'.foldl addWord o = words.foldl addWord o := by
  have hflag : ∀ {flag : Options → Bool} {kind : List String},
      (∀ (o : Options) (word : String),
        flag (o.addWord word) = true ↔ flag o = true ∨ word ∈ kind) →
      flag (words'.foldl addWord o) = flag (words.foldl addWord o) := by
    intro flag kind hstep
    rw [Bool.eq_iff_iff, foldl_addWord_flag words' o hstep, foldl_addWord_flag words o hstep]
    simp only [hperm.mem_iff]
  have hscript : (words'.foldl addWord o).script = (words.foldl addWord o).script := by
    rw [foldl_addWord_script, foldl_addWord_script, ← List.head?_filter, hnames, List.head?_filter]
  have hcommand : (words'.foldl addWord o).command = (words.foldl addWord o).command := by
    rw [foldl_addWord_command, foldl_addWord_command]
  have htrace := hflag fun o word => (flags_addWord o word).1
  have hhelp := hflag fun o word => (flags_addWord o word).2.1
  have hversion := hflag fun o word => (flags_addWord o word).2.2
  cases hleft : words'.foldl addWord o
  cases hright : words.foldl addWord o
  simp_all

/-- **All that the arguments say**, for any arguments.  There is a line exactly if something stands
behind a first `-c`, and it is that, with a space between any two words.  A flag is set exactly if one
of its words stands before the first `-c`, and the file is the first word there that does not begin
with a dash.  What stands from the `-c` on sets no flag and names no file, and the words before it may
be rearranged in any way that keeps the order of those that do not begin with a dash. -/
theorem parse_by_places (arguments : List String) :
    (∀ line, (parse arguments).command = some line ↔
      "-c" ∈ arguments ∧ behind arguments ≠ [] ∧ line = " ".intercalate (behind arguments)) ∧
    ((parse arguments).trace = true ↔ "--trace" ∈ before arguments) ∧
    ((parse arguments).help = true ↔ "-h" ∈ before arguments ∨ "--help" ∈ before arguments) ∧
    ((parse arguments).version = true ↔ "-V" ∈ before arguments ∨ "--version" ∈ before arguments) ∧
    (parse arguments).script = (before arguments).find? isName ∧
    { parse arguments with command := none } = parse (before arguments) ∧
    ∀ words, words.Perm (before arguments) →
      words.filter isName = (before arguments).filter isName →
      parse (words ++ fromLine arguments) = parse arguments := by
  have hparse := parse_eq arguments
  refine ⟨fun line => ?_, ?_, ?_, ?_, ?_, ?_, ?_⟩
  · rw [hparse, lineOf_eq_some_iff]
  · rw [hparse]
    simpa using foldl_addWord_flag (before arguments) {} fun o word => (flags_addWord o word).1
  · rw [hparse]
    simpa using foldl_addWord_flag (before arguments) {} fun o word => (flags_addWord o word).2.1
  · rw [hparse]
    simpa using foldl_addWord_flag (before arguments) {} fun o word => (flags_addWord o word).2.2
  · rw [hparse]
    exact foldl_addWord_script (before arguments) {}
  · have hnone := fromLine_eq_nil_iff.2 (line_not_mem_before arguments)
    have halone := before_append_fromLine (before arguments)
    rw [hnone, List.append_nil] at halone
    have hempty : lineOf (before arguments) = none := by simp [lineOf, behind, hnone]
    rw [hparse, parse_eq, halone, hempty]
  · intro words hperm hnames
    have hout : "-c" ∉ words := fun hmem =>
      line_not_mem_before arguments (hperm.mem_iff.1 hmem)
    obtain ⟨hbefore, hfrom⟩ := before_append hout arguments
    rw [hparse, parse_eq, hbefore, foldl_addWord_of_perm hperm hnames, lineOf, behind, hfrom]
    rfl

/-- Flags around a file and a second word, an option that is not known, and a second `-c` and a flag
in the line. -/
theorem parse_by_places_rearranged :
    let arguments := ["--trace", "run", "-x", "-h", "", "-c", "echo", "-c", "--version"]
    let words := ["-h", "run", "--trace", "", "-x"]
    words.Perm (before arguments) ∧ words.filter isName = (before arguments).filter isName ∧
      parse (words ++ fromLine arguments) = parse arguments ∧
      (parse arguments).command = some "echo -c --version" ∧
      (parse arguments).version = false := by
  intro arguments words
  have hperm : words.Perm (before arguments) := by decide
  have hnames : words.filter isName = (before arguments).filter isName := by decide
  obtain ⟨hline, -, -, hversion, -, -, hrearranged⟩ := parse_by_places arguments
  refine ⟨hperm, hnames, hrearranged words hperm hnames, (hline _).2 ⟨by decide, by decide, rfl⟩, ?_⟩
  rw [← Bool.not_eq_true, hversion]
  decide

end LineShell.Options
