/-
**Spelling tokens.**

A token can be written in many ways.  A word is a bare run, a text in quotes of either kind, or
several of these side by side; in double quotes a backslash may stand in front of any character and
has to stand in front of a double quote and of a backslash.  Blanks stand around the tokens, as many
as one likes, and only between two words there has to be one.

Whatever way is chosen, cutting the line gives the tokens back.  So every list of texts is the list
of tokens of some line: each text is put in double quotes, and spaces are put between them.

Main definitions:

* `LineShell.Spelling.Part`, `LineShell.Spelling.Item` — how a part of a word, and a token, is
  written, and what it stands for;
* `LineShell.Spelling.Layout` — how a line is written: its items, and the blanks around them;
* `LineShell.Spelling.inQuotes` — a text in double quotes.

Main results:

* `LineShell.Spelling.scan_part`, `LineShell.Spelling.scan_word` — the scan of what was written
  gives what it stands for;
* `LineShell.Spelling.tokenize_layout`, `LineShell.Spelling.tokenize_joined_quotes` — a line that
  was laid out, and a list of texts in quotes;
* `LineShell.Spelling.tokenize_spelling` — **cutting into tokens undoes every spelling**.
-/

import LineShell.Proofs.Token.Scan

set_option autoImplicit false

namespace LineShell.Spelling

open Token

/-! ### Parts of a word -/

/-- How a character is written in double quotes. -/
inductive Sign where
  /-- As it is; neither a double quote nor a backslash can be. -/
  | plain (c : Char) (quote : c ≠ '"') (backslash : c ≠ '\\')
  /-- Behind a backslash, which any character can be. -/
  | escaped (c : Char)

namespace Sign

/-- What is written. -/
def text : Sign → List Char
  | plain c _ _ => [c]
  | escaped c => ['\\', c]

/-- The character that it stands for. -/
def value : Sign → Char
  | plain c _ _ => c
  | escaped c => c

end Sign

/-- How a part of a word is written. -/
inductive Part where
  /-- A bare run. -/
  | bare (run : List Char) (nonempty : run ≠ []) (isBare : ∀ c ∈ run, isBare c = true)
  /-- A text in single quotes. -/
  | single (run : List Char) (quote : '\'' ∉ run)
  /-- A text in double quotes. -/
  | double (signs : List Sign)

namespace Part

/-- What is written. -/
def text : Part → List Char
  | bare run _ _ => run
  | single run _ => '\'' :: (run ++ ['\''])
  | double signs => '"' :: (signs.flatMap Sign.text ++ ['"'])

/-- The characters that it stands for. -/
def value : Part → List Char
  | bare run _ _ => run
  | single run _ => run
  | double signs => signs.map Sign.value

end Part

/-! ### Items and lines -/

/-- How a token is written. -/
inductive Item where
  /-- A marker. -/
  | marker (c : Char) (isMarker : isMarker c = true)
  /-- A word, which has at least one part. -/
  | word (first : Part) (others : List Part)

namespace Item

/-- Whether the token is written as a word. -/
def isWord : Item → Bool
  | marker _ _ => false
  | word _ _ => true

/-- What is written. -/
def text : Item → List Char
  | marker c _ => [c]
  | word first others => (first :: others).flatMap Part.text

/-- The token that it stands for. -/
def value : Item → List Char
  | marker c _ => [c]
  | word first others => (first :: others).flatMap Part.value

end Item

/-- Blanks, of which there may be none. -/
structure Blanks where
  /-- The blanks. -/
  text : List Char
  /-- Nothing else is among them. -/
  isBlank : ∀ c ∈ text, Text.isBlank c = true

/-- Between two words there is a blank. -/
def Apart : List (Blanks × Item) → Prop
  | (_, item) :: (blanks, next) :: rest =>
    (item.isWord = true → next.isWord = true → blanks.text ≠ []) ∧ Apart ((blanks, next) :: rest)
  | _ => True

/-- How a line is written. -/
structure Layout where
  /-- The items, each with the blanks in front of it. -/
  items : List (Blanks × Item)
  /-- The blanks at the end. -/
  ending : Blanks
  /-- Between two words there is a blank. -/
  apart : Apart items

namespace Layout

/-- What is written for some items and the blanks behind them. -/
def textOf (ending : Blanks) : List (Blanks × Item) → List Char
  | [] => ending.text
  | (blanks, item) :: rest => blanks.text ++ (item.text ++ textOf ending rest)

/-- The line. -/
def text (l : Layout) : String := String.ofList (textOf l.ending l.items)

/-- The tokens that it stands for. -/
def values (l : Layout) : List String := l.items.map fun entry => String.ofList entry.2.value

end Layout

/-! ### What the scan gives for a word -/

theorem scan_sign (sign : Sign) (word cs : List Char) :
    scan (.inDouble word) (sign.text ++ cs) = scan (.inDouble (word ++ [sign.value])) cs := by
  cases sign with
  | plain c hquote hbackslash =>
      exact scan_of_step (step_inDouble_of_plain (by simp [hquote, hbackslash]) word) cs
  | escaped c =>
      show scan (.inDouble word) ('\\' :: c :: cs) = _
      rw [scan_backslash, scan_escaped]
      rfl

theorem scan_signs (signs : List Sign) (word cs : List Char) :
    scan (.inDouble word) (signs.flatMap Sign.text ++ cs) =
      scan (.inDouble (word ++ signs.map Sign.value)) cs := by
  induction signs generalizing word with
  | nil => simp
  | cons sign signs ih =>
      rw [List.flatMap_cons, List.append_assoc, scan_sign, ih, List.append_assoc]
      rfl

/-- A run over which the scan keeps to one kind of place. -/
theorem scan_run {place : List Char → Place} {run : List Char}
    (h : ∀ word, ∀ c ∈ run, (place word).step c = ([], some (place (word ++ [c]))))
    (word cs : List Char) : scan (place word) (run ++ cs) = scan (place (word ++ run)) cs := by
  induction run generalizing word with
  | nil => simp
  | cons c run ih =>
      have hrest : ∀ word, ∀ d ∈ run, (place word).step d = ([], some (place (word ++ [d]))) :=
        fun word d hd => h word d (List.mem_cons_of_mem c hd)
      rw [List.cons_append, scan_of_step (h word c (List.mem_cons_self ..)), ih hrest,
        List.append_assoc]
      rfl

/-- **A part that was written is scanned as what it stands for.** -/
theorem scan_part (part : Part) (word cs : List Char) :
    scan (.inWord word) (part.text ++ cs) = scan (.inWord (word ++ part.value)) cs := by
  cases part with
  | bare run hne hbare =>
      exact scan_run (fun word c hc => step_inWord_of_isBare (hbare c hc) word) word cs
  | single run hquote =>
      have hplain : ∀ word, ∀ c ∈ run,
          (Place.inSingle word).step c = ([], some (.inSingle (word ++ [c]))) := by
        intro word c hc
        refine step_inSingle_of_plain ?_ word
        rw [bne_iff_ne]
        rintro rfl
        exact hquote hc
      simp only [Part.text, Part.value, List.cons_append, List.append_assoc, List.nil_append]
      rw [scan_open_single, scan_run hplain, scan_close_single]
  | double signs =>
      simp only [Part.text, Part.value, List.cons_append, List.append_assoc, List.nil_append]
      rw [scan_open_double, scan_signs, scan_close_double]

theorem scan_parts (parts : List Part) (word cs : List Char) :
    scan (.inWord word) (parts.flatMap Part.text ++ cs) =
      scan (.inWord (word ++ parts.flatMap Part.value)) cs := by
  induction parts generalizing word with
  | nil => simp
  | cons part parts ih =>
      rw [List.flatMap_cons, List.append_assoc, scan_part, ih, List.append_assoc]
      rfl

/-- A part begins with a character that begins a word. -/
theorem exists_head_part (part : Part) :
    ∃ c rest, part.text = c :: rest ∧ endsWord c = false := by
  cases part with
  | bare run hne hbare =>
      obtain ⟨c, rest, rfl⟩ := List.exists_cons_of_ne_nil hne
      refine ⟨c, rest, rfl, ?_⟩
      have hc := hbare c (List.mem_cons_self ..)
      simp only [isBare, Bool.and_eq_true, Bool.not_eq_true'] at hc
      simp [endsWord, hc]
  | single run hquote => exact ⟨'\'', _, rfl, by decide⟩
  | double signs => exact ⟨'"', _, rfl, by decide⟩

/-- **A word that was written is scanned as what it stands for**; what follows decides where it
ends. -/
theorem scan_word (first : Part) (others : List Part) (cs : List Char) :
    scan .between ((Item.word first others).text ++ cs) =
      scan (.inWord (Item.word first others).value) cs := by
  obtain ⟨c, rest, htext, hc⟩ := exists_head_part first
  have hhead : (Item.word first others).text ++ cs =
      c :: (rest ++ others.flatMap Part.text ++ cs) := by
    simp [Item.text, htext]
  rw [hhead, scan_between_of_not_endsWord hc, ← hhead]
  exact scan_parts (first :: others) [] cs

/-! ### What the scan gives for a line -/

/-- A text in front of which a word ends. -/
def Stops (cs : List Char) : Prop := ∀ c rest, cs = c :: rest → endsWord c = true

/-- Where a word ends, it is given. -/
theorem scan_inWord_of_stops {cs : List Char} (h : Stops cs) (word : List Char) :
    scan (.inWord word) cs = emit [word] (scan .between cs) := by
  cases cs with
  | nil => rfl
  | cons c rest => exact scan_inWord_of_endsWord (h c rest rfl) word rest

theorem stops_blanks {blanks : Blanks} (h : blanks.text ≠ []) (cs : List Char) :
    Stops (blanks.text ++ cs) := by
  obtain ⟨b, bs, hb⟩ := List.exists_cons_of_ne_nil h
  intro c rest hcs
  have hblank := blanks.isBlank b (by simp [hb])
  rw [hb, List.cons_append, List.cons.injEq] at hcs
  rw [← hcs.1, endsWord, Text.isWhitespace_of_isBlank hblank, Bool.true_or]

/-- Behind a word, what is written ends it. -/
theorem stops_textOf {ending : Blanks} {entry : Blanks × Item} {rest : List (Blanks × Item)}
    (h : Apart (entry :: rest)) (hword : entry.2.isWord = true) :
    Stops (Layout.textOf ending rest) := by
  cases rest with
  | nil =>
      by_cases hnone : ending.text = []
      · simp [Stops, Layout.textOf, hnone]
      · simpa [Layout.textOf] using stops_blanks hnone []
  | cons next rest =>
      obtain ⟨blanks, item⟩ := next
      by_cases hnone : blanks.text = []
      · -- without a blank between them, what follows a word is a marker
        cases item with
        | marker c hmarker =>
            simp [Stops, Layout.textOf, hnone, Item.text, endsWord, hmarker]
        | word first others => exact absurd hnone (h.1 hword rfl)
      · exact stops_blanks hnone _

theorem scan_textOf (ending : Blanks) {items : List (Blanks × Item)} (h : Apart items) :
    scan .between (Layout.textOf ending items) = .ok (items.map fun entry => entry.2.value) := by
  induction items with
  | nil =>
      have hblanks := scan_between_append ending.isBlank []
      rwa [List.append_nil] at hblanks
  | cons entry rest ih =>
      have hrest : Apart rest := by
        cases rest with
        | nil => trivial
        | cons next rest => exact h.2
      obtain ⟨blanks, item⟩ := entry
      rw [Layout.textOf, scan_between_append blanks.isBlank]
      cases item with
      | marker c hmarker =>
          show scan .between (c :: Layout.textOf ending rest) = _
          rw [scan_marker hmarker, ih hrest]
          rfl
      | word first others =>
          rw [scan_word, scan_inWord_of_stops (stops_textOf h rfl), ih hrest]
          rfl

/-- A line that was laid out has the tokens that it stands for. -/
theorem tokenize_layout (l : Layout) : tokenize l.text = .ok l.values := by
  have hscan : scan .between l.text.toList = .ok (l.items.map fun entry => entry.2.value) := by
    rw [Layout.text, String.toList_ofList]
    exact scan_textOf l.ending l.apart
  rw [tokenize_of_scan hscan, List.map_map]
  rfl

/-! ### Texts in quotes -/

/-- A text in double quotes, with a backslash in front of each double quote and each backslash. -/
def inQuotes (word : String) : String :=
  String.ofList ('"' ::
    ((word.toList.flatMap fun c => if c = '"' ∨ c = '\\' then ['\\', c] else [c]) ++ ['"']))

/-- A backslash is put in front of a character only where it has to be. -/
def Sign.ofChar (c : Char) : Sign :=
  if h : c = '"' ∨ c = '\\' then .escaped c
  else .plain c (fun hc => h (.inl hc)) fun hc => h (.inr hc)

theorem Sign.value_ofChar (c : Char) : (Sign.ofChar c).value = c := by
  unfold Sign.ofChar
  split <;> rfl

theorem Sign.text_ofChar (c : Char) :
    (Sign.ofChar c).text = if c = '"' ∨ c = '\\' then ['\\', c] else [c] := by
  unfold Sign.ofChar
  split <;> rfl

/-- A text in double quotes as an item. -/
def quotedItem (word : String) : Item := .word (.double (word.toList.map Sign.ofChar)) []

theorem text_quotedItem (word : String) : (quotedItem word).text = (inQuotes word).toList := by
  simp [quotedItem, Item.text, Part.text, inQuotes, List.flatMap_map, Sign.text_ofChar]

theorem value_quotedItem (word : String) : (quotedItem word).value = word.toList := by
  simp [quotedItem, Item.value, Part.value, Function.comp_def, Sign.value_ofChar]

/-- No blanks. -/
def Blanks.none : Blanks := ⟨[], by simp⟩

/-- One space. -/
def Blanks.space : Blanks := ⟨[' '], by simp [Text.isBlank]⟩

/-- Texts in quotes, each behind a space. -/
def spacedItems (words : List String) : List (Blanks × Item) :=
  words.map fun word => (.space, quotedItem word)

theorem apart_spacedItems (entry : Blanks × Item) (words : List String) :
    Apart (entry :: spacedItems words) := by
  induction words generalizing entry with
  | nil => trivial
  | cons word words ih => exact ⟨fun _ _ => by simp [Blanks.space], ih _⟩

/-- Texts in quotes with a space between each two of them. -/
def joinedQuotes : List String → Layout
  | [] => ⟨[], .none, trivial⟩
  | word :: words =>
    ⟨(.none, quotedItem word) :: spacedItems words, .none, apart_spacedItems _ words⟩

theorem text_joinedQuotes (words : List String) :
    (joinedQuotes words).text = " ".intercalate (words.map inQuotes) := by
  cases words with
  | nil => rfl
  | cons word words =>
      have htail : ∀ word words, (inQuotes word).toList ++
          Layout.textOf .none (spacedItems words) =
            (" ".intercalate ((word :: words).map inQuotes)).toList := by
        intro word words
        induction words generalizing word with
        | nil => simp [spacedItems, Layout.textOf, Blanks.none]
        | cons next words ih =>
            rw [List.map_cons, List.map_cons, String.intercalate_cons_cons, ← List.map_cons,
              String.toList_append, String.toList_append, ← ih next, ← text_quotedItem next,
              List.append_assoc]
            rfl
      rw [← String.ofList_toList (s := " ".intercalate _), ← htail word words,
        ← text_quotedItem word]
      rfl

theorem values_joinedQuotes (words : List String) : (joinedQuotes words).values = words := by
  cases words with
  | nil => rfl
  | cons word words =>
      simp [joinedQuotes, Layout.values, spacedItems, value_quotedItem, Function.comp_def]

/-- Texts in quotes with spaces between them are the tokens of their line. -/
theorem tokenize_joined_quotes (words : List String) :
    tokenize (" ".intercalate (words.map inQuotes)) = .ok words := by
  rw [← text_joinedQuotes, tokenize_layout, values_joinedQuotes]

/-- **Cutting into tokens undoes every spelling**, in particular that of any texts in quotes. -/
theorem tokenize_spelling :
    (∀ l : Layout, tokenize l.text = .ok l.values) ∧
      ∀ words : List String, tokenize (" ".intercalate (words.map inQuotes)) = .ok words :=
  ⟨tokenize_layout, tokenize_joined_quotes⟩

end LineShell.Spelling
