/-
**Tokens in one pass.**

Tokens are taken off a line by readers within readers.  A quoted part whose partner is missing is
refused after all of the line behind it was looked at, and the word it stands in then ends in front
of it; whether that is an error is decided only when no further token is found.  Here the same line
is scanned in one pass, a character at a time, and nothing is looked at twice.

The two agree on every line.  Each reader that succeeds has moved the scan from one place to another;
where a part of a word is refused the scan either ends the word as the reader does, or is inside a
quote that is never closed.

Main definitions:

* `LineShell.Token.Place` — where the scan stands;
* `LineShell.Token.Place.step`, `LineShell.Token.Place.finish` — what it does at a character, and at
  the end of the line;
* `LineShell.Token.scan` — **the scan**;
* `LineShell.Token.Moves` — the readers that move the scan from place to place.

Main results:

* `LineShell.Token.moves_part` — a part of a word moves the scan on in that word;
* `LineShell.Token.scan_of_part_refused` — where no part is found the word ends, or the line is bad;
* `LineShell.Token.scan_of_token`, `LineShell.Token.scan_of_token_refused` — one token, and the end;
* `LineShell.tokenize_of_scan`, `LineShell.tokenize_of_scan_error` — the tokens of a scan that ends
  well, and the error of one that does not;
* `LineShell.exists_scan_of_tokenize`, `LineShell.scan_of_tokenize_error` — and the other way round;
* `LineShell.tokenize_eq_scan` — **cutting a line into tokens is scanning it**.
-/

import LineShell.Token

set_option autoImplicit false

namespace LineShell

open Text (Reader)

namespace Token

/-! ### The scan -/

/-- Where the scan of a line stands. -/
inductive Place where
  /-- Between two tokens. -/
  | between
  /-- In a word, behind these characters of it. -/
  | inWord (word : List Char)
  /-- In a word, in double quotes. -/
  | inDouble (word : List Char)
  /-- In a word, in double quotes, behind a backslash. -/
  | escaped (word : List Char)
  /-- In a word, in single quotes. -/
  | inSingle (word : List Char)

/-- Whether a character ends the word in front of it. -/
def endsWord (c : Char) : Bool := Text.isWhitespace c || isMarker c

/-- What the scan does at a character between two tokens: the tokens it gives, and the place where
it goes on, if it does. -/
def stepBetween (c : Char) : List (List Char) × Option Place :=
  if Text.isBlank c then ([], some .between)
  else if Text.isWhitespace c then ([], none)
  else if isMarker c then ([[c]], some .between)
  else if c == '"' then ([], some (.inDouble []))
  else if c == '\'' then ([], some (.inSingle []))
  else ([], some (.inWord [c]))

/-- What the scan does at a character: the tokens it gives, and the place where it goes on, if it
does. -/
def Place.step : Place → Char → List (List Char) × Option Place
  | .between, c => stepBetween c
  | .inWord word, c =>
    if endsWord c then (word :: (stepBetween c).1, (stepBetween c).2)
    else if c == '"' then ([], some (.inDouble word))
    else if c == '\'' then ([], some (.inSingle word))
    else ([], some (.inWord (word ++ [c])))
  | .inDouble word, c =>
    if c == '"' then ([], some (.inWord word))
    else if c == '\\' then ([], some (.escaped word))
    else ([], some (.inDouble (word ++ [c])))
  | .escaped word, c => ([], some (.inDouble (word ++ [c])))
  | .inSingle word, c =>
    if c == '\'' then ([], some (.inWord word))
    else ([], some (.inSingle (word ++ [c])))

/-- What the scan gives at the end of the line. -/
def Place.finish : Place → Except LexError (List (List Char))
  | .between => .ok []
  | .inWord word => .ok [word]
  | .inDouble _ | .escaped _ | .inSingle _ => .error .unterminatedQuote

/-- Tokens in front of what else the scan gives. -/
def emit (tokens : List (List Char)) (r : Except LexError (List (List Char))) :
    Except LexError (List (List Char)) := r.map (tokens ++ ·)

/-- The tokens of a line from a place on.  Where the scan stops, the line is good if only white space
is left. -/
def scan (place : Place) : List Char → Except LexError (List (List Char))
  | [] => place.finish
  | c :: cs =>
    match place.step c with
    | (tokens, some next) => emit tokens (scan next cs)
    | (tokens, none) =>
      if Text.isAllWhitespace (c :: cs) then .ok tokens else .error .unterminatedQuote

@[simp] theorem emit_nil (r : Except LexError (List (List Char))) : emit [] r = r := by
  cases r <;> rfl

@[simp] theorem emit_error (tokens : List (List Char)) (e : LexError) :
    emit tokens (.error e) = .error e := rfl

theorem emit_emit (ts us : List (List Char)) (r : Except LexError (List (List Char))) :
    emit ts (emit us r) = emit (ts ++ us) r := by
  cases r with
  | error e => rfl
  | ok tokens => simp [emit, Except.map]

/-- What was given in front stands in front of the tokens. -/
theorem exists_of_emit_eq_ok {tokens given : List (List Char)}
    {r : Except LexError (List (List Char))} (h : emit given r = .ok tokens) :
    ∃ others, r = .ok others ∧ tokens = given ++ others := by
  cases r with
  | error e => cases h
  | ok others =>
      cases h
      exact ⟨others, rfl, rfl⟩

/-- A step after which the scan goes on. -/
theorem scan_cons {place next : Place} {c : Char} {tokens : List (List Char)}
    (h : place.step c = (tokens, some next)) (cs : List Char) :
    scan place (c :: cs) = emit tokens (scan next cs) := by
  rw [scan, h]

/-- A step that gives nothing. -/
theorem scan_of_step {place next : Place} {c : Char} (h : place.step c = ([], some next))
    (cs : List Char) : scan place (c :: cs) = scan next cs := by
  rw [scan_cons h, emit_nil]

/-- A run of characters over which the scan keeps to one kind of place. -/
theorem scan_takeWhile {place : List Char → Place} {test : Char → Bool}
    (h : ∀ word c, test c = true → (place word).step c = ([], some (place (word ++ [c]))))
    (word cs : List Char) :
    scan (place word) cs = scan (place (word ++ cs.takeWhile test)) (cs.dropWhile test) := by
  induction cs generalizing word with
  | nil => simp
  | cons c cs ih =>
      by_cases hc : test c = true
      · rw [List.takeWhile_cons_of_pos hc, List.dropWhile_cons_of_pos hc, scan_of_step (h word c hc),
          ih, List.append_assoc]
        rfl
      · rw [List.takeWhile_cons_of_neg hc, List.dropWhile_cons_of_neg hc, List.append_nil]

/-! ### Readers that move the scan -/

/-- Whatever the reader takes, the scan takes too, from one kind of place to another. -/
def Moves (p : Reader (List Char)) (start target : List Char → Place) : Prop :=
  ∀ ⦃cs value rest : List Char⦄, p.run cs = .ok (value, rest) →
    ∀ word, scan (start word) cs = scan (target (word ++ value)) rest

section

variable {p q : Reader (List Char)} {place start target : List Char → Place}

theorem moves_spanSome {test : Char → Bool}
    (h : ∀ word c, test c = true → (place word).step c = ([], some (place (word ++ [c])))) :
    Moves (Reader.spanSome test) place place := by
  intro cs value rest hrun word
  simp only [Reader.spanSome] at hrun
  split at hrun
  · cases hrun
  · simp only [Except.ok.injEq, Prod.mk.injEq] at hrun
    rw [← hrun.1, ← hrun.2]
    exact scan_takeWhile h word cs

theorem Moves.orElse (hp : Moves p start target) (hq : Moves q start target) :
    Moves (p.orElse q) start target := by
  intro cs value rest hrun word
  simp only [Reader.orElse] at hrun
  split at hrun
  · split at hrun
    · cases hrun
    · exact hq hrun word
  · next r hr => exact hp (hr.trans hrun) word

theorem Moves.foldFrom (hp : Moves p place place) {onStall : Text.Refusal}
    {gathered value cs rest : List Char}
    (h : Reader.foldFrom p (· ++ ·) onStall gathered cs = .ok (value, rest)) (word : List Char) :
    scan (place (word ++ gathered)) cs = scan (place (word ++ value)) rest := by
  refine Reader.foldFrom_invariant
    (R := fun g r => scan (place (word ++ gathered)) cs = scan (place (word ++ g)) r) ?_ h rfl
  intro g r a r' hrun hinv
  rw [hinv, hp hrun, List.append_assoc]

theorem Moves.foldSome (hp : Moves p place place) :
    Moves (p.foldSome (· ++ ·) []) place place := by
  intro cs value rest hrun word
  simp only [Reader.foldSome] at hrun
  split at hrun
  · cases hrun
  · next a rest' ha => rw [hp ha, ← hp.foldFrom hrun word, List.nil_append]

end

/-! ### Parts of a word -/

section

variable (word cs : List Char)

theorem scan_open_double : scan (.inWord word) ('"' :: cs) = scan (.inDouble word) cs :=
  scan_of_step rfl cs

theorem scan_close_double : scan (.inDouble word) ('"' :: cs) = scan (.inWord word) cs :=
  scan_of_step rfl cs

theorem scan_open_single : scan (.inWord word) ('\'' :: cs) = scan (.inSingle word) cs :=
  scan_of_step rfl cs

theorem scan_close_single : scan (.inSingle word) ('\'' :: cs) = scan (.inWord word) cs :=
  scan_of_step rfl cs

theorem scan_backslash : scan (.inDouble word) ('\\' :: cs) = scan (.escaped word) cs :=
  scan_of_step rfl cs

theorem scan_escaped (c : Char) :
    scan (.escaped word) (c :: cs) = scan (.inDouble (word ++ [c])) cs := scan_of_step rfl cs

end

theorem step_inWord_of_isBare {c : Char} (h : isBare c = true) (word : List Char) :
    (Place.inWord word).step c = ([], some (.inWord (word ++ [c]))) := by
  simp only [isBare, isQuote, Bool.and_eq_true, Bool.not_eq_true', Bool.or_eq_false_iff] at h
  simp [Place.step, endsWord, h]

theorem step_inDouble_of_plain {c : Char} (h : (c != '"' && c != '\\') = true)
    (word : List Char) : (Place.inDouble word).step c = ([], some (.inDouble (word ++ [c]))) := by
  simp only [Bool.and_eq_true, bne_iff_ne] at h
  simp [Place.step, h]

theorem step_inSingle_of_plain {c : Char} (h : (c != '\'') = true) (word : List Char) :
    (Place.inSingle word).step c = ([], some (.inSingle (word ++ [c]))) := by
  rw [bne_iff_ne] at h
  simp [Place.step, h]

theorem moves_bare : Moves bare .inWord .inWord :=
  moves_spanSome fun word _ hc => step_inWord_of_isBare hc word

theorem run_escaped_eq_ok {cs value rest : List Char} :
    escaped.run cs = .ok (value, rest) ↔ ∃ c, cs = '\\' :: c :: rest ∧ value = [c] := by
  simp only [escaped, Reader.run_map_eq_ok, Reader.run_andThen_eq_ok, Reader.run_one_eq_ok]
  constructor
  · rintro ⟨c, ⟨b, middle, ⟨rfl, hb⟩, rfl, -⟩, rfl⟩
    exact ⟨c, by rw [eq_of_beq hb], rfl⟩
  · rintro ⟨c, rfl, rfl⟩
    exact ⟨c, ⟨'\\', c :: rest, ⟨rfl, by decide⟩, rfl, trivial⟩, rfl⟩

theorem moves_escaped : Moves escaped .inDouble .inDouble := by
  intro cs value rest hrun word
  obtain ⟨c, rfl, rfl⟩ := run_escaped_eq_ok.1 hrun
  rw [scan_backslash, scan_escaped]

theorem moves_doublePiece : Moves doublePiece .inDouble .inDouble :=
  (moves_spanSome fun word _ hc => step_inDouble_of_plain hc word).orElse moves_escaped

/-- A text in double quotes is scanned from the opening quote to the closing one. -/
theorem moves_doubleQuoted : Moves doubleQuoted .inWord .inWord := by
  intro cs value rest hrun word
  obtain ⟨inner, rfl, hpieces⟩ := Reader.run_enclosed_eq_ok.1 hrun
  have hinner := moves_doublePiece.foldFrom hpieces word
  rw [List.append_nil] at hinner
  rw [scan_open_double, hinner, scan_close_double]

theorem moves_singleQuoted : Moves singleQuoted .inWord .inWord := by
  intro cs value rest hrun word
  obtain ⟨inner, rfl, hinner⟩ := Reader.run_enclosed_eq_ok.1 hrun
  rw [Reader.run_optional_spanSome, Except.ok.injEq, Prod.mk.injEq] at hinner
  rw [scan_open_single, scan_takeWhile fun word _ hc => step_inSingle_of_plain hc word, hinner.1,
    hinner.2, scan_close_single]

/-- **A part moves the scan on in its word.** -/
theorem moves_part : Moves part .inWord .inWord :=
  (moves_bare.orElse moves_doubleQuoted).orElse moves_singleQuoted

theorem moves_word : Moves word .inWord .inWord := moves_part.foldSome

/-! ### Where no part is found -/

/-- Double quotes that are refused are never closed. -/
theorem scan_inDouble_of_refused {cs : List Char} {e : Text.Refusal}
    (h : doubleQuoted.run ('"' :: cs) = .error e) (word : List Char) :
    scan (.inDouble word) cs = .error .unterminatedQuote := by
  obtain ⟨value, rest, hpieces, hstop⟩ :=
    Reader.exists_foldFrom advances_doublePiece plain_doublePiece (· ++ ·) .stalled [] cs
  have hmoved := moves_doublePiece.foldFrom hpieces word
  rw [List.append_nil] at hmoved
  rw [hmoved]
  cases rest with
  | nil => rfl
  | cons c rest =>
      have hquote : c ≠ '"' := by
        rintro rfl
        rw [show doubleQuoted.run ('"' :: cs) = .ok (value, rest) from
          Reader.run_enclosed_eq_ok.2 ⟨cs, rfl, hpieces⟩] at h
        cases h
      obtain ⟨hplain, hescaped⟩ := Reader.run_orElse_eq_error (Reader.plain_spanSome _) hstop
      by_cases hslash : c = '\\'
      · subst hslash
        cases rest with
        | nil => rfl
        | cons d rest =>
            rw [run_escaped_eq_ok.2 ⟨d, rfl, rfl⟩] at hescaped
            cases hescaped
      · simp [Reader.spanSome, hquote, hslash] at hplain

/-- So are single quotes. -/
theorem scan_inSingle_of_refused {cs : List Char} {e : Text.Refusal}
    (h : singleQuoted.run ('\'' :: cs) = .error e) (word : List Char) :
    scan (.inSingle word) cs = .error .unterminatedQuote := by
  rw [scan_takeWhile fun word _ hc => step_inSingle_of_plain hc word]
  cases hrest : cs.dropWhile (· != '\'') with
  | nil => rfl
  | cons c rest =>
      have hc : c = '\'' := by
        have := List.head?_dropWhile_not (· != '\'') cs
        simpa [hrest] using this
      subst hc
      have hrun := Reader.run_optional_spanSome (· != '\'') cs
      rw [hrest] at hrun
      rw [show singleQuoted.run ('\'' :: cs) = .ok (cs.takeWhile (· != '\''), rest) from
        Reader.run_enclosed_eq_ok.2 ⟨cs, rfl, hrun⟩] at h
      cases h

/-- A word that a character ends. -/
theorem scan_inWord_of_endsWord {c : Char} (h : endsWord c = true) (word cs : List Char) :
    scan (.inWord word) (c :: cs) = emit [word] (scan .between (c :: cs)) := by
  have hstep : (Place.inWord word).step c = (word :: (stepBetween c).1, (stepBetween c).2) := by
    rw [Place.step, if_pos h]
  rw [scan, scan, hstep, Place.step]
  obtain ⟨tokens, next⟩ := stepBetween c
  cases next with
  | some next => exact (emit_emit [word] tokens _).symm
  | none =>
      simp only
      split <;> rfl

/-- A character that does not end a word begins one. -/
theorem scan_between_of_not_endsWord {c : Char} (h : endsWord c = false) (cs : List Char) :
    scan .between (c :: cs) = scan (.inWord []) (c :: cs) := by
  have hstep : Place.between.step c = (Place.inWord []).step c := by
    simp only [endsWord, Bool.or_eq_false_iff] at h
    have hblank : Text.isBlank c = false := by
      rw [← Bool.not_eq_true]
      intro hc
      rw [Text.isWhitespace_of_isBlank hc] at h
      cases h.1
    simp [Place.step, stepBetween, endsWord, h, hblank]
  rw [scan, scan, hstep]

theorem isBare_of_not_endsWord {c : Char} (h : endsWord c = false) (hdouble : c ≠ '"')
    (hsingle : c ≠ '\'') : isBare c = true := by
  simp only [endsWord, Bool.or_eq_false_iff] at h
  simp [isBare, isQuote, h, hdouble, hsingle]

/-- **Where no part is found the word ends**, unless a quote is never closed. -/
theorem scan_of_part_refused {cs : List Char} {e : Text.Refusal} (h : part.run cs = .error e)
    (word : List Char) : scan (.inWord word) cs = emit [word] (scan .between cs) := by
  cases cs with
  | nil => rfl
  | cons c cs =>
      obtain ⟨hquoted, hsingle⟩ :=
        Reader.run_orElse_eq_error (plain_bare.orElse plain_doubleQuoted) h
      obtain ⟨hbare, hdouble⟩ := Reader.run_orElse_eq_error plain_bare hquoted
      cases hends : endsWord c with
      | true => exact scan_inWord_of_endsWord hends word cs
      | false =>
          -- what is left are the quotes, and both sides then fail
          rw [scan_between_of_not_endsWord hends]
          by_cases hd : c = '"'
          · subst hd
            rw [scan_open_double, scan_open_double, scan_inDouble_of_refused hdouble,
              scan_inDouble_of_refused hdouble, emit_error]
          by_cases hs : c = '\''
          · subst hs
            rw [scan_open_single, scan_open_single, scan_inSingle_of_refused hsingle,
              scan_inSingle_of_refused hsingle, emit_error]
          simp [bare, Reader.spanSome, isBare_of_not_endsWord hends hd hs] at hbare

/-! ### Tokens -/

/-- A part begins with a character that does not end a word. -/
theorem head_of_part {cs value rest : List Char} (h : part.run cs = .ok (value, rest)) :
    ∃ c cs', cs = c :: cs' ∧ endsWord c = false := by
  rcases Reader.run_orElse_eq_ok h with hquoted | hsingle
  · rcases Reader.run_orElse_eq_ok hquoted with hbare | hdouble
    · obtain ⟨c, cs', rfl, hc⟩ := Reader.head_of_run_spanSome hbare
      refine ⟨c, cs', rfl, ?_⟩
      simp only [isBare, Bool.and_eq_true, Bool.not_eq_true'] at hc
      simp [endsWord, hc]
    · obtain ⟨inner, rfl, -⟩ := Reader.run_enclosed_eq_ok.1 hdouble
      exact ⟨'"', inner, rfl, by decide⟩
  · obtain ⟨inner, rfl, -⟩ := Reader.run_enclosed_eq_ok.1 hsingle
    exact ⟨'\'', inner, rfl, by decide⟩

/-- Between two tokens a blank is passed over. -/
theorem step_between_of_isBlank {c : Char} (h : Text.isBlank c = true) :
    Place.between.step c = ([], some .between) := by
  simp [Place.step, stepBetween, h]

/-- Any other white space stops the scan, and the line is good if nothing else is left. -/
theorem scan_between_of_isWhitespace {c : Char} (hblank : Text.isBlank c = false)
    (hwhite : Text.isWhitespace c = true) (cs : List Char) :
    scan .between (c :: cs) =
      if Text.isAllWhitespace (c :: cs) then .ok [] else .error .unterminatedQuote := by
  have hstep : Place.between.step c = ([], none) := by
    simp [Place.step, stepBetween, hblank, hwhite]
  rw [scan, hstep]

theorem scan_between_dropWhile (cs : List Char) :
    scan .between cs = scan .between (cs.dropWhile Text.isBlank) :=
  @scan_takeWhile (fun _ => .between) Text.isBlank (fun _ _ hc => step_between_of_isBlank hc) [] cs

/-- The scan passes over blanks between two tokens. -/
theorem scan_between_append {blanks : List Char} (h : ∀ c ∈ blanks, Text.isBlank c = true)
    (cs : List Char) : scan .between (blanks ++ cs) = scan .between cs := by
  rw [scan_between_dropWhile, List.dropWhile_append_of_pos h, ← scan_between_dropWhile]

theorem scan_marker {c : Char} (h : isMarker c = true) (cs : List Char) :
    scan .between (c :: cs) = emit [[c]] (scan .between cs) := by
  have hc : c = '<' ∨ c = '>' := by simpa [isMarker] using h
  rcases hc with rfl | rfl <;> rfl

theorem scan_of_word {cs value rest : List Char} (h : word.run cs = .ok (value, rest)) :
    scan .between cs = emit [value] (scan .between rest) := by
  obtain ⟨part, rest', hpart, -⟩ := Reader.head_of_foldSome h
  obtain ⟨c, cs', rfl, hc⟩ := head_of_part hpart
  rw [scan_between_of_not_endsWord hc, moves_word h,
    scan_of_part_refused (Reader.run_of_foldSome advances_part plain_part h)]
  rfl

/-- **A token is given by the scan**, which goes on between tokens. -/
theorem scan_of_token {cs value rest : List Char} (h : token.run cs = .ok (value, rest)) :
    scan .between cs = emit [value] (scan .between rest) := by
  rw [scan_between_dropWhile]
  rcases Reader.run_orElse_eq_ok h with hmarker | hword
  · obtain ⟨c, hone, rfl⟩ := Reader.run_map_eq_ok.1 hmarker
    obtain ⟨hcs, hc⟩ := Reader.run_one_eq_ok.1 hone
    rw [hcs, scan_marker hc]
  · exact scan_of_word hword

theorem isAllWhitespace_dropWhile (cs : List Char) :
    Text.isAllWhitespace (cs.dropWhile Text.isBlank) = Text.isAllWhitespace cs := by
  induction cs with
  | nil => rfl
  | cons c cs ih =>
      by_cases hc : Text.isBlank c = true
      · rw [List.dropWhile_cons_of_pos hc, ih, Text.isAllWhitespace_cons,
          Text.isWhitespace_of_isBlank hc, Bool.true_and]
      · rw [List.dropWhile_cons_of_neg hc]

/-- **Where no token is found the scan ends**, and the line is good if only white space is left. -/
theorem scan_of_token_refused {cs : List Char} {e : Text.Refusal} (h : token.run cs = .error e) :
    scan .between cs =
      if Text.isAllWhitespace cs then .ok [] else .error .unterminatedQuote := by
  have hrest : (marker.orElse word).run (cs.dropWhile Text.isBlank) = .error e := h
  obtain ⟨hmarker, hword⟩ := Reader.run_orElse_eq_error plain_marker hrest
  have hpart := Reader.run_of_foldSome_refused advances_part plain_part hword
  rw [scan_between_dropWhile, ← isAllWhitespace_dropWhile]
  have hblank := List.head?_dropWhile_not Text.isBlank cs
  clear hrest hword
  generalize cs.dropWhile Text.isBlank = rest at hmarker hpart hblank ⊢
  cases rest with
  | nil => rfl
  | cons c rest =>
      have hc : Text.isBlank c = false := by simpa using hblank
      cases hwhite : Text.isWhitespace c with
      | true => exact scan_between_of_isWhitespace hc hwhite rest
      | false =>
          have hends : endsWord c = false := by
            cases hm : isMarker c with
            | true => simp [marker, Reader.map, Reader.one, hm] at hmarker
            | false => simp [endsWord, hwhite, hm]
          -- a scan that comes back to the same place behind a word must have failed
          have hself := scan_of_part_refused hpart []
          rw [← scan_between_of_not_endsWord hends] at hself
          rw [Text.isAllWhitespace_cons, hwhite, Bool.false_and, if_neg Bool.false_ne_true]
          cases hscan : scan .between (c :: rest) with
          | error e =>
              cases e
              rfl
          | ok tokens =>
              rw [hscan] at hself
              simp [emit, Except.map] at hself

/-- What was taken off the line, the scan gives in front of what it gives for the rest. -/
theorem scan_of_all {cs rest : List Char} {tokens : List (List Char)}
    (h : all.run cs = .ok (tokens, rest)) :
    emit tokens (scan .between rest) = scan .between cs := by
  refine Reader.foldFrom_invariant
    (R := fun found r => emit found (scan .between r) = scan .between cs) ?_ h (emit_nil _)
  intro found r value r' hrun hinv
  rw [← hinv, scan_of_token hrun, emit_emit]

end Token

/-- The tokens that the scan gives are the tokens of the line. -/
theorem tokenize_of_scan {line : String} {tokens : List (List Char)}
    (h : Token.scan .between line.toList = .ok tokens) :
    tokenize line = .ok (tokens.map String.ofList) := by
  obtain ⟨taken, rest, hall, hrefused⟩ := Token.exists_all line.toList
  have hscan := Token.scan_of_all hall
  rw [h, Token.scan_of_token_refused hrefused] at hscan
  rw [tokenize, hall]
  split at hscan
  · next hwhite =>
    simp only [Token.emit, Except.map, List.append_nil, Except.ok.injEq] at hscan
    simp [hwhite, hscan]
  · cases hscan

/-- A line whose scan fails cannot be cut into tokens. -/
theorem tokenize_of_scan_error {line : String} {e : LexError}
    (h : Token.scan .between line.toList = .error e) : tokenize line = .error e := by
  obtain ⟨taken, rest, hall, hrefused⟩ := Token.exists_all line.toList
  have hscan := Token.scan_of_all hall
  rw [h, Token.scan_of_token_refused hrefused] at hscan
  rw [tokenize, hall]
  split at hscan
  · cases hscan
  · next hwhite =>
    cases e
    exact if_neg hwhite

/-- The tokens of a line are those of its scan. -/
theorem exists_scan_of_tokenize {line : String} {tokens : List String}
    (h : tokenize line = .ok tokens) :
    ∃ scanned, Token.scan .between line.toList = .ok scanned ∧
      tokens = scanned.map String.ofList := by
  cases hscan : Token.scan .between line.toList with
  | error e =>
      rw [tokenize_of_scan_error hscan] at h
      cases h
  | ok scanned =>
      rw [tokenize_of_scan hscan, Except.ok.injEq] at h
      exact ⟨scanned, rfl, h.symm⟩

/-- The scan of a line that cannot be cut fails. -/
theorem scan_of_tokenize_error {line : String} {e : LexError} (h : tokenize line = .error e) :
    Token.scan .between line.toList = .error e := by
  cases hscan : Token.scan .between line.toList with
  | error e' =>
      cases e
      cases e'
      rfl
  | ok scanned =>
      rw [tokenize_of_scan hscan] at h
      cases h

/-- Lines with the same scan are cut alike. -/
theorem tokenize_congr {line line' : String}
    (h : Token.scan .between line.toList = Token.scan .between line'.toList) :
    tokenize line = tokenize line' := by
  cases hscan : Token.scan .between line'.toList with
  | ok tokens => rw [tokenize_of_scan hscan, tokenize_of_scan (h.trans hscan)]
  | error e => rw [tokenize_of_scan_error hscan, tokenize_of_scan_error (h.trans hscan)]

/-- **Cutting a line into tokens is scanning it in one pass.** -/
theorem tokenize_eq_scan (line : String) :
    tokenize line = (Token.scan .between line.toList).map (·.map String.ofList) := by
  obtain ⟨tokens, rest, hall, hrefused⟩ := Token.exists_all line.toList
  have hscan : Token.emit tokens (Token.scan .between rest) =
      Token.scan .between line.toList := by
    -- what was given so far, in front of what the scan gives for the rest, is always the whole
    refine Reader.foldFrom_invariant
      (R := fun found r => Token.emit found (Token.scan .between r) =
        Token.scan .between line.toList) ?_ hall (Token.emit_nil _)
    intro found cs value cs' hrun hinv
    rw [← hinv, Token.scan_of_token hrun, Token.emit_emit]
  rw [tokenize, hall, ← hscan, Token.scan_of_token_refused hrefused]
  simp only
  split
  · simp [Token.emit, Except.map]
  · rfl

end LineShell
