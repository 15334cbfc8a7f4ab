/-
**Words in quotes as arguments.**

Any list of words is the list of tokens of some line: each word is put in double quotes, and spaces
are put between them.  So any text without a NUL can be handed to a program as an argument, with one
exception.

Which characters of a token stood in quotes is not kept with the token, and whether a token is a
marker is decided by its text alone.  A first argument `<` or `>` is a redirection, then, whether it
was in quotes or not: the word behind it names the file, and what the program gets begins behind
that.  Everywhere else a marker is an argument like any other.

Main definitions:

* `LineShell.NulFree` — the texts that can be handed to a program.

Main results:

* `LineShell.Utf8.zero_mem_encode_iff` — a text is written without a NUL exactly if it holds none;
* `LineShell.Invocation.exists_arguments`, `LineShell.Invocation.exists_build` — without a NUL
  nothing is refused, and nothing is lost;
* `LineShell.Invocation.directive_of_not_marker`, `LineShell.Invocation.exists_directive_marker`,
  `LineShell.Invocation.directive_of_marker_alone` — what the first argument decides;
* `LineShell.Invocation.build_of_quoted_words` — **what becomes of words in quotes**;
* `LineShell.Invocation.quoted_marker_redirects` — a marker in quotes is not always an argument.
-/

import LineShell.Invocation
import LineShell.Proofs.Text.Utf8
import LineShell.Proofs.Token.Spelling

set_option autoImplicit false

namespace LineShell

/-! ### Texts without a NUL -/

/-- The text holds no NUL. -/
def NulFree (text : String) : Prop := Char.ofNat 0 ∉ text.toList

instance (text : String) : Decidable (NulFree text) := inferInstanceAs (Decidable (_ ∉ _))

namespace Utf8

theorem zero_mem_encode_iff (text : String) : 0 ∈ encode text ↔ Char.ofNat 0 ∈ text.toList :=
  mem_encode_iff (by decide) text

end Utf8

theorem NulFree.zero_notMem {text : String} (h : NulFree text) : 0 ∉ Utf8.encode text :=
  mt (Utf8.zero_mem_encode_iff text).1 h

theorem CString.exists_ofString {text : String} (h : NulFree text) :
    ∃ c, CString.ofString text = .ok c ∧ c.bytes = Utf8.encode text :=
  ⟨⟨Utf8.encode text, h.zero_notMem⟩, dif_neg h.zero_notMem, rfl⟩

namespace Invocation

/-! ### Arguments -/

/-- Texts without a NUL become arguments as they are. -/
theorem exists_arguments {tokens : List String} (h : ∀ token ∈ tokens, NulFree token) :
    ∃ cs, arguments tokens = .ok cs ∧ cs.map CString.bytes = tokens.map Utf8.encode := by
  induction tokens with
  | nil => exact ⟨[], rfl, rfl⟩
  | cons token rest ih =>
      obtain ⟨c, hc, hbytes⟩ := CString.exists_ofString (h token (List.mem_cons_self ..))
      obtain ⟨cs, hcs, hrest⟩ := ih fun t ht => h t (List.mem_cons_of_mem token ht)
      refine ⟨c :: cs, ?_, ?_⟩
      · rw [arguments, hc, hcs]
        rfl
      · rw [List.map_cons, List.map_cons, hbytes, hrest]

/-- Once the redirection is known, only a NUL can be refused. -/
theorem exists_build {path : Bytes} {tokens arguments : List String}
    {redirection : Option Redirection}
    (hdirective : directive tokens.tail = .ok (redirection, arguments)) (hpath : 0 ∉ path)
    (harguments : ∀ token ∈ arguments, NulFree token) :
    ∃ invocation, build path tokens = .ok invocation ∧ invocation.redirection = redirection ∧
      invocation.vector.all.map CString.bytes = path :: arguments.map Utf8.encode := by
  obtain ⟨cs, hcs, hbytes⟩ := exists_arguments harguments
  have hprogram : CString.ofBytes path = .ok ⟨path, hpath⟩ := dif_neg hpath
  refine ⟨⟨⟨⟨path, hpath⟩, cs⟩, redirection⟩, ?_, rfl, ?_⟩
  · rw [build, hdirective]
    simp only [bind, Except.bind, hprogram, hcs]
    rfl
  · rw [← hbytes]
    rfl

/-! ### The first argument -/

/-- A first argument that is no marker is an argument. -/
theorem directive_of_not_marker {words : List String}
    (h : ∀ word, words.head? = some word → word ≠ "<" ∧ word ≠ ">") :
    directive words = .ok (none, words) := by
  cases words with
  | nil => rfl
  | cons word rest =>
      obtain ⟨hinput, houtput⟩ := h word rfl
      have hmarker : Stream.ofMarker? word = none := by
        rw [Stream.ofMarker?, if_neg hinput, if_neg houtput]
      simp only [directive, hmarker]

/-- A marker and a text behind it are a redirection to that text. -/
theorem exists_directive_marker (stream : Stream) {target : String} (h : NulFree target)
    (rest : List String) :
    ∃ redirection, directive (stream.marker :: target :: rest) = .ok (some redirection, rest) ∧
      redirection.stream = stream ∧ redirection.target.bytes = Utf8.encode target := by
  obtain ⟨c, hc, hbytes⟩ := CString.exists_ofString h
  have hredirection : Redirection.ofText stream target = .ok ⟨stream, c⟩ := by
    rw [Redirection.ofText, hc]
    rfl
  refine ⟨⟨stream, c⟩, ?_, rfl, hbytes⟩
  simp only [directive, Stream.ofMarker?_marker, hredirection]

/-- A marker with nothing behind it is refused. -/
theorem directive_of_marker_alone (stream : Stream) :
    directive [stream.marker] = .error (.missingTarget stream) := by
  simp only [directive, Stream.ofMarker?_marker]

theorem build_of_directive_error {path : Bytes} {tokens : List String} {cause : BuildError}
    (h : directive tokens.tail = .error cause) : build path tokens = .error cause := by
  rw [build, h]
  rfl

/-! ### Words in quotes -/

/-- **What becomes of words in quotes.**  They are the tokens of their line.  Those behind the first
become the arguments, as they are, unless the first of them is a marker; quotes do not change that.
With a word behind it the marker redirects its stream to the file of that name, and the arguments
are the words behind that one; without, it is refused. -/
theorem build_of_quoted_words {path : Bytes} {name : String} {words : List String}
    (hpath : 0 ∉ path) (hwords : ∀ word ∈ name :: words, NulFree word) :
    tokenize (" ".intercalate ((name :: words).map Spelling.inQuotes)) = .ok (name :: words) ∧
      ((∀ word, words.head? = some word → word ≠ "<" ∧ word ≠ ">") →
        ∃ invocation, build path (name :: words) = .ok invocation ∧
          invocation.vector.all.map CString.bytes = path :: words.map Utf8.encode ∧
          invocation.redirection = none) ∧
      (∀ (stream : Stream) (target : String) (rest : List String),
        words = stream.marker :: target :: rest →
        ∃ invocation redirection, build path (name :: words) = .ok invocation ∧
          invocation.vector.all.map CString.bytes = path :: rest.map Utf8.encode ∧
          invocation.redirection = some redirection ∧ redirection.stream = stream ∧
          redirection.target.bytes = Utf8.encode target) ∧
      ∀ stream : Stream, words = [stream.marker] →
        build path (name :: words) = .error (.missingTarget stream) := by
  have hfree : ∀ word ∈ words, NulFree word := fun word h =>
    hwords word (List.mem_cons_of_mem name h)
  refine ⟨Spelling.tokenize_joined_quotes _, ?_, ?_, ?_⟩
  · intro hfirst
    have hdirective : directive (name :: words).tail = .ok (none, words) :=
      directive_of_not_marker hfirst
    obtain ⟨invocation, hbuild, hnone, hvector⟩ := exists_build hdirective hpath hfree
    exact ⟨invocation, hbuild, hvector, hnone⟩
  · rintro stream target rest rfl
    have htarget : NulFree target := hfree target (by simp)
    have hrest : ∀ word ∈ rest, NulFree word := fun word h => hfree word (by simp [h])
    obtain ⟨redirection, hdirective, hstream, hbytes⟩ :=
      exists_directive_marker stream htarget rest
    obtain ⟨invocation, hbuild, hsome, hvector⟩ :=
      @exists_build path (name :: stream.marker :: target :: rest) rest _ hdirective hpath hrest
    exact ⟨invocation, redirection, hbuild, hvector, hsome, hstream, hbytes⟩
  · rintro stream rfl
    exact build_of_directive_error (directive_of_marker_alone stream)

/-- A text with a space and a marker behind it, both in quotes; and a marker by itself, which is
refused. -/
theorem build_of_quoted_words_marker_behind :
    let path := Utf8.encode "/bin/echo"
    (tokenize "\"echo\" \"a b\" \">\" \"\"" = .ok ["echo", "a b", ">", ""] ∧
      ∃ invocation, build path ["echo", "a b", ">", ""] = .ok invocation ∧
        invocation.vector.all.map CString.bytes = path :: ["a b", ">", ""].map Utf8.encode ∧
        invocation.redirection = none) ∧
    tokenize "\"echo\" \">\"" = .ok ["echo", ">"] ∧
      build path ["echo", ">"] = .error (.missingTarget .output) := by
  intro path
  have hline : " ".intercalate (["echo", "a b", ">", ""].map Spelling.inQuotes) =
      "\"echo\" \"a b\" \">\" \"\"" := by decide
  have halone : " ".intercalate (["echo", ">"].map Spelling.inQuotes) = "\"echo\" \">\"" := by decide
  obtain ⟨htokens, hplain, -⟩ :=
    @build_of_quoted_words path "echo" ["a b", ">", ""] (by decide) (by decide)
  obtain ⟨htokens', -, -, hrefused⟩ :=
    @build_of_quoted_words path "echo" [">"] (by decide) (by decide)
  rw [hline] at htokens
  rw [halone] at htokens'
  refine ⟨⟨htokens, hplain ?_⟩, htokens', hrefused .output rfl⟩
  rintro word ⟨⟩
  decide

/-- A marker in quotes is not an argument if it is the first one: it is not so that words in quotes
are always handed to the program as they are. -/
theorem quoted_marker_redirects :
    ¬ ∀ (path : Bytes) (name : String) (words : List String), 0 ∉ path →
      (∀ word ∈ name :: words, NulFree word) →
      ∃ tokens invocation,
        tokenize (" ".intercalate ((name :: words).map Spelling.inQuotes)) = .ok tokens ∧
        build path tokens = .ok invocation ∧
        invocation.vector.all.map CString.bytes = path :: words.map Utf8.encode ∧
        invocation.redirection = none := by
  intro hclaim
  obtain ⟨tokens, invocation, htokens, hbuild, -, hnone⟩ :=
    hclaim (Utf8.encode "/bin/echo") "echo" [">", "x"] (by decide) (by decide)
  rw [Spelling.tokenize_joined_quotes, Except.ok.injEq] at htokens
  subst htokens
  obtain ⟨redirection, hdirective, -, -⟩ :=
    @exists_directive_marker .output "x" (by decide) []
  obtain ⟨invocation', hbuild', hsome, -⟩ :=
    @exists_build (Utf8.encode "/bin/echo") ["echo", ">", "x"] [] _ hdirective (by decide)
      (by simp)
  rw [hbuild, Except.ok.injEq] at hbuild'
  rw [hbuild', hsome] at hnone
  cases hnone

end Invocation

end LineShell
