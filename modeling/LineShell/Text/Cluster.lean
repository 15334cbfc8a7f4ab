/-
**Characters as a reader sees them.**

What a reader takes for one character may be several code points: a letter with its marks, a
syllable written in parts, consonants written as one, a flag, a picture joined from others.  A
*cluster* is such a group.  The rules say between which neighbours a text is not cut; they look at
the class of the two neighbours and at some facts about what came before: whether it was a picture
with its marks, ready to be joined, whether it was a consonant with its marks, ready to be linked,
and whether an odd number of flag letters stood there.

Main definitions:

* `LineShell.Text.ClusterClass`, `LineShell.Text.clusterClass` — the classes;
* `LineShell.Text.clusters` — a text cut into its clusters;
* `LineShell.Text.rubOut` — each backspace takes the cluster before it away, and itself.

Main results:

* `LineShell.Text.flatten_clusters` — the clusters make up the text;
* `LineShell.Text.rubOut_of_not_mem` — a text without a backspace stays as it is.
-/

import LineShell.Text.Conjunct
import LineShell.Text.Extending
import LineShell.Text.Pictograph
import LineShell.Text.SpacingMark

set_option autoImplicit false

namespace LineShell.Text

/-! ### Classes -/

/-- Control characters, format characters and line and paragraph separators, which stand alone. -/
def controlRanges : List (Nat × Nat) :=
  [(0x0, 0x9), (0xB, 0xC), (0xE, 0x1F), (0x7F, 0x9F), (0xAD, 0xAD), (0x61C, 0x61C),
   (0x180E, 0x180E), (0x200B, 0x200B), (0x200E, 0x200F), (0x2028, 0x202E), (0x2060, 0x206F),
   (0xFEFF, 0xFEFF), (0xFFF0, 0xFFFB), (0x13430, 0x1343F), (0x1BCA0, 0x1BCA3),
   (0x1D173, 0x1D17A), (0xE0000, 0xE001F), (0xE0080, 0xE00FF), (0xE01F0, 0xE0FFF)]

/-- The class of a character in the rules for clusters. -/
inductive ClusterClass where
  /-- A carriage return. -/
  | carriageReturn
  /-- A line feed. -/
  | lineFeed
  /-- A character that stands alone. -/
  | control
  /-- A mark on the character before it. -/
  | extending
  /-- A mark that links the consonants on its two sides. -/
  | linking
  /-- The mark that keeps the letters on its two sides apart. -/
  | parting
  /-- The joiner of pictures. -/
  | joiner
  /-- A character that belongs to the one after it. -/
  | prepended
  /-- A mark that takes up room of its own. -/
  | spacingMark
  /-- The first part of a syllable. -/
  | leading
  /-- The vowel of a syllable. -/
  | vowel
  /-- The last part of a syllable. -/
  | trailing
  /-- A syllable that may take a last part. -/
  | openSyllable
  /-- A syllable that is complete. -/
  | closedSyllable
  /-- A consonant that may be linked. -/
  | consonant
  /-- A letter of a flag. -/
  | flagLetter
  /-- A picture. -/
  | pictograph
  /-- Any other character. -/
  | other
deriving DecidableEq

/-- The class of a character. -/
def clusterClass (c : Char) : ClusterClass :=
  let n := c.toNat
  if c == '\r' then .carriageReturn
  else if c == '\n' then .lineFeed
  else if 0x20 ≤ n && n < 0x7F then .other
  else if n == 0x200C then .parting
  else if n == 0x200D then .joiner
  else if isConsonantLinker c then .linking
  else if isExtending c || (0x1F3FB ≤ n && n ≤ 0x1F3FF) then .extending
  else if inRanges controlRanges c then .control
  else if isPrepended c then .prepended
  else if isSpacingMark c then .spacingMark
  else if (0x1100 ≤ n && n ≤ 0x115F) || (0xA960 ≤ n && n ≤ 0xA97C) then .leading
  else if (0x1160 ≤ n && n ≤ 0x11A7) || (0xD7B0 ≤ n && n ≤ 0xD7C6) || n == 0x16D63 ||
      (0x16D67 ≤ n && n ≤ 0x16D6A) then .vowel
  else if (0x11A8 ≤ n && n ≤ 0x11FF) || (0xD7CB ≤ n && n ≤ 0xD7FB) then .trailing
  else if 0xAC00 ≤ n && n ≤ 0xD7A3 then
    if (n - 0xAC00) % 28 == 0 then .openSyllable else .closedSyllable
  else if isLinkingConsonant c then .consonant
  else if 0x1F1E6 ≤ n && n ≤ 0x1F1FF then .flagLetter
  else if isPictograph c then .pictograph
  else .other

/-- Whether a character of a class is a mark on the one before it. -/
def ClusterClass.isMark (k : ClusterClass) : Bool :=
  k == .extending || k == .linking || k == .parting

/-- Whether characters of a class may stand between consonants that are linked. -/
def ClusterClass.isBetweenConsonants (k : ClusterClass) : Bool :=
  k == .extending || k == .linking || k == .joiner

/-! ### Where a text is not cut -/

/-- What is known of the text before a place. -/
structure ClusterContext where
  /-- The class of the last character. -/
  last : ClusterClass
  /-- Whether a picture and marks on it end here. -/
  picture : Bool
  /-- Whether a picture, marks on it and a joiner end here. -/
  joined : Bool
  /-- Whether a consonant and marks on it end here. -/
  consonant : Bool
  /-- Whether a consonant and marks on it, a linking one among them, end here. -/
  linked : Bool
  /-- Whether an odd number of flag letters ends here. -/
  oddFlag : Bool

/-- What is known before a text. -/
def ClusterContext.none : ClusterContext := ⟨.control, false, false, false, false, false⟩

/-- The context after one more character of a class. -/
def ClusterContext.after (before : ClusterContext) (k : ClusterClass) : ClusterContext where
  last := k
  picture := k == .pictograph || (before.picture && k.isMark)
  joined := before.picture && k == .joiner
  consonant := k == .consonant || (before.consonant && k.isBetweenConsonants)
  linked := (before.consonant && k == .linking) || (before.linked && k.isBetweenConsonants)
  oddFlag := k == .flagLetter && !before.oddFlag

/-- Whether a text is kept together between a context and a character of a class. -/
def ClusterContext.holds (before : ClusterContext) (k : ClusterClass) : Bool :=
  match before.last, k with
  | .carriageReturn, .lineFeed => true
  | .carriageReturn, _ | .lineFeed, _ | .control, _ => false
  | _, .carriageReturn | _, .lineFeed | _, .control => false
  | .leading, .leading | .leading, .vowel | .leading, .openSyllable | .leading, .closedSyllable =>
    true
  | .openSyllable, .vowel | .vowel, .vowel | .openSyllable, .trailing | .vowel, .trailing => true
  | .closedSyllable, .trailing | .trailing, .trailing => true
  | _, .extending | _, .linking | _, .parting | _, .joiner | _, .spacingMark => true
  | .prepended, _ => true
  | _, .consonant => before.linked
  | .joiner, .pictograph => before.joined
  | .flagLetter, .flagLetter => before.oddFlag
  | _, _ => false

/-! ### Clusters -/

/-- Cuts what follows a context; the first of the lists belongs to the cluster that the context
ends. -/
def clustersAfter (before : ClusterContext) : List Char → List Char × List (List Char)
  | [] => ([], [])
  | c :: rest =>
    let (own, others) := clustersAfter (before.after (clusterClass c)) rest
    if before.holds (clusterClass c) then (c :: own, others) else ([], (c :: own) :: others)

/-- The clusters of a text. -/
def clusters : List Char → List (List Char)
  | [] => []
  | c :: rest =>
    let (own, others) := clustersAfter (ClusterContext.none.after (clusterClass c)) rest
    (c :: own) :: others

theorem flatten_clustersAfter (cs : List Char) (before : ClusterContext) :
    (clustersAfter before cs).1 ++ (clustersAfter before cs).2.flatten = cs := by
  induction cs generalizing before with
  | nil => rfl
  | cons c rest ih =>
    have h := ih (before.after (clusterClass c))
    simp only [clustersAfter]
    split <;> simp [h]

/-- The clusters, joined, are the text. -/
theorem flatten_clusters (cs : List Char) : (clusters cs).flatten = cs := by
  cases cs with
  | nil => rfl
  | cons c rest => simp [clusters, flatten_clustersAfter]

/-! ### Backspace -/

/-- The character that takes back the one before it. -/
def backspace : Char := '\x08'

/-- What is kept of a text. -/
structure Kept where
  /-- The characters, the newest first. -/
  text : List Char
  /-- The sizes in bytes of the clusters that may be taken back, the newest first.  A size is held in
  one byte, so of a cluster with 256 bytes or more only a part is taken back. -/
  sizes : List UInt8

/-- A text without its last bytes; the newest character stands first. -/
def dropBytes (n : Nat) : List Char → List Char
  | [] => []
  | c :: cs => if n = 0 then c :: cs else dropBytes (n - c.utf8Size) cs

/-- One cluster more: a backspace takes the last of those kept so far away. -/
def Kept.add (kept : Kept) (cluster : List Char) : Kept :=
  if cluster = [backspace] then
    match kept.sizes with
    | [] => kept
    | size :: rest => ⟨dropBytes size.toNat kept.text, rest⟩
  else
    let size := cluster.foldl (fun n c => n + c.utf8Size) 0
    ⟨cluster.reverse ++ kept.text, UInt8.ofNat size :: kept.sizes⟩

/-- The text that is left when each backspace has taken back the cluster before it. -/
def rubOut (cs : List Char) : List Char := ((clusters cs).foldl Kept.add ⟨[], []⟩).text.reverse

theorem text_foldl_add {l : List (List Char)} (h : [backspace] ∉ l) (kept : Kept) :
    (l.foldl Kept.add kept).text = l.flatten.reverse ++ kept.text := by
  induction l generalizing kept with
  | nil => rfl
  | cons a as ih =>
    have ha : a ≠ [backspace] := fun e => h (e ▸ List.mem_cons_self)
    have has : [backspace] ∉ as := fun e => h (List.mem_cons_of_mem _ e)
    simp [Kept.add, ha, ih has]

/-- Without a backspace nothing is taken back. -/
theorem rubOut_of_not_mem {cs : List Char} (h : backspace ∉ cs) : rubOut cs = cs := by
  have hc : [backspace] ∉ clusters cs := by
    intro hmem
    apply h
    have : backspace ∈ (clusters cs).flatten :=
      List.mem_flatten.2 ⟨_, hmem, List.mem_singleton.2 rfl⟩
    rwa [flatten_clusters] at this
  simp [rubOut, text_foldl_add hc, flatten_clusters]

end LineShell.Text
