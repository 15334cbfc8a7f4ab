/-
**Reading what was written.**

A text is written as UTF-8 and read back in two places: a program finds its arguments as bytes, and
a line of a script is taken off its input as bytes.  The lossy reading puts U+FFFD for what is
malformed, so it has to be shown that nothing that was written is malformed: neither overlong forms
nor surrogates are ever written, which is what the bounds on the second byte of a sequence shut out.

The proof goes by the length of the sequence that a character is written as.  In each case the lead
byte tells how many bytes follow, and the bits of these give the number of the character.

Main definitions:

* `LineShell.Utf8.continuation` — a byte behind the first of a sequence, by its bits.

Main results:

* `LineShell.Utf8.first_two`, `LineShell.Utf8.first_three`, `LineShell.Utf8.first_four` — a sequence
  of so many bytes is read as the character that its bits number;
* `LineShell.Utf8.exists_first_encode` — **a character is read as it was written**;
* `LineShell.Utf8.decodeLossy_encode`, `LineShell.Utf8.decode?_encode` — so is a text;
* `LineShell.Utf8.mem_encode_iff`, `LineShell.Utf8.exists_concat_of_getLast?` — a byte below 128 is
  written for one character only;
* `LineShell.Utf8.exists_dropLastByte_encodeChars` — so a carriage return at the end of a line is a
  character of it.
-/

import LineShell.Input.Line

set_option autoImplicit false

namespace LineShell.Utf8

/-! ### The bytes of a sequence -/

/-- The continuation byte of six bits. -/
def continuation (bits : Nat) : UInt8 := UInt8.ofNat (bits % 64 + 128)

theorem toNat_ofNat_of_lt {n : Nat} (h : n < 256) : (UInt8.ofNat n).toNat = n := by
  rw [UInt8.toNat_ofNat']
  exact Nat.mod_eq_of_lt h

theorem toNat_continuation (bits : Nat) : (continuation bits).toNat = bits % 64 + 128 :=
  toNat_ofNat_of_lt (by omega)

theorem le_continuation_iff (b : UInt8) (bits : Nat) :
    b ≤ continuation bits ↔ b.toNat ≤ bits % 64 + 128 := by
  rw [UInt8.le_iff_toNat_le, toNat_continuation]

theorem continuation_le_iff (bits : Nat) (b : UInt8) :
    continuation bits ≤ b ↔ bits % 64 + 128 ≤ b.toNat := by
  rw [UInt8.le_iff_toNat_le, toNat_continuation]

@[simp] theorem isContinuation_continuation (bits : Nat) :
    isContinuation (continuation bits) = true := by
  simp only [isContinuation, Bool.and_eq_true, decide_eq_true_eq, le_continuation_iff,
    continuation_le_iff, UInt8.reduceToNat]
  omega

@[simp] theorem payload_continuation (bits : Nat) : payload (continuation bits) = bits % 64 := by
  rw [payload, toNat_continuation]
  omega

theorem tripleTail_continuation (lead : Nat) {low high : UInt8} {second : Nat} (third : Nat)
    (hlow : low ≤ continuation second) (hhigh : continuation second ≤ high) (rest : Bytes) :
    tripleTail lead low high (continuation second :: continuation third :: rest) =
      (some (Char.ofNat ((lead * 64 + second % 64) * 64 + third % 64)), rest) := by
  simp [tripleTail, hlow, hhigh]

theorem quadTail_continuation (lead : Nat) {low high : UInt8} {second : Nat} (third fourth : Nat)
    (hlow : low ≤ continuation second) (hhigh : continuation second ≤ high) (rest : Bytes) :
    quadTail lead low high
        (continuation second :: continuation third :: continuation fourth :: rest) =
      (some (Char.ofNat (((lead * 64 + second % 64) * 64 + third % 64) * 64 + fourth % 64)),
        rest) := by
  have hthird : 0x80 ≤ continuation third ∧ continuation third ≤ 0xBF := by
    simpa [isContinuation] using isContinuation_continuation third
  simp only [quadTail, hlow, hhigh, decide_true, Bool.and_self, if_true, payload_continuation]
  exact tripleTail_continuation _ fourth hthird.1 hthird.2 rest

/-! ### Sequences of one to four bytes -/

section

variable {n : Nat} (rest : Bytes)

theorem first_one (h : n < 128) :
    first (UInt8.ofNat n) rest = (some (Char.ofNat n), rest) := by
  have hlead : (UInt8.ofNat n).toNat = n := toNat_ofNat_of_lt (by omega)
  have hlt : UInt8.ofNat n < 0x80 := by
    rw [UInt8.lt_iff_toNat_lt, hlead]
    exact h
  unfold first
  rw [if_pos hlt, hlead]

theorem first_two (hlow : 128 ≤ n) (hhigh : n < 2048) :
    first (UInt8.ofNat (n / 64 % 32 + 192)) (continuation n :: rest) =
      (some (Char.ofNat n), rest) := by
  have hlead : (UInt8.ofNat (n / 64 % 32 + 192)).toNat = n / 64 + 192 := by
    rw [toNat_ofNat_of_lt (by omega)]
    omega
  have hbits : (n / 64 + 192 - 192) * 64 + n % 64 = n := by omega
  unfold first
  simp only [UInt8.lt_iff_toNat_lt, hlead, UInt8.reduceToNat]
  rw [if_neg (by omega), if_neg (by omega), if_pos (by omega)]
  simp only [isContinuation_continuation, payload_continuation, if_true, hbits]

/-- The second byte of a sequence of three is not so low that two would do, and not that of a
surrogate. -/
theorem first_three (hlow : 2048 ≤ n) (hhigh : n < 65536) (hsurrogate : n < 55296 ∨ 57343 < n) :
    first (UInt8.ofNat (n / 4096 % 16 + 224)) (continuation (n / 64) :: continuation n :: rest) =
      (some (Char.ofNat n), rest) := by
  have hlead : (UInt8.ofNat (n / 4096 % 16 + 224)).toNat = n / 4096 + 224 := by
    rw [toNat_ofNat_of_lt (by omega)]
    omega
  have hbits : ((n / 4096 + 224 - 224) * 64 + n / 64 % 64) * 64 + n % 64 = n := by omega
  unfold first
  simp only [UInt8.lt_iff_toNat_lt, ← UInt8.toNat_inj, hlead, UInt8.reduceToNat]
  rw [if_neg (by omega), if_neg (by omega), if_neg (by omega), if_pos (by omega),
    tripleTail_continuation, hbits]
  · rw [le_continuation_iff]
    split <;> simp only [UInt8.reduceToNat] <;> omega
  · rw [continuation_le_iff]
    split <;> simp only [UInt8.reduceToNat] <;> omega

/-- The second byte of a sequence of four is not so low that three would do, and not so high that
there is no such character. -/
theorem first_four (hlow : 65536 ≤ n) (hhigh : n < 1114112) :
    first (UInt8.ofNat (n / 262144 % 8 + 240))
        (continuation (n / 4096) :: continuation (n / 64) :: continuation n :: rest) =
      (some (Char.ofNat n), rest) := by
  have hlead : (UInt8.ofNat (n / 262144 % 8 + 240)).toNat = n / 262144 + 240 := by
    rw [toNat_ofNat_of_lt (by omega)]
    omega
  have hbits : (((n / 262144 + 240 - 240) * 64 + n / 4096 % 64) * 64 + n / 64 % 64) * 64 + n % 64 =
      n := by omega
  unfold first
  simp only [UInt8.lt_iff_toNat_lt, ← UInt8.toNat_inj, hlead, UInt8.reduceToNat]
  rw [if_neg (by omega), if_neg (by omega), if_neg (by omega), if_neg (by omega),
    if_pos (by omega), quadTail_continuation, hbits]
  · rw [le_continuation_iff]
    split <;> simp only [UInt8.reduceToNat] <;> omega
  · rw [continuation_le_iff]
    split <;> simp only [UInt8.reduceToNat] <;> omega

end

/-! ### Characters and texts -/

/-- **A character is read as it was written.** -/
theorem exists_first_encode (c : Char) (rest : Bytes) :
    ∃ b bs, String.utf8EncodeChar c = b :: bs ∧ first b (bs ++ rest) = (some c, rest) := by
  have hvalid : c.val.toNat < 55296 ∨ (57343 < c.val.toNat ∧ c.val.toNat < 1114112) := c.valid
  have hread : (some (Char.ofNat c.val.toNat), rest) = (some c, rest) := by
    rw [show Char.ofNat c.val.toNat = c from Char.ofNat_toNat c]
  unfold String.utf8EncodeChar
  simp only
  -- one case for each length of a sequence
  split
  · exact ⟨_, _, rfl, (first_one rest (by omega)).trans hread⟩
  split
  · exact ⟨_, _, rfl, (first_two rest (by omega) (by omega)).trans hread⟩
  split
  · exact ⟨_, _, rfl, (first_three rest (by omega) (by omega) (by omega)).trans hread⟩
  · exact ⟨_, _, rfl, (first_four rest (by omega) (by omega)).trans hread⟩

theorem pieces_encodeChars (cs : List Char) : pieces (encodeChars cs) = cs.map some := by
  induction cs with
  | nil => simp
  | cons c cs ih =>
      obtain ⟨b, bs, hwritten, hread⟩ := exists_first_encode c (encodeChars cs)
      rw [encodeChars_cons, hwritten, List.cons_append, pieces_cons, hread, ih]
      rfl

/-- **A text is read as it was written.** -/
theorem decodeLossy_encode (text : String) : decodeLossy (encode text) = text := by
  have hchars : (text.toList.map some).map (·.getD (Char.ofNat 0xFFFD)) = text.toList := by
    rw [List.map_map]
    exact List.map_id _
  rw [decodeLossy, encode, pieces_encodeChars, hchars, String.ofList_toList]

/-- A text is read strictly as it was written. -/
theorem decode?_encode (text : String) : decode? (encode text) = some text := by
  have hall : ∀ cs : List Char, (cs.map some).mapM id = some cs := by
    intro cs
    induction cs with
    | nil => rfl
    | cons c cs ih => simp [ih]
  rw [decode?, encode, pieces_encodeChars, hall, Option.map_some, String.ofList_toList]

/-- Different texts are written differently. -/
theorem eq_of_encode_eq {text text' : String} (h : encode text = encode text') : text = text' := by
  rw [← decodeLossy_encode text, h, decodeLossy_encode]

/-! ### Bytes of one-byte characters -/

/-- A byte below 128 is written for no character but the one of its number. -/
theorem toNat_of_mem_utf8EncodeChar {c : Char} {b : UInt8} (h : b ∈ String.utf8EncodeChar c)
    (hb : b.toNat < 128) : c.val.toNat = b.toNat := by
  have hlead : ∀ {payload modulus lead : Nat}, 0 < modulus → 128 ≤ lead → modulus + lead ≤ 256 →
      b ≠ UInt8.ofNat (payload % modulus + lead) := by
    rintro payload modulus lead hmodulus hlead hbyte rfl
    have hlt : payload % modulus < modulus := Nat.mod_lt _ hmodulus
    rw [toNat_ofNat_of_lt (by omega)] at hb
    omega
  unfold String.utf8EncodeChar at h
  simp only at h
  split at h
  · -- a character of one byte is that byte
    rw [List.mem_singleton.1 h, toNat_ofNat_of_lt (by omega)]
  · -- the bytes of a longer one all carry a lead
    exfalso
    split at h
    · simp only [List.mem_cons, List.not_mem_nil, or_false] at h
      rcases h with h | h <;> exact hlead (by decide) (by decide) (by decide) h
    · split at h <;> simp only [List.mem_cons, List.not_mem_nil, or_false] at h
      · rcases h with h | h | h <;> exact hlead (by decide) (by decide) (by decide) h
      · rcases h with h | h | h | h <;> exact hlead (by decide) (by decide) (by decide) h

theorem eq_ofNat_of_mem_utf8EncodeChar {c : Char} {b : UInt8}
    (h : b ∈ String.utf8EncodeChar c) (hb : b.toNat < 128) : c = Char.ofNat b.toNat := by
  rw [← toNat_of_mem_utf8EncodeChar h hb]
  exact (Char.ofNat_toNat c).symm

theorem utf8EncodeChar_ofNat {n : Nat} (h : n < 128) :
    String.utf8EncodeChar (Char.ofNat n) = [UInt8.ofNat n] := by
  have hvalid : n.isValidChar := .inl (by omega)
  have hval : (Char.ofNat n).val.toNat = n := by
    rw [Char.ofNat, dif_pos hvalid]
    rfl
  unfold String.utf8EncodeChar
  simp only [hval]
  rw [if_pos (by omega)]

/-- **A byte below 128 is written exactly for the character of its number.** -/
theorem mem_encode_iff {n : Nat} (h : n < 128) (text : String) :
    UInt8.ofNat n ∈ encode text ↔ Char.ofNat n ∈ text.toList := by
  have hbyte : (UInt8.ofNat n).toNat = n := toNat_ofNat_of_lt (by omega)
  constructor
  · intro hmem
    obtain ⟨c, hc, hwritten⟩ := List.mem_flatMap.1 hmem
    have hchar := eq_ofNat_of_mem_utf8EncodeChar hwritten (by omega)
    rwa [hchar, hbyte] at hc
  · intro hmem
    refine List.mem_flatMap.2 ⟨Char.ofNat n, hmem, ?_⟩
    rw [utf8EncodeChar_ofNat h]
    exact List.mem_singleton_self _

/-- If the last byte is below 128, it was written for the last character. -/
theorem exists_concat_of_getLast? {cs : List Char} {n : Nat} (h : n < 128)
    (hlast : (encodeChars cs).getLast? = some (UInt8.ofNat n)) :
    ∃ front, cs = front ++ [Char.ofNat n] := by
  have hbyte : (UInt8.ofNat n).toNat = n := toNat_ofNat_of_lt (by omega)
  rcases List.eq_nil_or_concat cs with rfl | ⟨front, c, rfl⟩
  · cases hlast
  obtain ⟨b, bs, hwritten, -⟩ := exists_first_encode c []
  have hmem : UInt8.ofNat n ∈ String.utf8EncodeChar c := by
    rw [List.concat_eq_append, encodeChars_append, encodeChars_cons, encodeChars_nil,
      List.append_nil, hwritten, List.getLast?_append, List.getLast?_cons, Option.some_or,
      ← List.getLast?_cons] at hlast
    rw [hwritten]
    exact List.mem_of_getLast? hlast
  have hchar := eq_ofNat_of_mem_utf8EncodeChar hmem (by omega)
  rw [hbyte] at hchar
  exact ⟨front, by rw [hchar, List.concat_eq_append]⟩

/-! ### The lines of a text -/

theorem lineFeed_mem_encodeChars_iff (cs : List Char) : lineFeed ∈ encodeChars cs ↔ '\n' ∈ cs := by
  have h := @mem_encode_iff 10 (by decide) (String.ofList cs)
  rw [encode, String.toList_ofList] at h
  exact h

/-- A text that begins with a line is written as the line, a line feed and the rest. -/
theorem encodeChars_append_lineFeed (line rest : List Char) :
    encodeChars (line ++ '\n' :: rest) = encodeChars line ++ lineFeed :: encodeChars rest := by
  rw [encodeChars_append, encodeChars_cons]
  rfl

/-- A carriage return at the end of what was written is the last character of the text. -/
theorem exists_dropLastByte_encodeChars (cs : List Char) :
    ∃ front, dropLastByte carriageReturn (encodeChars cs) = encodeChars front ∧
      (cs = front ∧ cs.getLast? ≠ some '\r' ∨ cs = front ++ ['\r']) := by
  by_cases hlast : (encodeChars cs).getLast? = some carriageReturn
  · obtain ⟨front, hfront⟩ := @exists_concat_of_getLast? cs 13 (by decide) hlast
    refine ⟨front, ?_, .inr hfront⟩
    have hbytes : encodeChars cs = encodeChars front ++ [carriageReturn] := by
      rw [hfront, encodeChars_append]
      rfl
    rw [hbytes, dropLastByte_concat]
  · refine ⟨cs, if_neg hlast, .inl ⟨rfl, fun hreturn => hlast ?_⟩⟩
    obtain ⟨front, rfl⟩ := List.getLast?_eq_some_iff.1 hreturn
    rw [encodeChars_append]
    exact List.getLast?_concat

end LineShell.Utf8
