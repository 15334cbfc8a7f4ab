/-
**Reports as a code.**

What a parent finds in the pipe may be the report that its child sent, and then it means what the
child met with.  But nothing keeps other bytes out of the pipe, nor the report from being cut short.
Whatever is there has to be read without looking for bytes that it does not have, and what it is
taken for has to be said of all bytes: no report, or one of which the report is those bytes again.

The second is true with one exception.  Four bytes can be any number of 32 bits with a sign, and few
of these are the number of an error.  All the others stand for the unknown error, whose number is
zero, so the report of what was understood has zero in their place.

Both sides are compared with a number that is said without them: the four bytes are digits to the
base 256, lowest first, and the word of 32 bits with these digits is taken in two's complement.  The
numbers of errors are those that stand in the table of their names.

Main definitions:

* `LineShell.signedValue` — the number in two's complement that bytes stand for;
* `LineShell.Errno.IsKnown` — zero, or a number that stands in the table of names;
* `LineShell.StartFailure.readByPlaces`, `LineShell.StartFailure.decodeIndexed` — a report read by
  the places of its bytes, without and with the check of its length.

Main results:

* `LineShell.wordBytes_eq_iff` — four bytes are those of a number exactly if they stand for it;
* `LineShell.Errno.number_ofNumber_eq_iff` — the numbers that are kept are the known ones;
* `LineShell.StartFailure.decodeIndexed_eq` — no byte is read that is not there;
* `LineShell.StartFailure.decode_eq_some_iff` — which bytes mean a failure;
* `LineShell.StartFailure.encode_eq_iff` — which bytes are its report;
* `LineShell.StartFailure.report_is_faithful` — **what is sent is understood, and what is understood
  is what was sent**, up to numbers that no error has.
-/

import Mathlib.Data.Nat.Digits.Defs
import LineShell.Launch.Report

set_option autoImplicit false

namespace LineShell

/-! ### Four bytes as a number -/

/-- The number that bytes stand for, lowest first, as a word of 32 bits in two's complement. -/
def signedValue (bytes : Bytes) : Int :=
  (BitVec.ofNat 32 (Nat.ofDigits 256 (bytes.map UInt8.toNat))).toInt

/-- The number of a report is read in two's complement. -/
theorem wordValue_eq_signedValue (a b c d : UInt8) :
    wordValue a b c d = signedValue [a, b, c, d] := by
  have ha := a.toNat_lt
  have hb := b.toNat_lt
  have hc := c.toNat_lt
  have hd := d.toNat_lt
  have hdigits : Nat.ofDigits 256 ([a, b, c, d].map UInt8.toNat) =
      a.toNat + 256 * b.toNat + 65536 * c.toNat + 16777216 * d.toNat := by
    simp only [List.map_cons, List.map_nil, Nat.ofDigits_cons, Nat.ofDigits_nil]
    omega
  have hsmall : a.toNat + 256 * b.toNat + 65536 * c.toNat + 16777216 * d.toNat < 4294967296 := by
    omega
  rw [signedValue, hdigits, BitVec.toInt_eq_toNat_cond, BitVec.toNat_ofNat,
    Nat.mod_eq_of_lt hsmall]
  dsimp only [wordValue]
  split
  · next hlow => rw [if_pos (by omega)]
  · next hhigh =>
    rw [if_neg (by omega)]
    rfl

theorem ofNat_eq_of_mod_eq {n : Nat} {byte : UInt8} (h : n % 256 = byte.toNat) :
    UInt8.ofNat n = byte := by
  apply UInt8.toNat_inj.1
  rw [UInt8.toNat_ofNat']
  exact h

/-- **Four bytes are those of a number exactly if they stand for it.** -/
theorem wordBytes_eq_iff {n : Nat} (hn : n < 2147483648) {bytes : Bytes}
    (hlength : bytes.length = 4) : wordBytes n = bytes ↔ signedValue bytes = n := by
  constructor
  · rintro rfl
    exact (wordValue_eq_signedValue _ _ _ _).symm.trans (wordValue_wordBytes hn)
  · intro h
    match bytes, hlength with
    | [a, b, c, d], _ =>
      have ha := a.toNat_lt
      have hb := b.toNat_lt
      have hc := c.toNat_lt
      have hd := d.toNat_lt
      have hsum : n = a.toNat + 256 * b.toNat + 65536 * c.toNat + 16777216 * d.toNat := by
        rw [← wordValue_eq_signedValue] at h
        dsimp only [wordValue] at h
        split at h
        · exact Int.ofNat_inj.1 h.symm
        · -- what has the sign is below zero
          omega
      rw [wordBytes, ofNat_eq_of_mod_eq (show n % 256 = a.toNat by omega),
        ofNat_eq_of_mod_eq (show n / 256 % 256 = b.toNat by omega),
        ofNat_eq_of_mod_eq (show n / 65536 % 256 = c.toNat by omega),
        ofNat_eq_of_mod_eq (show n / 16777216 % 256 = d.toNat by omega)]

theorem Errno.wordBytes_number_eq_iff (e : Errno) {bytes : Bytes} (hlength : bytes.length = 4) :
    wordBytes e.number = bytes ↔ signedValue bytes = e.number := by
  refine wordBytes_eq_iff ?_ hlength
  have hlt := e.number_lt
  omega

/-! ### Numbers of errors -/

namespace Errno

/-- The numbers in the table of names are those that have a name, each of them once. -/
theorem map_fst_table : table.map (·.1) = (List.range 134).filter isNamed := by decide +kernel

theorem isNamed_iff (n : Nat) : isNamed n = true ↔ ∃ entry ∈ table, entry.1 = n := by
  rw [← List.mem_map, map_fst_table, List.mem_filter, List.mem_range]
  exact ⟨fun h => ⟨Nat.lt_succ_of_le (isNamed_bounds h).2, h⟩, fun h => h.2⟩

/-- A number is known if it is zero or stands in the table of names. -/
def IsKnown (n : Int) : Prop := n = 0 ∨ ∃ entry ∈ table, (entry.1 : Int) = n

instance (n : Int) : Decidable (IsKnown n) :=
  inferInstanceAs (Decidable (n = 0 ∨ ∃ entry ∈ table, (entry.1 : Int) = n))

theorem isKnown_number (e : Errno) : IsKnown e.number := by
  rcases e.named with hzero | hnamed
  · exact .inl (congrArg Int.ofNat hzero)
  · obtain ⟨entry, hmem, hentry⟩ := (isNamed_iff _).1 hnamed
    exact .inr ⟨entry, hmem, congrArg Int.ofNat hentry⟩

/-- **The numbers that are kept are the known ones.** -/
theorem number_ofNumber_eq_iff (n : Int) : ((ofNumber n).number : Int) = n ↔ IsKnown n := by
  constructor
  · intro h
    rw [← h]
    exact isKnown_number _
  · rintro (rfl | ⟨entry, hmem, rfl⟩)
    · rfl
    · have hnamed := (isNamed_iff _).2 ⟨entry, hmem, rfl⟩
      rw [number_ofNumber, Int.toNat_natCast, if_pos hnamed]

theorem number_ofNumber_of_not_isKnown {n : Int} (h : ¬ IsKnown n) : (ofNumber n).number = 0 := by
  rw [number_ofNumber]
  refine if_neg fun hnamed => h ?_
  -- a number below zero has no name, so this one is what it stands in the table as
  have hpos := (isNamed_bounds hnamed).1
  have hkept : (n.toNat : Int) = n := by omega
  obtain ⟨entry, hmem, hentry⟩ := (isNamed_iff _).1 hnamed
  exact .inr ⟨entry, hmem, by rw [hentry, hkept]⟩

end Errno

namespace StartFailure

/-! ### Bytes that are read by their places -/

/-- The byte at a place of a buffer; the failure is a place that the buffer does not have. -/
def byteAt (buffer : Bytes) (place : Nat) : Except Nat UInt8 :=
  match buffer[place]? with
  | some byte => .ok byte
  | none => .error place

/-- What the bytes at the five places of a report mean. -/
def readByPlaces (buffer : Bytes) : Except Nat (Option StartFailure) := do
  let a ← byteAt buffer 1
  let b ← byteAt buffer 2
  let c ← byteAt buffer 3
  let d ← byteAt buffer 4
  let tag ← byteAt buffer 0
  return ofTag tag (Errno.ofNumber (wordValue a b c d))

/-- A report read by its places, if it has its length. -/
def decodeIndexed (buffer : Bytes) : Except Nat (Option StartFailure) :=
  if buffer.length ≠ reportLength then return none else readByPlaces buffer

variable {buffer : Bytes} {failure : StartFailure}

theorem decode_of_length_ne (h : buffer.length ≠ reportLength) : decode buffer = none := by
  unfold decode
  split
  · exact absurd rfl h
  · rfl

/-- **No byte is read that is not there**, whatever the buffer holds. -/
theorem decodeIndexed_eq (buffer : Bytes) : decodeIndexed buffer = .ok (decode buffer) := by
  unfold decodeIndexed
  split
  · next hlength =>
    rw [decode_of_length_ne hlength]
    rfl
  · next hlength =>
    match buffer, not_not.1 hlength with
    | [tag, a, b, c, d], _ => rfl

/-- Without the check of the length the reading of a short buffer would ask for its missing byte. -/
example : readByPlaces [1, 2, 0] = .error 3 := rfl

/-! ### The meaning of a buffer -/

theorem ofTag_eq_some_iff {t : UInt8} {e : Errno} :
    ofTag t e = some failure ↔ t = failure.tag ∧ e = failure.errno := by
  constructor
  · intro h
    unfold ofTag at h
    split at h
    · next htag => cases h; exact ⟨htag, rfl⟩
    · split at h
      · next htag => cases h; exact ⟨htag, rfl⟩
      · split at h
        · next htag => cases h; exact ⟨htag, rfl⟩
        · cases h
  · rintro ⟨rfl, rfl⟩
    exact ofTag_tag failure

theorem exists_ofTag_iff (t : UInt8) (e : Errno) :
    (∃ failure, ofTag t e = some failure) ↔ t = 1 ∨ t = 2 ∨ t = 3 := by
  constructor
  · rintro ⟨failure, h⟩
    obtain ⟨rfl, -⟩ := ofTag_eq_some_iff.1 h
    rcases failure with ⟨_ | _⟩ | _
    · exact .inl rfl
    · exact .inr (.inl rfl)
    · exact .inr (.inr rfl)
  · rintro (rfl | rfl | rfl)
    · exact ⟨.redirection (.opening e), rfl⟩
    · exact ⟨.redirection (.rebinding e), rfl⟩
    · exact ⟨.program e, rfl⟩

/-- The meaning of a buffer that has the length of a report. -/
theorem decode_cons {tag : UInt8} {bytes : Bytes} (h : bytes.length = 4) :
    decode (tag :: bytes) = ofTag tag (Errno.ofNumber (signedValue bytes)) := by
  match bytes, h with
  | [a, b, c, d], _ => rw [← wordValue_eq_signedValue, decode]

/-- **Which bytes mean a failure**: its tag, and four bytes that stand for its error. -/
theorem decode_eq_some_iff : decode buffer = some failure ↔
    ∃ bytes : Bytes, buffer = failure.tag :: bytes ∧ bytes.length = 4 ∧
      Errno.ofNumber (signedValue bytes) = failure.errno := by
  constructor
  · intro h
    have hlength : buffer.length = reportLength := by
      by_contra hne
      rw [decode_of_length_ne hne] at h
      cases h
    match buffer, hlength with
    | tag :: bytes, hlength =>
      have hfour : bytes.length = 4 := Nat.succ.inj hlength
      rw [decode_cons hfour] at h
      obtain ⟨rfl, herrno⟩ := ofTag_eq_some_iff.1 h
      exact ⟨bytes, rfl, hfour, herrno⟩
  · rintro ⟨bytes, rfl, hfour, herrno⟩
    rw [decode_cons hfour, herrno]
    exact ofTag_tag failure

/-- A buffer means some failure exactly if it has the length of a report and the tag of one. -/
theorem exists_decode_iff (buffer : Bytes) :
    (∃ failure, decode buffer = some failure) ↔
      buffer.length = 5 ∧
        (buffer.head? = some 1 ∨ buffer.head? = some 2 ∨ buffer.head? = some 3) := by
  by_cases hlength : buffer.length = 5
  · match buffer, hlength with
    | tag :: bytes, hlength =>
      rw [decode_cons (Nat.succ.inj hlength), exists_ofTag_iff]
      simp only [hlength, List.head?_cons, Option.some.injEq, true_and]
  · rw [decode_of_length_ne hlength]
    simp [hlength]

/-! ### The report of what a buffer means -/

/-- **Which bytes are the report of a failure**: those that mean it and hold a known number. -/
theorem encode_eq_iff : encode failure = buffer ↔
    decode buffer = some failure ∧ Errno.IsKnown (signedValue buffer.tail) := by
  constructor
  · rintro rfl
    have hvalue : signedValue (wordBytes failure.errno.number) = failure.errno.number :=
      (failure.errno.wordBytes_number_eq_iff rfl).1 rfl
    refine ⟨decode_encode failure, ?_⟩
    rw [encode, List.tail_cons, hvalue]
    exact failure.errno.isKnown_number
  · rintro ⟨hdecode, hknown⟩
    obtain ⟨bytes, rfl, hfour, herrno⟩ := decode_eq_some_iff.1 hdecode
    have hnumber := (Errno.number_ofNumber_eq_iff _).2 hknown
    rw [List.tail_cons, herrno] at hnumber
    rw [encode, (failure.errno.wordBytes_number_eq_iff hfour).2 hnumber.symm]

/-- The report of what is understood has zero in the place of a number that is not known. -/
theorem encode_of_not_isKnown (h : decode buffer = some failure)
    (hunknown : ¬ Errno.IsKnown (signedValue buffer.tail)) :
    encode failure = buffer.take 1 ++ [0, 0, 0, 0] := by
  obtain ⟨bytes, rfl, hfour, herrno⟩ := decode_eq_some_iff.1 h
  have hzero := Errno.number_ofNumber_of_not_isKnown hunknown
  rw [List.tail_cons, herrno] at hzero
  rw [encode, hzero]
  rfl

/-- **Reports are a faithful code.**  What a child sends is understood as what it met with, and
whatever the pipe holds is read without looking for a byte that is not there.  It is understood
exactly if it has five bytes and one of the three tags in front; the report of what is understood is
then what the pipe holds, if the four bytes behind the tag are a known number, and otherwise has
zero in their place. -/
theorem report_is_faithful :
    (∀ failure : StartFailure, decode failure.encode = some failure) ∧
      ∀ buffer : Bytes,
        decodeIndexed buffer = .ok (decode buffer) ∧
        ((∃ failure, decode buffer = some failure) ↔
          buffer.length = 5 ∧
            (buffer.head? = some 1 ∨ buffer.head? = some 2 ∨ buffer.head? = some 3)) ∧
        ∀ failure, decode buffer = some failure →
          (Errno.IsKnown (signedValue buffer.tail) → failure.encode = buffer) ∧
          (¬ Errno.IsKnown (signedValue buffer.tail) →
            failure.encode = buffer.take 1 ++ [0, 0, 0, 0]) := by
  refine ⟨decode_encode, fun buffer => ⟨decodeIndexed_eq buffer, exists_decode_iff buffer, ?_⟩⟩
  intro failure hdecode
  exact ⟨fun hknown => encode_eq_iff.2 ⟨hdecode, hknown⟩, encode_of_not_isKnown hdecode⟩

/-- A number below zero whose lowest byte is the number of an error. -/
theorem report_is_faithful_negative :
    let buffer : Bytes := [3, 2, 0, 0, 128]
    decode buffer = some (.program Errno.unknown) ∧
      signedValue buffer.tail = -2147483646 ∧ ¬ Errno.IsKnown (signedValue buffer.tail) ∧
      encode (.program Errno.unknown) = [3, 0, 0, 0, 0] := by
  intro buffer
  have hdecode : decode buffer = some (.program Errno.unknown) := by decide
  have hvalue : signedValue buffer.tail = -2147483646 := by decide +kernel
  have hunknown : ¬ Errno.IsKnown (signedValue buffer.tail) := by
    rw [hvalue]
    decide +kernel
  obtain ⟨-, hbuffers⟩ := report_is_faithful
  obtain ⟨-, -, hreport⟩ := hbuffers buffer
  exact ⟨hdecode, hvalue, hunknown, (hreport _ hdecode).2 hunknown⟩

end StartFailure

end LineShell
