import Mathlib.Data.List.Basic

/-!
# UTF-8, as Python's `str.encode` and strict `bytes.decode` compute it

Every body the client reads goes through `response.read().decode("utf-8")`,
and every query key and value goes through `str.encode("utf-8")` inside
`quote_plus`. Python's codec is strict: it accepts a byte below `80` as
itself, and otherwise only a lead byte `C2..F4` followed by the one to three
continuation bytes it announces, with no overlong form, no surrogate and
nothing above `U+10FFFF`; it raises `UnicodeDecodeError` on anything else.

The decoder is a machine that reads one byte at a time. Between characters it
is in `start`; after a lead byte it owes one to three continuation bytes, holds
the bits of the code point read so far, and knows the range the next byte must
fall in, which is narrower than `80..BF` only right after `E0`, `ED`, `F0` and
`F4`. Bytes are natural numbers; the machine refuses every one above `F4`.

## Main results

* `decodeFrom_encodeChar` — decoding the encoding of one character, followed
  by anything, yields that character and continues on the rest.
* `decode_encode` — `s.encode("utf-8").decode("utf-8") == s` for every string.
* `encode_lt`, `encodeChar_ascii`, `space_mem_encode` — the byte-level facts
  the query encoder needs.
-/

namespace HarnessMem.Text

/-! ## Encoding -/

/-- `c.encode("utf-8")`: the code point in one to four bytes. -/
def encodeChar (c : Char) : List Nat :=
  let n := c.toNat
  if n < 0x80 then [n]
  else if n < 0x800 then [0xC0 + n / 0x40, 0x80 + n % 0x40]
  else if n < 0x10000 then [0xE0 + n / 0x1000, 0x80 + n / 0x40 % 0x40, 0x80 + n % 0x40]
  else [0xF0 + n / 0x40000, 0x80 + n / 0x1000 % 0x40, 0x80 + n / 0x40 % 0x40, 0x80 + n % 0x40]

/-- `s.encode("utf-8")` -/
def encode (s : String) : List Nat := s.data.flatMap encodeChar

@[simp] theorem encode_mk_cons (c : Char) (cs : List Char) :
    encode ⟨c :: cs⟩ = encodeChar c ++ encode ⟨cs⟩ := by
  simp [encode]

/-! ## Decoding -/

/-- Where the decoder stands: between characters, or inside one with `need`
continuation bytes owed, the code point bits `acc` read so far, and the range
`lo..hi` the next byte must lie in. -/
inductive DecodeState where
  | start
  | cont (need acc lo hi : Nat)
  deriving DecidableEq, Repr

/-- The state a lead byte `80..FF` opens, or none for a byte that cannot start
a character: a stray continuation byte, `C0`, `C1`, `F5..FF`. After `E0` the
next byte is at least `A0` (no overlong form), after `ED` at most `9F` (no
surrogate), after `F0` at least `90`, and after `F4` at most `8F` (nothing
above `U+10FFFF`). -/
def leadByte (b : Nat) : Option DecodeState :=
  if 0xC2 ≤ b ∧ b ≤ 0xDF then some (.cont 1 (b - 0xC0) 0x80 0xBF)
  else if 0xE0 ≤ b ∧ b ≤ 0xEF then
    some (.cont 2 (b - 0xE0) (if b = 0xE0 then 0xA0 else 0x80) (if b = 0xED then 0x9F else 0xBF))
  else if 0xF0 ≤ b ∧ b ≤ 0xF4 then
    some (.cont 3 (b - 0xF0) (if b = 0xF0 then 0x90 else 0x80) (if b = 0xF4 then 0x8F else 0xBF))
  else none

/-- Run the decoder from a state over the remaining bytes: the characters, or
none where a byte is refused or the input ends inside a character. -/
def decodeFrom : DecodeState → List Nat → Option (List Char)
  | .start, [] => some []
  | .cont .., [] => none
  | .start, b :: bs =>
    if b < 0x80 then (Char.ofNat b :: ·) <$> decodeFrom .start bs
    else
      match leadByte b with
      | some st => decodeFrom st bs
      | none => none
  | .cont need acc lo hi, b :: bs =>
    if lo ≤ b ∧ b ≤ hi then
      if need = 1 then (Char.ofNat (acc * 0x40 + (b - 0x80)) :: ·) <$> decodeFrom .start bs
      else decodeFrom (.cont (need - 1) (acc * 0x40 + (b - 0x80)) 0x80 0xBF) bs
    else none

/-- `bytes.decode("utf-8")`: the text, or none where Python raises
`UnicodeDecodeError`. -/
def decode (bytes : List Nat) : Option String := String.mk <$> decodeFrom .start bytes

/-! ## One step of the decoder at a time -/

section Steps

variable {b acc lo hi : Nat} (bs : List Nat)

theorem leadByte_two (h : 0xC2 ≤ b ∧ b ≤ 0xDF) :
    leadByte b = some (.cont 1 (b - 0xC0) 0x80 0xBF) :=
  if_pos h

theorem leadByte_three (h : 0xE0 ≤ b ∧ b ≤ 0xEF) :
    leadByte b = some (.cont 2 (b - 0xE0)
      (if b = 0xE0 then 0xA0 else 0x80) (if b = 0xED then 0x9F else 0xBF)) := by
  rw [leadByte, if_neg (by omega), if_pos h]

theorem leadByte_four (h : 0xF0 ≤ b ∧ b ≤ 0xF4) :
    leadByte b = some (.cont 3 (b - 0xF0)
      (if b = 0xF0 then 0x90 else 0x80) (if b = 0xF4 then 0x8F else 0xBF)) := by
  rw [leadByte, if_neg (by omega), if_neg (by omega), if_pos h]

theorem decodeFrom_ascii (h : b < 0x80) :
    decodeFrom .start (b :: bs) = (Char.ofNat b :: ·) <$> decodeFrom .start bs := by
  simp [decodeFrom, h]

theorem decodeFrom_lead {st : DecodeState} (h0 : 0x80 ≤ b) (h : leadByte b = some st) :
    decodeFrom .start (b :: bs) = decodeFrom st bs := by
  simp [decodeFrom, h, Nat.not_lt.mpr h0]

theorem decodeFrom_last (h : lo ≤ b ∧ b ≤ hi) :
    decodeFrom (.cont 1 acc lo hi) (b :: bs) =
      (Char.ofNat (acc * 0x40 + (b - 0x80)) :: ·) <$> decodeFrom .start bs := by
  simp [decodeFrom, h]

theorem decodeFrom_more {need : Nat} (h : lo ≤ b ∧ b ≤ hi) :
    decodeFrom (.cont (need + 2) acc lo hi) (b :: bs) =
      decodeFrom (.cont (need + 1) (acc * 0x40 + (b - 0x80)) 0x80 0xBF) bs := by
  simp [decodeFrom, h]

end Steps

/-! ## Decoding inverts encoding -/

/-- A character's code point is a Unicode scalar value: below `D800`, or past
`DFFF` and below `110000`. -/
private theorem toNat_valid (c : Char) :
    c.toNat < 0xD800 ∨ (0xDFFF < c.toNat ∧ c.toNat < 0x110000) := c.valid

private theorem ofNat_eq {c : Char} {m : Nat} (h : m = c.toNat) : Char.ofNat m = c := by
  rw [h, Char.ofNat_toNat]

/-- **Decoding inverts encoding, one character at a time.** The four cases are
the four lengths of `encodeChar`; in each the lead byte opens the state whose
range admits the next byte, and the accumulated bits rebuild the code point. -/
theorem decodeFrom_encodeChar (c : Char) (rest : List Nat) :
    decodeFrom .start (encodeChar c ++ rest) = (c :: ·) <$> decodeFrom .start rest := by
  have hv := toNat_valid c
  by_cases h1 : c.toNat < 0x80
  · simp only [encodeChar, if_pos h1, List.singleton_append]
    rw [decodeFrom_ascii _ h1, Char.ofNat_toNat]
  by_cases h2 : c.toNat < 0x800
  · simp only [encodeChar, if_neg h1, if_pos h2, List.cons_append, List.nil_append]
    rw [decodeFrom_lead _ (by omega) (leadByte_two (by omega)),
      decodeFrom_last _ (by omega), ofNat_eq (c := c) (by omega)]
  by_cases h3 : c.toNat < 0x10000
  · simp only [encodeChar, if_neg h1, if_neg h2, if_pos h3, List.cons_append, List.nil_append]
    rw [decodeFrom_lead _ (by omega) (leadByte_three (by omega)),
      decodeFrom_more _ (by split_ifs <;> omega), decodeFrom_last _ (by omega),
      ofNat_eq (c := c) (by omega)]
  · simp only [encodeChar, if_neg h1, if_neg h2, if_neg h3, List.cons_append, List.nil_append]
    rw [decodeFrom_lead _ (by omega) (leadByte_four (by omega)),
      decodeFrom_more _ (by split_ifs <;> omega), decodeFrom_more _ (by omega),
      decodeFrom_last _ (by omega), ofNat_eq (c := c) (by omega)]

/-- **`s.encode("utf-8").decode("utf-8") == s`** for every string. -/
theorem decode_encode (s : String) : decode (encode s) = some s := by
  obtain ⟨cs⟩ := s
  suffices h : decodeFrom .start (encode ⟨cs⟩) = some cs by simp [decode, h]
  induction cs with
  | nil => rfl
  | cons c cs ih => rw [encode_mk_cons, decodeFrom_encodeChar, ih]; rfl

/-! ## Byte-level facts about the encoding -/

/-- An ASCII character encodes as its own code point. -/
theorem encodeChar_ascii {c : Char} (h : c.toNat < 0x80) : encodeChar c = [c.toNat] := by
  simp [encodeChar, h]

/-- Every byte of an encoding is a byte. -/
theorem encodeChar_lt (c : Char) : ∀ b ∈ encodeChar c, b < 0x100 := by
  have hv := toNat_valid c
  intro b hb
  simp only [encodeChar] at hb
  split_ifs at hb <;> simp at hb <;> omega

theorem encode_lt (s : String) : ∀ b ∈ encode s, b < 0x100 := by
  simp only [encode, List.mem_flatMap]
  rintro b ⟨c, -, hb⟩
  exact encodeChar_lt c b hb

/-- Byte `0x20` occurs in an encoding only as the encoding of `' '` itself:
multi-byte encodings use bytes `80..F4` only. -/
theorem space_mem_encodeChar {c : Char} (h : 0x20 ∈ encodeChar c) : c = ' ' := by
  simp only [encodeChar] at h
  split_ifs at h
  · rw [← Char.ofNat_toNat c, ← List.mem_singleton.mp h]
  all_goals (simp at h; omega)

theorem space_mem_encode {s : String} (h : 0x20 ∈ encode s) : ' ' ∈ s.data := by
  simp only [encode, List.mem_flatMap] at h
  obtain ⟨c, hc, hb⟩ := h
  exact space_mem_encodeChar hb ▸ hc

end HarnessMem.Text
