import HarnessMem.Text.Utf8
import HarnessMem.Text.Chars

/-!
# Query strings: `urlencode` and form decoding

`HarnessMemClient._request` appends `"?" + urlencode(...)` to the URL when it
is given a non-empty query mapping. `urlencode` writes each item as
`quote_plus(k) + "=" + quote_plus(str(v))` and joins the items with `&`;
`quote_plus` percent-encodes the UTF-8 bytes of its argument, keeps letters,
digits and `_.-~`, and writes a space as `+`.

The second half of the file is the reading side, as a server reads a query:
split on `&`, split each piece at its first `=`, and `unquote_plus` both sides
(`+` is a space, `%XX` is a byte, the bytes are UTF-8). It is written from
that description, not from the client, so that the round trip below says
something about the encoder.

## Main results

* `quotePlus_chars` — `quote_plus` writes only safe characters, `%` and `+`;
  in particular never `&`, `=` or `#`.
* `unquotePlus_quotePlus` — `unquote_plus(quote_plus(s)) == s` for every `s`.
* `formDecode_urlencode` — decoding `urlencode(items)` gives back exactly
  `items`, in order, whatever characters the keys and values hold.
* `urlQuery_append` — a URL with no `?` or `#` before the query has exactly
  that query as its query component.
-/

namespace HarnessMem.Query

open HarnessMem.Text

/-! ## Percent-encoding -/

/-- `_ALWAYS_SAFE`: the bytes `quote` never escapes, letters, digits and
`_.-~`. -/
def alwaysSafe (b : Nat) : Bool :=
  (0x41 ≤ b && b ≤ 0x5A) || (0x61 ≤ b && b ≤ 0x7A) || (0x30 ≤ b && b ≤ 0x39) ||
    b == 0x5F || b == 0x2E || b == 0x2D || b == 0x7E

/-- The upper-case hex digit of `d < 16`, as `'%{:02X}'.format(b)` prints it. -/
def hexDigit (d : Nat) : Char :=
  if d < 10 then Char.ofNat (0x30 + d) else Char.ofNat (0x37 + d)

/-- `_Quoter` on one byte: the byte itself when it is safe, `%XX` otherwise. -/
def quoteByte (safe : List Nat) (b : Nat) : List Char :=
  if alwaysSafe b || safe.contains b then [Char.ofNat b]
  else ['%', hexDigit (b / 16), hexDigit (b % 16)]

/-- `quote_from_bytes(bs, safe)` -/
def quoteFromBytes (safe : List Nat) (bs : List Nat) : List Char :=
  bs.flatMap (quoteByte safe)

/-- `quote(string, safe)`: the UTF-8 bytes of `string`, percent-encoded. -/
def quote (safe : List Nat) (s : String) : List Char :=
  quoteFromBytes safe (encode s)

/-- `quote_plus(string, safe='')`: `quote`, with a space written as `+`. When
the string has a space it is quoted with the space kept safe, then every space
is replaced. -/
def quotePlus (s : String) : List Char :=
  if ' ' ∉ s.data then quote [] s
  else (quote [0x20] s).map fun c => if c = ' ' then '+' else c

/-- One item as `urlencode` writes it: `quote_plus(k) + '=' + quote_plus(v)`. -/
def encodeItem (item : String × String) : List Char :=
  quotePlus item.1 ++ '=' :: quotePlus item.2

/-- `urlencode(items)` for items `(k, str(v))`: the items joined by `&`. -/
def urlencode (items : List (String × String)) : String :=
  ⟨['&'].intercalate (items.map encodeItem)⟩

/-! ## Form decoding -/

/-- Where percent-decoding stands: in plain text, after `%`, or after `%` and
one hex digit. -/
inductive PctState where
  | text
  | percent
  | percentDigit (hi : Nat) (digit : Char)

/-- One character of plain text: `%` opens an escape, anything else stands for
its own UTF-8 bytes. -/
def textStep (c : Char) : List Nat × PctState :=
  if c = '%' then ([], .percent) else (encodeChar c, .text)

/-- One character: the bytes it completes and the next state. A `%` that is not
followed by two hex digits stands for itself. -/
def pctStep : PctState → Char → List Nat × PctState
  | .text, c => textStep c
  | .percent, c =>
    match hexValue c with
    | some h => ([], .percentDigit h c)
    | none => (0x25 :: (textStep c).1, (textStep c).2)
  | .percentDigit h d, c =>
    match hexValue c with
    | some l => ([h * 16 + l], .text)
    | none => (0x25 :: encodeChar d ++ (textStep c).1, (textStep c).2)

/-- An escape left open at the end stands for itself. -/
def pctFlush : PctState → List Nat
  | .text => []
  | .percent => [0x25]
  | .percentDigit _ d => 0x25 :: encodeChar d

/-- Percent-decode the remaining characters from a state into bytes. -/
def unquoteBytesFrom : PctState → List Char → List Nat
  | st, [] => pctFlush st
  | st, c :: cs => (pctStep st c).1 ++ unquoteBytesFrom (pctStep st c).2 cs

/-- `+` is a space in a form-encoded query. -/
def plusToSpace (c : Char) : Char := if c = '+' then ' ' else c

/-- `unquote_plus`, decoding strictly: `+` is a space, `%XX` a byte, and the
bytes must be UTF-8. -/
def unquotePlus (s : List Char) : Option String :=
  decode (unquoteBytesFrom .text (s.map plusToSpace))

/-- Split `key=value` at its first `=`; a piece without `=` is not a pair. -/
def splitPair (piece : List Char) : Option (List Char × List Char) :=
  match piece.span (· != '=') with
  | (k, _ :: v) => some (k, v)
  | (_, []) => none

/-- Read one `key=value` piece, both sides `unquote_plus`-ed. -/
def decodePiece (piece : List Char) : Option (String × String) := do
  let (k, v) ← splitPair piece
  let key ← unquotePlus k
  let value ← unquotePlus v
  return (key, value)

/-- Read a query: `&`-separated `key=value` pieces. The empty query has no
pairs. -/
def formDecode (q : String) : Option (List (String × String)) :=
  if q.data = [] then some [] else (q.data.splitOn '&').mapM decodePiece

/-- The query component of a URL, as a server splits one: what follows the
first `?`, up to a `#`, which starts the fragment. -/
def urlQuery (url : String) : Option String :=
  match url.data.span (· != '?') with
  | (_, _ :: rest) => some ⟨rest.takeWhile (· != '#')⟩
  | (_, []) => none

/-! ## `quote_plus`, one byte at a time -/

/-- `quote_plus` on one byte of the UTF-8 encoding: a space is `+`, any other
byte is written as `quote` writes it. -/
def plusByte (b : Nat) : List Char := if b = 0x20 then ['+'] else quoteByte [] b

private theorem toNat_ofNat_of_lt {b : Nat} (h : b < 0xD800) : (Char.ofNat b).toNat = b := by
  have hv : b.isValidChar := Or.inl h
  simp [Char.ofNat, hv, Char.ofNatAux, Char.toNat, UInt32.toNat]

theorem hexValue_hexDigit : ∀ d < 16, hexValue (hexDigit d) = some d := by decide

theorem alwaysSafe_hexDigit : ∀ d < 16, alwaysSafe (hexDigit d).toNat := by decide

theorem alwaysSafe_lt {b : Nat} (h : alwaysSafe b) : b < 0x80 := by
  simp [alwaysSafe] at h; omega

/-- A safe byte written as a character reads back as that byte. -/
private theorem toNat_ofNat_safe {b : Nat} (h : alwaysSafe b) : (Char.ofNat b).toNat = b :=
  toNat_ofNat_of_lt (by have := alwaysSafe_lt h; omega)

/-- A safe character is none of the characters the query syntax reserves. -/
private theorem alwaysSafe_ne {c : Char} (h : alwaysSafe c.toNat) :
    c ≠ ' ' ∧ c ≠ '+' ∧ c ≠ '%' ∧ c ≠ '&' ∧ c ≠ '=' ∧ c ≠ '#' := by
  refine ⟨?_, ?_, ?_, ?_, ?_, ?_⟩ <;> rintro rfl <;> revert h <;> decide

/-- Every character `quote(..., safe='')` writes for one byte is safe or `%`. -/
theorem quoteByte_chars {b : Nat} (hb : b < 0x100) :
    ∀ c ∈ quoteByte [] b, alwaysSafe c.toNat ∨ c = '%' := by
  intro c hc
  unfold quoteByte at hc
  split_ifs at hc with h1
  · simp only [List.mem_singleton] at hc
    subst hc
    simp only [List.contains_nil, Bool.or_false] at h1
    exact .inl (by rwa [toNat_ofNat_safe h1])
  · simp only [List.mem_cons, List.not_mem_nil, or_false] at hc
    rcases hc with rfl | rfl | rfl
    · exact .inr rfl
    · exact .inl (alwaysSafe_hexDigit _ (by omega))
    · exact .inl (alwaysSafe_hexDigit _ (by omega))

/-- Every character `quote_plus` writes for one byte is safe, `%` or `+`. -/
theorem plusByte_chars {b : Nat} (hb : b < 0x100) :
    ∀ c ∈ plusByte b, alwaysSafe c.toNat ∨ c = '%' ∨ c = '+' := by
  intro c hc
  unfold plusByte at hc
  split_ifs at hc
  · simp_all
  · exact (quoteByte_chars hb c hc).imp_right .inl

/-- The two ways `quote_plus` is computed agree with quoting byte by byte: a
string without a space has no `0x20` byte, and in a string with one the only
spaces `quote` keeps are those bytes. -/
theorem quotePlus_eq_flatMap (s : String) : quotePlus s = (encode s).flatMap plusByte := by
  unfold quotePlus quote quoteFromBytes
  split_ifs with hs
  · rw [List.map_flatMap]
    refine List.flatMap_congr fun b hb => ?_
    by_cases h0 : b = 0x20
    · subst h0; decide
    · have hsame : quoteByte [0x20] b = quoteByte [] b := by simp [quoteByte, h0]
      rw [hsame, plusByte, if_neg h0]
      refine (List.map_congr_left fun c hc => ?_).trans (List.map_id _)
      rcases quoteByte_chars (encode_lt s b hb) c hc with h | rfl
      · simp [(alwaysSafe_ne h).1]
      · rfl
  · refine List.flatMap_congr fun b hb => ?_
    have : b ≠ 0x20 := fun h => hs (space_mem_encode (h ▸ hb))
    simp [plusByte, this]

/-- **`quote_plus` writes only safe characters, `%` and `+`.** -/
theorem quotePlus_chars (s : String) :
    ∀ c ∈ quotePlus s, alwaysSafe c.toNat ∨ c = '%' ∨ c = '+' := by
  rw [quotePlus_eq_flatMap]
  simp only [List.mem_flatMap]
  rintro c ⟨b, hb, hc⟩
  exact plusByte_chars (encode_lt s b hb) c hc

/-- So an encoded key or value never holds a separator of the query syntax. -/
theorem quotePlus_ne {s : String} {c : Char} (hc : c ∈ quotePlus s) :
    c ≠ '&' ∧ c ≠ '=' ∧ c ≠ '#' := by
  rcases quotePlus_chars s c hc with h | rfl | rfl
  · exact ⟨(alwaysSafe_ne h).2.2.2.1, (alwaysSafe_ne h).2.2.2.2.1, (alwaysSafe_ne h).2.2.2.2.2⟩
  · decide
  · decide

/-! ## Decoding inverts `quote_plus` -/

/-- Reading back what `quote_plus` wrote for one byte yields that byte and
leaves the decoder in plain text. -/
theorem unquoteBytesFrom_plusByte {b : Nat} (hb : b < 0x100) (rest : List Char) :
    unquoteBytesFrom .text ((plusByte b).map plusToSpace ++ rest) =
      b :: unquoteBytesFrom .text rest := by
  unfold plusByte quoteByte
  split_ifs with h0 h1
  · subst h0; rfl
  · simp only [List.contains_nil, Bool.or_false] at h1
    have hne := alwaysSafe_ne (c := Char.ofNat b) (by rwa [toNat_ofNat_safe h1])
    simp [plusToSpace, hne.2.1, hne.2.2.1, unquoteBytesFrom, pctStep, textStep,
      encodeChar_ascii, toNat_ofNat_safe h1, alwaysSafe_lt h1]
  · have hhi := alwaysSafe_ne (alwaysSafe_hexDigit (b / 16) (by omega))
    have hlo := alwaysSafe_ne (alwaysSafe_hexDigit (b % 16) (by omega))
    simp [plusToSpace, hhi.2.1, hlo.2.1, unquoteBytesFrom, pctStep, textStep,
      hexValue_hexDigit (b / 16) (by omega), hexValue_hexDigit (b % 16) (by omega)]
    omega

theorem unquoteBytesFrom_flatMap_plusByte (bs : List Nat) (hbs : ∀ b ∈ bs, b < 0x100) :
    unquoteBytesFrom .text ((bs.flatMap plusByte).map plusToSpace) = bs := by
  induction bs with
  | nil => rfl
  | cons b bs ih =>
    rw [List.flatMap_cons, List.map_append, unquoteBytesFrom_plusByte (hbs b (by simp)),
      ih fun b hb => hbs b (by simp [hb])]

/-- **`unquote_plus(quote_plus(s)) == s`** for every string. -/
theorem unquotePlus_quotePlus (s : String) : unquotePlus (quotePlus s) = some s := by
  rw [unquotePlus, quotePlus_eq_flatMap, unquoteBytesFrom_flatMap_plusByte _ (encode_lt s),
    decode_encode]

/-! ## Decoding inverts `urlencode` -/

theorem splitPair_encodeItem (item : String × String) :
    splitPair (encodeItem item) = some (quotePlus item.1, quotePlus item.2) := by
  have hk : ∀ c ∈ quotePlus item.1, (c != '=') = true := fun c hc => by
    simpa using (quotePlus_ne hc).2.1
  simp [splitPair, encodeItem, List.span_eq_take_drop, List.takeWhile_append_of_pos hk,
    List.dropWhile_append_of_pos hk]

theorem decodePiece_encodeItem (item : String × String) :
    decodePiece (encodeItem item) = some item := by
  simp [decodePiece, splitPair_encodeItem, unquotePlus_quotePlus]

private theorem mapM_decodePiece (items : List (String × String)) :
    (items.map encodeItem).mapM decodePiece = some items := by
  induction items with
  | nil => rfl
  | cons item items ih => rw [List.map_cons, List.mapM_cons, decodePiece_encodeItem, ih]; rfl

/-- No encoded item holds the separator `&`. -/
private theorem amp_not_mem_encodeItem (item : String × String) : '&' ∉ encodeItem item := by
  simp only [encodeItem, List.mem_append, List.mem_cons, not_or]
  exact ⟨fun h => (quotePlus_ne h).1 rfl, by decide, fun h => (quotePlus_ne h).1 rfl⟩

/-- **Decoding `urlencode(items)` gives back exactly `items`**, in order: no
key or value, whatever characters it holds, can add, split, merge or alter a
pair. -/
theorem formDecode_urlencode (items : List (String × String)) :
    formDecode (urlencode items) = some items := by
  cases items with
  | nil => rfl
  | cons item items =>
    have hsplit : (['&'].intercalate ((item :: items).map encodeItem)).splitOn '&' =
        (item :: items).map encodeItem :=
      List.splitOn_intercalate _ '&' (fun l hl => by
        obtain ⟨it, -, rfl⟩ := List.mem_map.mp hl
        exact amp_not_mem_encodeItem it) (by simp)
    have hne : (['&'].intercalate ((item :: items).map encodeItem)) ≠ [] := by
      intro h
      have := congrArg (List.splitOn '&') h
      rw [hsplit] at this
      simp [encodeItem] at this
    rw [formDecode, urlencode, if_neg hne, hsplit, mapM_decodePiece]

/-- A character that is neither `&` nor in any item is not in their join. -/
private theorem not_mem_intercalate {c : Char} (hc : c ≠ '&') :
    ∀ ls : List (List Char), (∀ l ∈ ls, c ∉ l) → c ∉ ['&'].intercalate ls
  | [], _ => by simp [List.intercalate]
  | [l], h => by simpa [List.intercalate] using h l (by simp)
  | l :: l' :: ls, h => by
    have ih := not_mem_intercalate hc (l' :: ls) fun x hx => h x (by simp_all)
    simp only [List.intercalate, List.intersperse_cons₂] at ih ⊢
    simp_all

/-- `urlencode` never writes `#`, so no fragment can cut a query short. -/
theorem hash_not_mem_urlencode (items : List (String × String)) :
    '#' ∉ (urlencode items).data := by
  refine not_mem_intercalate (by decide) _ fun l hl => ?_
  obtain ⟨item, -, rfl⟩ := List.mem_map.mp hl
  simp only [encodeItem, List.mem_append, List.mem_cons, not_or]
  exact ⟨fun h => (quotePlus_ne h).2.2 rfl, by decide, fun h => (quotePlus_ne h).2.2 rfl⟩

/-! ## The query component of a URL -/

/-- A URL made of a prefix without `?` or `#`, then `?` and a query without `#`,
has exactly that query as its query component. -/
theorem urlQuery_append (pre q : String) (hpre : '?' ∉ pre.data) (hq : '#' ∉ q.data) :
    urlQuery (pre ++ "?" ++ q) = some q := by
  have hp : ∀ c ∈ pre.data, (c != '?') = true := fun c hc => by
    simpa using fun h : c = '?' => hpre (h ▸ hc)
  have hq' : ∀ c ∈ q.data, (c != '#') = true := fun c hc => by
    simpa using fun h : c = '#' => hq (h ▸ hc)
  simp [urlQuery, List.span_eq_take_drop, List.dropWhile_append_of_pos hp,
    List.takeWhile_eq_self_iff.mpr hq']

end HarnessMem.Query
