import HarnessMem.Json
import HarnessMem.Text.Chars
import Mathlib.Algebra.Group.Nat.Basic

/-!
# `json.loads`, as Python's scanner computes it

The client and the adapter parse every body with `json.loads`. The theorems
about them hold for any decoder; this module supplies the one Python has, so
that the model runs on concrete bodies.

It follows what Python's `json.loads` does with a `str`, through its scanner
and `JSONDecoder.decode`: a leading BOM is refused, whitespace is
`[ \t\n\r]`, the literals include `NaN`, `Infinity` and `-Infinity`, a number
with neither fraction nor exponent is an `int` and any other is a `float`
rounded to binary64, and a repeated key keeps its first position and its last
value. Failures carry Python's message and the index it points at, and print
as `str(JSONDecodeError)` does.

The scanner reads the remaining characters. Nesting is bounded by a fuel
argument started at twice the text's length plus two: every call either
consumes a character or is the first element scan after a `[`, so the bound is
never reached.

Two limits of the interpreter are outside the model: a `\uXXXX` escape naming a
lone surrogate, which Python keeps as a lone surrogate code point and which no
Lean `String` holds, reads as `U+FFFD`, another character with content; and the
interpreter's recursion limit and `int` digit limit, which raise `RecursionError`
and `ValueError` rather than `JSONDecodeError`, are not modelled.
-/

namespace HarnessMem.Loads

open HarnessMem.Text

/-! ## Numbers -/

/-- The value of a run of decimal digits. -/
def digitsValue (ds : List Char) : Nat :=
  ds.foldl (fun n c => 10 * n + (c.toNat - 0x30)) 0

/-- The decimal digits at the front of the input, and what follows them. -/
def spanDigits (s : List Char) : List Char × List Char := s.span Char.isDigit

/-- The number of binary digits of `n`, `⌊log₂ n⌋ + 1` for positive `n`. The fuel
`n` is never the bound: halving reaches zero first. -/
def bitLength (n : Nat) : Nat := go n n
where
  go : Nat → Nat → Nat
    | 0, _ => 0
    | fuel + 1, m => if m = 0 then 0 else go fuel (m / 2) + 1

/-- The binary64 encoding of `±m · 10^e`, rounded to nearest with ties to even
as `float()` rounds a decimal literal, and infinite past the largest finite
value. `k` is the binary exponent that puts the quotient in `[2^52, 2^53)`, or
`-1074` for a subnormal. -/
def binary64 (neg : Bool) (m : Nat) (e : Int) : UInt64 :=
  let sign : Nat := if neg then 0x8000000000000000 else 0
  if m = 0 then UInt64.ofNat sign
  else if e > 400 then UInt64.ofNat (sign + 0x7FF0000000000000)
  else if e + (bitLength m : Int) < -400 then UInt64.ofNat sign
  else
    let num := m * 10 ^ e.toNat
    let den := 10 ^ (-e).toNat
    let divPow (k : Int) : Nat × Nat × Nat :=
      if 0 ≤ k then (num / (den * 2 ^ k.toNat), num % (den * 2 ^ k.toNat), den * 2 ^ k.toNat)
      else (num * 2 ^ (-k).toNat / den, num * 2 ^ (-k).toNat % den, den)
    let k0 : Int := (bitLength num : Int) - bitLength den - 52
    let k := max (if (divPow k0).1 < 2 ^ 52 then k0 - 1 else k0) (-1074)
    let (q, r, d) := divPow k
    let q := if d < 2 * r ∨ (2 * r = d ∧ q % 2 = 1) then q + 1 else q
    let (q, k) := if q = 2 ^ 53 then (2 ^ 52, k + 1) else (q, k)
    if q < 2 ^ 52 then UInt64.ofNat (sign + q)
    else if 2047 ≤ k + 1075 then UInt64.ofNat (sign + 0x7FF0000000000000)
    else UInt64.ofNat (sign + (k + 1075).toNat * 2 ^ 52 + (q - 2 ^ 52))

example : binary64 false 1 (-1) = 0x3FB999999999999A := by decide

/-- An exponent `[eE][-+]?[0-9]+`, or none (and the input unchanged) when the
`e` is not followed by digits. -/
def scanExponent (s : List Char) : Option Int × List Char :=
  match s with
  | e :: r =>
    if e = 'e' ∨ e = 'E' then
      let (sign, r) : Int × List Char :=
        match r with
        | '+' :: t => (1, t)
        | '-' :: t => (-1, t)
        | t => (1, t)
      match spanDigits r with
      | ([], _) => (none, s)
      | (ds, rest) => (some (sign * digitsValue ds), rest)
    else (none, s)
  | [] => (none, [])

/-- `_match_number_unicode`: `-?(0|[1-9][0-9]*)(\.[0-9]+)?([eE][-+]?[0-9]+)?`.
Without fraction or exponent the literal is an `int`, otherwise a `float`. -/
def scanNumber (s : List Char) : Option (Json × List Char) := do
  let (neg, s) : Bool × List Char :=
    match s with
    | '-' :: r => (true, r)
    | r => (false, r)
  let (whole, s) ← match s with
    | '0' :: r => some (['0'], r)
    | c :: r => if c.isDigit then some (c :: (spanDigits r).1, (spanDigits r).2) else none
    | [] => none
  let (frac, s) : List Char × List Char :=
    match s with
    | '.' :: d :: r => if d.isDigit then (d :: (spanDigits r).1, (spanDigits r).2) else ([], s)
    | _ => ([], s)
  let (exp, s) := scanExponent s
  if frac = [] ∧ exp = none then
    let n : Int := digitsValue whole
    return (.int (if neg then -n else n), s)
  else
    return (.float (binary64 neg (digitsValue (whole ++ frac)) (exp.getD 0 - frac.length)), s)

/-! ## Strings -/

/-- A failure of the scanner: its message and the input left where it points. -/
structure ScanError where
  msg : String
  rest : List Char

/-- Four hex digits as a code unit. -/
def hex4 (a b c d : Char) : Option Nat := do
  return (← hexValue a) * 0x1000 + (← hexValue b) * 0x100 + (← hexValue c) * 0x10 +
    (← hexValue d)

/-- The character a `\uXXXX` escape stands for; a lone surrogate reads as
`U+FFFD`. -/
def unitChar (u : Nat) : Char :=
  if 0xD800 ≤ u ∧ u ≤ 0xDFFF then Char.ofNat 0xFFFD else Char.ofNat u

/-- The character a one-letter escape stands for. -/
def simpleEscape : Char → Option Char
  | '"' => some '"'
  | '\\' => some '\\'
  | '/' => some '/'
  | 'b' => some (Char.ofNat 0x08)
  | 'f' => some (Char.ofNat 0x0C)
  | 'n' => some '\n'
  | 'r' => some '\r'
  | 't' => some '\t'
  | _ => none

/-- `scanstring_unicode` from after the opening quote, strict: the characters
read so far (reversed) and the rest. `begin` is the input at the opening quote,
where an unterminated string is reported. Every step consumes a character, so
fuel of the input's length plus one is never exhausted. -/
def scanString (begin : List Char) : Nat → List Char → List Char →
    Except ScanError (String × List Char)
  | 0, _, _ => .error ⟨"Unterminated string starting at", begin⟩
  | fuel + 1, acc, s =>
    match s with
    | [] | ['\\'] => .error ⟨"Unterminated string starting at", begin⟩
    | '"' :: r => .ok (⟨acc.reverse⟩, r)
    | '\\' :: u@('u' :: a :: b :: c :: d :: tl@('\\' :: 'u' :: e :: f :: g :: h :: r@(_ :: _))) =>
      match hex4 a b c d with
      | none => .error ⟨"Invalid \\uXXXX escape", u⟩
      | some hi =>
        if 0xD800 ≤ hi ∧ hi ≤ 0xDBFF then
          match hex4 e f g h with
          | none => .error ⟨"Invalid \\uXXXX escape", tl.tail⟩
          | some lo =>
            if 0xDC00 ≤ lo ∧ lo ≤ 0xDFFF then
              scanString begin fuel
                (Char.ofNat (0x10000 + (hi - 0xD800) * 0x400 + (lo - 0xDC00)) :: acc) r
            else scanString begin fuel (unitChar hi :: acc) tl
        else scanString begin fuel (unitChar hi :: acc) tl
    | '\\' :: u@('u' :: a :: b :: c :: d :: r@(_ :: _)) =>
      match hex4 a b c d with
      | none => .error ⟨"Invalid \\uXXXX escape", u⟩
      | some unit => scanString begin fuel (unitChar unit :: acc) r
    | '\\' :: u@('u' :: _) => .error ⟨"Invalid \\uXXXX escape", u⟩
    | esc@('\\' :: e :: r) =>
      match simpleEscape e with
      | some c => scanString begin fuel (c :: acc) r
      | none => .error ⟨"Invalid \\escape", esc⟩
    | c :: r =>
      if c.toNat < 0x20 then .error ⟨"Invalid control character at", c :: r⟩
      else scanString begin fuel (c :: acc) r

/-! ## Values -/

/-- `[ \t\n\r]`, the whitespace JSON allows between tokens. -/
def isWs (c : Char) : Bool := c = ' ' || c = '\t' || c = '\n' || c = '\r'

/-- Skip JSON whitespace. -/
def skipWs (s : List Char) : List Char := s.dropWhile isWs

/-- `d[key] = value` on a dict being built: a repeated key keeps its place and
takes the new value. -/
def setItem : List (String × Json) → String → Json → List (String × Json)
  | [], k, v => [(k, v)]
  | (k', v') :: fs, k, v => if k' = k then (k, v) :: fs else (k', v') :: setItem fs k v

/-- The binary64 encodings of `float('nan')`, `float('inf')` and `-float('inf')`. -/
def nanBits : UInt64 := 0x7FF8000000000000
def infBits : UInt64 := 0x7FF0000000000000
def negInfBits : UInt64 := 0xFFF0000000000000

mutual
/-- `scan_once_unicode` at the front of the input: one value and the rest. -/
def scanValue : Nat → List Char → Except ScanError (Json × List Char)
  | 0, s => .error ⟨"Expecting value", s⟩
  | fuel + 1, s =>
    match s with
    | '"' :: r => (scanString s (r.length + 1) [] r).map fun (str, rest) => (.str str, rest)
    | '{' :: r =>
      match skipWs r with
      | '}' :: r => .ok (.obj [], r)
      | r => scanMembers fuel [] r
    | '[' :: r =>
      match skipWs r with
      | ']' :: r => .ok (.arr [], r)
      | r => scanElements fuel [] r
    | 'n' :: 'u' :: 'l' :: 'l' :: r => .ok (.null, r)
    | 't' :: 'r' :: 'u' :: 'e' :: r => .ok (.bool true, r)
    | 'f' :: 'a' :: 'l' :: 's' :: 'e' :: r => .ok (.bool false, r)
    | 'N' :: 'a' :: 'N' :: r => .ok (.float nanBits, r)
    | 'I' :: 'n' :: 'f' :: 'i' :: 'n' :: 'i' :: 't' :: 'y' :: r => .ok (.float infBits, r)
    | '-' :: 'I' :: 'n' :: 'f' :: 'i' :: 'n' :: 'i' :: 't' :: 'y' :: r => .ok (.float negInfBits, r)
    | _ =>
      match scanNumber s with
      | some result => .ok result
      | none => .error ⟨"Expecting value", s⟩

/-- `_parse_array_unicode` from an element: the elements so far (reversed),
then this one and the rest. -/
def scanElements : Nat → List Json → List Char → Except ScanError (Json × List Char)
  | 0, _, s => .error ⟨"Expecting value", s⟩
  | fuel + 1, items, s =>
    match scanValue fuel s with
    | .error e => .error e
    | .ok (v, rest) =>
      match skipWs rest with
      | ']' :: r => .ok (.arr (v :: items).reverse, r)
      | ',' :: r => scanElements fuel (v :: items) (skipWs r)
      | r => .error ⟨"Expecting ',' delimiter", r⟩

/-- `_parse_object_unicode` from a key: the items so far, then `"key": value`
and the rest. -/
def scanMembers :
    Nat → List (String × Json) → List Char → Except ScanError (Json × List Char)
  | 0, _, s => .error ⟨"Expecting value", s⟩
  | fuel + 1, fields, s =>
    match s with
    | '"' :: r =>
      match scanString s (r.length + 1) [] r with
      | .error e => .error e
      | .ok (key, rest) =>
        match skipWs rest with
        | ':' :: r =>
          match scanValue fuel (skipWs r) with
          | .error e => .error e
          | .ok (v, rest) =>
            match skipWs rest with
            | '}' :: r => .ok (.obj (setItem fields key v), r)
            | ',' :: r => scanMembers fuel (setItem fields key v) (skipWs r)
            | r => .error ⟨"Expecting ',' delimiter", r⟩
        | r => .error ⟨"Expecting ':' delimiter", r⟩
    | _ => .error ⟨"Expecting property name enclosed in double quotes", s⟩
end

/-- `str(JSONDecodeError(msg, doc, pos))`:
`"%s: line %d column %d (char %d)"`, where the column counts from the last
newline before `pos`. -/
def errorText (doc : List Char) (e : ScanError) : String :=
  let pos := doc.length - e.rest.length
  let before := doc.take pos
  let colno := match before.reverse.indexOf? '\n' with
    | some i => i + 1
    | none => pos + 1
  e.msg ++ ": line " ++ toString (before.count '\n' + 1) ++ " column " ++ toString colno ++
    " (char " ++ toString pos ++ ")"

/-- `json.loads(s)`: the value, or the text of the `JSONDecodeError`. -/
def jsonLoads (s : String) : Except String Json :=
  let doc := s.data
  if doc.head? = some (Char.ofNat 0xFEFF) then
    .error (errorText doc ⟨"Unexpected UTF-8 BOM (decode using utf-8-sig)", doc⟩)
  else
    match scanValue (2 * doc.length + 2) (skipWs doc) with
    | .error e => .error (errorText doc e)
    | .ok (v, rest) =>
      match skipWs rest with
      | [] => .ok v
      | extra => .error (errorText doc ⟨"Extra data", extra⟩)

example : jsonLoads "\x7b\"ok\": false, \"error\": \"x\"\x7d" =
    .ok (.obj [("ok", .bool false), ("error", .str "x")]) := by decide
example : jsonLoads "\x7b\"a\": 1, \"a\": 2\x7d" = .ok (.obj [("a", .int 2)]) := by decide
example : jsonLoads "[1,\n 2" = .error "Expecting ',' delimiter: line 2 column 3 (char 6)" := by
  decide

end HarnessMem.Loads
