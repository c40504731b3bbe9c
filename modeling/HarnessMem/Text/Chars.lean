import Mathlib.Data.List.DropRight

/-!
# Character classes: Python's whitespace, `str.strip`, hex digits

`_extract_error_message` keeps a field only when `value.strip()` is non-empty,
and `_normalize_ids` keeps an id only when `candidate.strip()` is. Both read
Python's notion of whitespace, `str.isspace`, which is wider than ASCII: it
takes in the information separators `\x1c`–`\x1f`, NEL, NBSP and every Unicode
space separator. `strip` removes it from both ends of a string.

Hex digits of either case are read by the JSON scanner in `\uXXXX` escapes and
by percent-decoding in `%XX`.

## Main results

* `strip_eq_empty_iff` — `s.strip()` is empty exactly when every character of
  `s` is whitespace.
* `strip_ne_empty_iff` — so `s.strip()` is truthy exactly when `s` has
  content, a character that is not whitespace.
-/

namespace HarnessMem.Text

/-- `c.isspace()`: the characters whose bidirectional class is WS, B or S, or
whose general category is Zs. -/
def isSpace (c : Char) : Bool :=
  let n := c.toNat
  (0x09 ≤ n && n ≤ 0x0D) || (0x1C ≤ n && n ≤ 0x20) || n == 0x85 || n == 0xA0 ||
    n == 0x1680 || (0x2000 ≤ n && n ≤ 0x200A) || n == 0x2028 || n == 0x2029 ||
    n == 0x202F || n == 0x205F || n == 0x3000

/-- `s.strip()`: the string without its leading and trailing whitespace. -/
def strip (s : String) : String :=
  ⟨(s.data.dropWhile isSpace).rdropWhile isSpace⟩

/-- `s` has content: a character that is not whitespace. -/
def HasContent (s : String) : Prop := ∃ c ∈ s.data, isSpace c = false

instance (s : String) : Decidable (HasContent s) :=
  inferInstanceAs (Decidable (∃ c ∈ s.data, isSpace c = false))

private theorem rdropWhile_dropWhile_eq_nil_iff (p : Char → Bool) (l : List Char) :
    (l.dropWhile p).rdropWhile p = [] ↔ ∀ c ∈ l, p c := by
  induction l with
  | nil => simp [List.rdropWhile_nil]
  | cons a l ih =>
    cases ha : p a
    · simp [List.dropWhile_cons, ha, List.rdropWhile_eq_nil_iff]
    · simp [List.dropWhile_cons, ha, ih]

theorem strip_eq_empty_iff (s : String) : strip s = "" ↔ ∀ c ∈ s.data, isSpace c := by
  rw [← rdropWhile_dropWhile_eq_nil_iff, strip, String.ext_iff]

theorem strip_ne_empty_iff (s : String) : strip s ≠ "" ↔ HasContent s := by
  simp [strip_eq_empty_iff, HasContent]

/-- The value of a hex digit of either case. -/
def hexValue (c : Char) : Option Nat :=
  let n := c.toNat
  if 0x30 ≤ n ∧ n ≤ 0x39 then some (n - 0x30)
  else if 0x41 ≤ n ∧ n ≤ 0x46 then some (n - 0x37)
  else if 0x61 ≤ n ∧ n ≤ 0x66 then some (n - 0x57)
  else none

end HarnessMem.Text
