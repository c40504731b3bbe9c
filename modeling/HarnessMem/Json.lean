import Mathlib.Data.List.Basic

/-!
# Python values decoded from JSON

`json.loads` turns a response body into nested Python values: `None`, `bool`,
`int`, `float`, `str`, `list` and `dict`. Everything the client and the
LangChain adapter read from the service, and every payload they hand to
`json.dumps`, is a value of this shape, so the model keeps them in one type.

Two identifications follow Python rather than JSON:

* `None` and JSON's `null` are the same value, `Json.null`. In
  `HarnessMemClient._request` an error body that failed to parse and an error
  body that parsed to `null` both leave `body_json` at `None`; the model does
  not tell them apart either.
* A `dict` is its items in insertion order. `d.get(key)` reads the first item
  with that key, which for a real dict is the only one.

A `float` is kept as its binary64 encoding: Python keeps nothing else of it,
and only truthiness (`±0.0` is false) is ever read from one here.
-/

namespace HarnessMem

/-- A Python value as `json.loads` produces it. -/
inductive Json where
  /-- `None` -/
  | null
  /-- `True` / `False` -/
  | bool (b : Bool)
  /-- an `int` -/
  | int (n : Int)
  /-- a `float`, as its binary64 encoding -/
  | float (bits : UInt64)
  /-- a `str` -/
  | str (s : String)
  /-- a `list` -/
  | arr (items : List Json)
  /-- a `dict`, its items in insertion order -/
  | obj (fields : List (String × Json))
  deriving Repr

namespace Json

mutual
/-- Structural equality of decoded values, so that model runs can be decided. -/
def decEq : (a b : Json) → Decidable (a = b)
  | .null, .null => isTrue rfl
  | .bool a, .bool b =>
    if h : a = b then isTrue (h ▸ rfl) else isFalse fun e => by cases e; exact h rfl
  | .int a, .int b =>
    if h : a = b then isTrue (h ▸ rfl) else isFalse fun e => by cases e; exact h rfl
  | .float a, .float b =>
    if h : a = b then isTrue (h ▸ rfl) else isFalse fun e => by cases e; exact h rfl
  | .str a, .str b =>
    if h : a = b then isTrue (h ▸ rfl) else isFalse fun e => by cases e; exact h rfl
  | .arr a, .arr b =>
    match decEqItems a b with
    | isTrue h => isTrue (h ▸ rfl)
    | isFalse h => isFalse fun e => by cases e; exact h rfl
  | .obj a, .obj b =>
    match decEqFields a b with
    | isTrue h => isTrue (h ▸ rfl)
    | isFalse h => isFalse fun e => by cases e; exact h rfl
  | .null, .bool _ | .null, .int _ | .null, .float _ | .null, .str _ | .null, .arr _
  | .null, .obj _ | .bool _, .null | .bool _, .int _ | .bool _, .float _ | .bool _, .str _
  | .bool _, .arr _ | .bool _, .obj _ | .int _, .null | .int _, .bool _ | .int _, .float _
  | .int _, .str _ | .int _, .arr _ | .int _, .obj _ | .float _, .null | .float _, .bool _
  | .float _, .int _ | .float _, .str _ | .float _, .arr _ | .float _, .obj _
  | .str _, .null | .str _, .bool _ | .str _, .int _ | .str _, .float _ | .str _, .arr _
  | .str _, .obj _ | .arr _, .null | .arr _, .bool _ | .arr _, .int _ | .arr _, .float _
  | .arr _, .str _ | .arr _, .obj _ | .obj _, .null | .obj _, .bool _ | .obj _, .int _
  | .obj _, .float _ | .obj _, .str _ | .obj _, .arr _ => isFalse fun e => by cases e

/-- Equality of item lists, alongside `decEq`. -/
def decEqItems : (a b : List Json) → Decidable (a = b)
  | [], [] => isTrue rfl
  | [], _ :: _ | _ :: _, [] => isFalse fun e => by cases e
  | x :: xs, y :: ys =>
    match decEq x y, decEqItems xs ys with
    | isTrue h, isTrue h' => isTrue (h ▸ h' ▸ rfl)
    | isFalse h, _ => isFalse fun e => by cases e; exact h rfl
    | _, isFalse h => isFalse fun e => by cases e; exact h rfl

/-- Equality of dict items, alongside `decEq`. -/
def decEqFields : (a b : List (String × Json)) → Decidable (a = b)
  | [], [] => isTrue rfl
  | [], _ :: _ | _ :: _, [] => isFalse fun e => by cases e
  | (k, x) :: xs, (l, y) :: ys =>
    if hk : k = l then
      match decEq x y, decEqFields xs ys with
      | isTrue h, isTrue h' => isTrue (hk ▸ h ▸ h' ▸ rfl)
      | isFalse h, _ => isFalse fun e => by cases e; exact h rfl
      | _, isFalse h => isFalse fun e => by cases e; exact h rfl
    else isFalse fun e => by cases e; exact hk rfl
end

instance : DecidableEq Json := decEq

/-- `type(v).__name__`, as Python's error messages print it. -/
def typeName : Json → String
  | .null => "NoneType"
  | .bool _ => "bool"
  | .int _ => "int"
  | .float _ => "float"
  | .str _ => "str"
  | .arr _ => "list"
  | .obj _ => "dict"

/-- Python truthiness: `None`, `False`, zero, and empty strings and containers
are false. A binary64 zero is `0.0` or `-0.0`. -/
def truthy : Json → Bool
  | .null => false
  | .bool b => b
  | .int n => n != 0
  | .float bits => bits &&& 0x7FFFFFFFFFFFFFFF != 0
  | .str s => !s.isEmpty
  | .arr items => !items.isEmpty
  | .obj fields => !fields.isEmpty

/-- `a or b`: `a` when it is truthy, `b` otherwise. -/
def pyOr (a b : Json) : Json := if a.truthy then a else b

/-- `v is False`: only the `False` object itself. JSON `0`, `null` and `""` are
not `False`. -/
def isFalse : Json → Bool
  | .bool false => true
  | _ => false

/-- `isinstance(v, dict)` -/
def isDict : Json → Bool
  | .obj _ => true
  | _ => false

end Json

/-- Equality of results, so that runs of the model can be decided. -/
instance exceptDecidableEq {ε α : Type} [DecidableEq ε] [DecidableEq α] :
    DecidableEq (Except ε α)
  | .ok a, .ok b =>
    if h : a = b then isTrue (h ▸ rfl) else isFalse fun e => by cases e; exact h rfl
  | .error a, .error b =>
    if h : a = b then isTrue (h ▸ rfl) else isFalse fun e => by cases e; exact h rfl
  | .ok _, .error _ | .error _, .ok _ => isFalse fun e => by cases e

/-- `d.get(key, default)` on a dict given by its items. -/
def dictGet (fields : List (String × Json)) (key : String) (default : Json := .null) : Json :=
  (fields.lookup key).getD default

@[simp] theorem dictGet_nil (key : String) (default : Json) : dictGet [] key default = default :=
  rfl

end HarnessMem
