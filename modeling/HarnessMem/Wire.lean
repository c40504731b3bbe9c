import HarnessMem.Json
import HarnessMem.Text.Utf8

/-!
# Requests, replies and calls

Both transports in the repository, `HarnessMemClient._request` in the SDK and
`_request` in the LangChain adapter, build one `urllib.request.Request`, hand
it to `urlopen`, and turn what comes back into a value or an exception. This
module fixes the vocabulary they share.

* A `Request` is the record the code builds: URL, method, the JSON value it
  gives `json.dumps` for the body, and the header dict.
* A `Reply` is what urllib makes of it. `Request(...)` or `urlopen` may refuse
  it before anything is sent (`ValueError`). Otherwise the network answers:
  `urlopen` returns (a 2xx status) and `read()` yields bytes; `urlopen` raises
  `HTTPError`, whose own `read()` may fail; it raises another `URLError` /
  `OSError`; or `http.client` raises an `HTTPException` that is not an
  `OSError`. Redirects are followed inside `urlopen`, so a reply is the outcome
  after them.
* A `Call` is an interaction tree: finished with a value or an exception, or
  waiting on the reply to one request. A call that fails before handing a
  request to urllib is `done` from the start, so "no request was built" is a
  statement about the tree and not about a particular server.

Which requests urllib refuses (a URL with no scheme, a header value with a
line break or outside Latin-1) is not computed here: every result below holds
for every reply, the refusal included. The timeout (`timeout_sec`,
`timeout=8`) only decides when the network answers with `networkError`, so it
does not appear in a request.
-/

namespace HarnessMem

/-- The exceptions a call can raise: the SDK's two error classes, and the
built-in ones that escape the SDK's handlers or the adapter, which has none. -/
inductive PyException where
  /-- `HarnessMemTransportError(message)` -/
  | harnessMemTransportError (message : String)
  /-- `HarnessMemAPIError(status_code, message, response_body)`; a body of
  `None` is `Json.null`. -/
  | harnessMemAPIError (statusCode : Nat) (message : String) (responseBody : Json)
  /-- `ValueError(message)`, as `_normalize_ids` raises it, or as urllib
  raises it for a request it refuses -/
  | valueError (message : String)
  /-- `UnicodeDecodeError` from `bytes.decode("utf-8")` -/
  | unicodeDecodeError
  /-- `json.JSONDecodeError`, by the text of the exception -/
  | jsonDecodeError (message : String)
  /-- `urllib.error.HTTPError(code, msg)` raised by `urlopen` -/
  | httpError (code : Nat) (msg : String)
  /-- any other `URLError` / `OSError` raised by `urlopen` or `read()` -/
  | urlError (message : String)
  /-- an `http.client.HTTPException` that is not an `OSError`, by class name
  and text -/
  | httpException (name message : String)
  /-- `AttributeError(message)` -/
  | attributeError (message : String)
  /-- `TypeError(message)` -/
  | typeError (message : String)
  deriving Repr, DecidableEq

namespace PyException

/-- `isinstance(e, HarnessMemError)`: the SDK's own taxonomy. -/
def isHarnessMemError : PyException → Bool
  | .harnessMemTransportError _ | .harnessMemAPIError .. => true
  | _ => false

/-- `isinstance(e, ValueError)`: `UnicodeDecodeError` and `JSONDecodeError` are
subclasses of `ValueError`. -/
def isValueError : PyException → Bool
  | .valueError _ | .unicodeDecodeError | .jsonDecodeError _ => true
  | _ => false

end PyException

/-- The request handed to `urlopen`. `data` is the value serialised by
`json.dumps(...).encode("utf-8")`, or `None` for no body. -/
structure Request where
  url : String
  method : String
  data : Option Json
  headers : List (String × String)
  deriving Repr, DecidableEq

/-- What urllib, and the network behind it, answers to one request. -/
inductive Reply where
  /-- `urlopen` returned, with a 2xx status, and `response.read()` gave these
  bytes. No code reads which 2xx status it was. -/
  | response (body : List UInt8)
  /-- `urlopen` raised `HTTPError(code, msg)`; `exc.read()` gave this body, or
  raised (`none`). -/
  | httpError (code : Nat) (msg : String) (body : Option (List UInt8))
  /-- `urlopen` or `read()` raised another `URLError` / `OSError`: a refused
  connection, a DNS failure, a timeout. The text is `str(exc)`. -/
  | networkError (message : String)
  /-- `Request(...)` or `urlopen` raised `ValueError` before anything was sent:
  `unknown url type` for a URL with no scheme, `Invalid header value` for a
  header with a line break, or a header that does not encode as Latin-1. -/
  | refused (message : String)
  /-- `urlopen` or `read()` raised an `http.client.HTTPException` that is not an
  `OSError`: `IncompleteRead` for a body cut short, `BadStatusLine` for a peer
  that does not answer in HTTP, `InvalidURL` for a port that is not a number. -/
  | protocolError (name message : String)
  deriving Repr, DecidableEq

/-- A 2xx reply whose body is the UTF-8 encoding of `text`. -/
def Reply.utf8 (text : String) : Reply := .response ((Text.encode text).map Nat.toUInt8)

/-- `str(exc)` of an `HTTPError`: `"HTTP Error %s: %s" % (code, msg)`. -/
def httpErrorText (code : Nat) (msg : String) : String :=
  "HTTP Error " ++ toString code ++ ": " ++ msg

/-- A computation that returned a value: its first step returned one, and the
rest returned on it. -/
theorem except_bind_eq_ok {ε α β : Type} {x : Except ε α} {f : α → Except ε β} {b : β}
    (h : x >>= f = .ok b) : ∃ a, x = .ok a ∧ f a = .ok b := by
  cases x with
  | error e => cases h
  | ok a => exact ⟨a, rfl, h⟩

/-- The same, as an equivalence on whether a value is returned. -/
theorem except_bind_ok_iff {ε α β : Type} {x : Except ε α} {f : α → Except ε β} :
    (∃ b, x >>= f = .ok b) ↔ ∃ a, x = .ok a ∧ ∃ b, f a = .ok b := by
  cases x with
  | error e => exact ⟨nofun, nofun⟩
  | ok a => exact ⟨fun h => ⟨a, rfl, h⟩, fun ⟨_, ha, h⟩ => by cases ha; exact h⟩

/-- A call: finished, or waiting on the reply to one request. -/
inductive Call (α : Type) where
  | done (result : Except PyException α)
  | send (request : Request) (resume : Reply → Call α)

namespace Call

variable {α β : Type}

/-- Continue a call with a pure step on its value; an exception propagates. -/
def andThen : Call α → (α → Except PyException β) → Call β
  | .done r, f => .done (r >>= f)
  | .send req k, f => .send req fun reply => (k reply).andThen f

/-- The request a call sends first, if it sends one. -/
def firstRequest : Call α → Option Request
  | .done _ => none
  | .send req _ => some req

@[simp] theorem firstRequest_send (req : Request) (k : Reply → Call α) :
    (Call.send req k).firstRequest = some req := rfl

@[simp] theorem firstRequest_andThen (c : Call α) (f : α → Except PyException β) :
    (c.andThen f).firstRequest = c.firstRequest := by
  cases c <;> rfl

/-- Run a call against a server that answers each request with a reply. -/
def run (server : Request → Reply) : Call α → Except PyException α
  | .done r => r
  | .send req k => (k (server req)).run server

@[simp] theorem run_done (server : Request → Reply) (r : Except PyException α) :
    (Call.done r).run server = r := rfl

@[simp] theorem run_send (server : Request → Reply) (req : Request) (k : Reply → Call α) :
    (Call.send req k).run server = (k (server req)).run server := rfl

@[simp] theorem run_andThen (server : Request → Reply) (c : Call α)
    (f : α → Except PyException β) : (c.andThen f).run server = c.run server >>= f := by
  induction c with
  | done r => rfl
  | send req k ih => exact ih (server req)

end Call

end HarnessMem
