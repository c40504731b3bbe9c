import HarnessMem.Wire
import HarnessMem.Query
import HarnessMem.Text.Chars
import HarnessMem.Json.Loads

/-!
# `HarnessMemClient._request`: the SDK's transport and response validator

Every typed operation of the SDK goes through `_request`, which does two
things:

* it builds one `Request` (lines 47-54): the URL is `base_url + path`, then
  `"?" + urlencode(...)` of the query items whose value is not `None` when a
  non-empty query is given; a `POST`, `PUT` or `PATCH` carries
  `json.dumps(payload or {})`; the headers come from `_headers`;
* it classifies the reply (lines 56-82): a 2xx body is decoded as UTF-8 and
  parsed as JSON (an empty body reads as `{}`), must be a dict, and must not
  have `ok` equal to `False`; an `HTTPError` becomes `HarnessMemAPIError` with
  whatever its body parses to; any other `URLError` or `OSError` becomes
  `HarnessMemTransportError`.

`json.loads` belongs to Python, not to this repository, and every result
below holds for every decoder `loads`: it returns the decoded value or the
text of its `JSONDecodeError`. `HarnessMem.Json.Loads` gives the one Python
has, for running the model on concrete bodies.

The contract these functions are checked against is the classification table
`Table` and the message extraction `extract`, both written from the
specification's words. `receive` refines the table, row by row.

## Main results

* `extractErrorMessage_eq_extract` — the loop of `_extract_error_message`
  computes the contract's precedence `error`, `message`, `detail`.
* `receive_refines_table` — every verdict of the table is the code's verdict.
* `receive_apiError_spec` — every API error has a message with content, and
  comes from an `HTTPError`, with what its body parsed to, or from a 2xx body
  that parsed to a dict whose `ok` is `false`, with that dict.
* `request_url_query` — the query string a request carries decodes to exactly
  the items whose value is not `None`.
-/

namespace HarnessMem.Client

open HarnessMem.Text HarnessMem.Query

/-! ## Configuration and request building -/

/-- The `HarnessMemClient` dataclass. `timeout_sec` only bounds how long the
network may take before it answers `networkError`, so it is not kept. -/
structure HarnessMemClient where
  baseUrl : String := "http://127.0.0.1:37888"
  token : Option String := none
  deriving Repr, DecidableEq

/-- A query value as the typed operations pass them. -/
inductive QueryValue where
  | str (s : String)
  | int (n : Int)
  deriving Repr, DecidableEq

/-- `str(v)` of a query value. -/
def QueryValue.pyStr : QueryValue → String
  | .str s => s
  | .int n => toString n

/-- A query mapping: names to a value or `None`, in insertion order. -/
abbrev Query := List (String × Option QueryValue)

/-- The items `urlencode` receives: the comprehension
`{k: v for k, v in query.items() if v is not None}`, each value by `str`. -/
def present (query : Query) : List (String × String) :=
  query.filterMap fun entry => entry.2.map fun v => (entry.1, v.pyStr)

/-- `f"?{urlencode(...)}" if query else ""`: a query is truthy when non-empty. -/
def queryString : Option Query → String
  | some query => if query = [] then "" else "?" ++ urlencode (present query)
  | none => ""

/-- `_headers()`: always the JSON content type, and the token header when the
token is set and non-empty. -/
def HarnessMemClient.headers (self : HarnessMemClient) : List (String × String) :=
  [("content-type", "application/json")] ++
    match self.token with
    | some t => if t = "" then [] else [("x-harness-mem-token", t)]
    | none => []

/-- The methods `_request` sends a body with. -/
def bodyMethods : List String := ["POST", "PUT", "PATCH"]

/-- `method.upper()`, on ASCII letters: every method the operations pass is
`"GET"` or `"POST"`, on which Python's Unicode case mapping does the same. -/
def upper (method : String) : String := ⟨method.data.map Char.toUpper⟩

/-- The `Request` of lines 47-54. -/
def HarnessMemClient.buildRequest (self : HarnessMemClient) (method path : String)
    (payload : Option (List (String × Json))) (query : Option Query) : Request where
  url := self.baseUrl ++ path ++ queryString query
  method := upper method
  data := if upper method ∈ bodyMethods then some (.obj (payload.getD [])) else none
  headers := self.headers

@[simp] theorem buildRequest_post (self : HarnessMemClient) (path : String)
    (payload : Option (List (String × Json))) (query : Option Query) :
    self.buildRequest "POST" path payload query =
      ⟨self.baseUrl ++ path ++ queryString query, "POST", some (.obj (payload.getD [])),
        self.headers⟩ :=
  rfl

@[simp] theorem buildRequest_get (self : HarnessMemClient) (path : String)
    (payload : Option (List (String × Json))) (query : Option Query) :
    self.buildRequest "GET" path payload query =
      ⟨self.baseUrl ++ path ++ queryString query, "GET", none, self.headers⟩ :=
  rfl

/-! ## Message extraction -/

/-- The keys `_extract_error_message` tries, in order. -/
def messageKeys : List String := ["error", "message", "detail"]

/-- The loop of `_extract_error_message` over the remaining keys: the first
value that is a `str` whose `strip()` is non-empty. -/
def firstMessage (fields : List (String × Json)) (fallback : String) : List String → String
  | [] => fallback
  | key :: keys =>
    match dictGet fields key with
    | .str value => if strip value = "" then firstMessage fields fallback keys else value
    | _ => firstMessage fields fallback keys

/-- `_extract_error_message(payload, fallback)` -/
def extractErrorMessage (payload : Json) (fallback : String) : String :=
  match payload with
  | .obj fields => firstMessage fields fallback messageKeys
  | _ => fallback

/-- The value of the object's member `key` when it is a string with content. -/
def messageAt (fields : List (String × Json)) (key : String) : Option String :=
  match fields.lookup key with
  | some (.str s) => if HasContent s then some s else none
  | _ => none

/-- The message extraction of the contract: given an object, the first of
`error`, `message`, `detail` whose value is a string with content (non-empty
after trimming); the fallback when none is, or when the payload is not an
object. -/
def extract (payload : Json) (fallback : String) : String :=
  match payload with
  | .obj fields => (["error", "message", "detail"].filterMap (messageAt fields)).headD fallback
  | _ => fallback

theorem messageAt_eq (fields : List (String × Json)) (key : String) :
    messageAt fields key =
      match dictGet fields key with
      | .str s => if HasContent s then some s else none
      | _ => none := by
  unfold messageAt dictGet
  rcases fields.lookup key with _ | ⟨_ | _ | _ | _ | _ | _ | _⟩ <;> rfl

theorem firstMessage_eq (fields : List (String × Json)) (fallback : String) (keys : List String) :
    firstMessage fields fallback keys = (keys.filterMap (messageAt fields)).headD fallback := by
  induction keys with
  | nil => rfl
  | cons key keys ih =>
    rw [firstMessage, List.filterMap_cons, messageAt_eq]
    cases h : dictGet fields key with
    | str value =>
      by_cases hs : HasContent value
      · simp [hs, (strip_ne_empty_iff value).mpr hs]
      · have hstrip : strip value = "" := not_not.mp ((strip_ne_empty_iff value).not.mpr hs)
        simp [hs, hstrip, ih]
    | _ => exact ih

/-- **`_extract_error_message` is the contract's extraction.** The `for` loop
with its early `return` tries the keys in the contract's order and keeps a
value exactly when it is a string with content. -/
theorem extractErrorMessage_eq_extract (payload : Json) (fallback : String) :
    extractErrorMessage payload fallback = extract payload fallback := by
  cases payload <;> simp [extractErrorMessage, extract, firstMessage_eq, messageKeys]

/-! ## Classifying the reply -/

/-- `body.decode("utf-8")` -/
def decodeBody (body : List UInt8) : Option String := decode (body.map UInt8.toNat)

/-- A body sent as UTF-8 text decodes to that text. -/
theorem decodeBody_encode (text : String) :
    decodeBody ((encode text).map Nat.toUInt8) = some text := by
  have h : ((encode text).map Nat.toUInt8).map UInt8.toNat = encode text := by
    rw [List.map_map]
    exact (List.map_congr_left fun b hb => UInt8.toNat_ofNat_of_lt (encode_lt text b hb)).trans
      (List.map_id _)
  rw [decodeBody, h, decode_encode]

section Receive

variable (loads : String → Except String Json)

/-- `json.loads(raw) if raw else {}` -/
def parseBody (raw : String) : Except String Json :=
  if raw = "" then .ok (.obj []) else loads raw

/-- Lines 72-82: the parsed value must be a dict whose `ok` is not `False`. -/
def validate (parsed : Json) : Except PyException Json :=
  match parsed with
  | .obj fields =>
    if (dictGet fields "ok").isFalse then
      .error (.harnessMemAPIError 200
        (extractErrorMessage parsed "harness-mem API returned ok=false") parsed)
    else .ok parsed
  | _ => .error (.harnessMemTransportError "API response is not a JSON object")

/-- `body_json` in the `HTTPError` handler: the body read, decoded and parsed,
or `None` when any of the three raises. -/
def errorBody (body : Option (List UInt8)) : Json :=
  match body.bind decodeBody with
  | some text =>
    match loads text with
    | .ok v => v
    | .error _ => .null
  | none => .null

/-- What `_request` makes of the reply (lines 56-82). The `decode("utf-8")` of
a 2xx body sits inside the `try`, but none of the three `except` clauses
catches `UnicodeDecodeError`. Nor do they catch urllib's `ValueError` (raised
by `Request(...)` at line 49, outside the `try`, or by `urlopen`) or an
`http.client.HTTPException` that is not an `OSError`. -/
def receive : Reply → Except PyException Json
  | .response body =>
    match decodeBody body with
    | none => .error .unicodeDecodeError
    | some raw =>
      match parseBody loads raw with
      | .ok parsed => validate parsed
      | .error e => .error (.harnessMemTransportError ("Invalid JSON response: " ++ e))
  | .httpError code msg body =>
    .error (.harnessMemAPIError code
      (extractErrorMessage (errorBody loads body) (httpErrorText code msg)) (errorBody loads body))
  | .networkError message => .error (.harnessMemTransportError message)
  | .refused message => .error (.valueError message)
  | .protocolError name message => .error (.httpException name message)

/-- `_request(method, path, payload, query)`: the `Request` of lines 47-54,
handed to urllib, then `receive` of what urllib answers. -/
def HarnessMemClient.request (self : HarnessMemClient) (method path : String)
    (payload : Option (List (String × Json)) := none) (query : Option Query := none) :
    Call Json :=
  .send (self.buildRequest method path payload query) fun reply => .done (receive loads reply)

/-! ## The contract's classification table -/

/-- What a caller sees of a result: the returned value, or which SDK error was
raised and, for an API error, its three fields. -/
inductive Verdict where
  | returns (value : Json)
  | apiError (statusCode : Nat) (message : String) (responseBody : Json)
  | transportError
  deriving Repr, DecidableEq

/-- The verdict of a result; none for an exception outside the SDK's two. -/
def verdict : Except PyException Json → Option Verdict
  | .ok v => some (.returns v)
  | .error (.harnessMemAPIError c m b) => some (.apiError c m b)
  | .error (.harnessMemTransportError _) => some .transportError
  | .error _ => none

/-- The classification table of the contract, one constructor a row: a reply
and the verdict the contract gives it. -/
inductive Table : Reply → Verdict → Prop where
  /-- A 2xx status with an empty body returns `{}`. -/
  | emptyBody : Table (.response []) (.returns (.obj []))
  /-- A 2xx body whose text is a JSON object whose `ok` member is absent or
  anything but `false` is returned unchanged, unknown fields included. -/
  | envelope {body : List UInt8} {text : String} {fields : List (String × Json)}
      (hdec : decodeBody body = some text) (hne : text ≠ "")
      (hparse : loads text = .ok (.obj fields)) (hok : fields.lookup "ok" ≠ some (.bool false)) :
      Table (.response body) (.returns (.obj fields))
  /-- A 2xx body whose text is a JSON object whose `ok` member is `false` is
  an API error with status 200 and the object as its body. -/
  | okFalse {body : List UInt8} {text : String} {fields : List (String × Json)}
      (hdec : decodeBody body = some text) (hne : text ≠ "")
      (hparse : loads text = .ok (.obj fields)) (hok : fields.lookup "ok" = some (.bool false)) :
      Table (.response body)
        (.apiError 200 (extract (.obj fields) "harness-mem API returned ok=false") (.obj fields))
  /-- A 2xx body whose text is JSON but not an object is a transport error. -/
  | notObject {body : List UInt8} {text : String} {v : Json}
      (hdec : decodeBody body = some text) (hne : text ≠ "")
      (hparse : loads text = .ok v) (hv : v.isDict = false) :
      Table (.response body) .transportError
  /-- A 2xx body with non-empty text that is not JSON is a transport error. -/
  | notJson {body : List UInt8} {text e : String}
      (hdec : decodeBody body = some text) (hne : text ≠ "") (hparse : loads text = .error e) :
      Table (.response body) .transportError
  /-- An `HTTPError` whose body parses to an object is an API error with the
  error's code, the object's message and the object. -/
  | httpErrorObject {code : Nat} {msg text : String} {bytes : List UInt8}
      {fields : List (String × Json)}
      (hdec : decodeBody bytes = some text) (hparse : loads text = .ok (.obj fields)) :
      Table (.httpError code msg (some bytes))
        (.apiError code (extract (.obj fields) (httpErrorText code msg)) (.obj fields))
  /-- An `HTTPError` whose body cannot be read is an API error with `str(exc)`
  and no body. -/
  | httpErrorUnread {code : Nat} {msg : String} :
      Table (.httpError code msg none) (.apiError code (httpErrorText code msg) .null)
  /-- An `HTTPError` whose body is not UTF-8 is an API error with `str(exc)`
  and no body. -/
  | httpErrorUndecoded {code : Nat} {msg : String} {bytes : List UInt8}
      (hdec : decodeBody bytes = none) :
      Table (.httpError code msg (some bytes)) (.apiError code (httpErrorText code msg) .null)
  /-- An `HTTPError` whose body text is not JSON is an API error with
  `str(exc)` and no body. -/
  | httpErrorUnparsed {code : Nat} {msg text e : String} {bytes : List UInt8}
      (hdec : decodeBody bytes = some text) (hparse : loads text = .error e) :
      Table (.httpError code msg (some bytes)) (.apiError code (httpErrorText code msg) .null)
  /-- A `URLError` or `OSError` is a transport error. -/
  | network {message : String} : Table (.networkError message) .transportError

/-! ## The code against the table -/

/-- `ok is False` of the code is the contract's "the `ok` member is `false`". -/
theorem isFalse_dictGet (fields : List (String × Json)) (key : String) :
    (dictGet fields key).isFalse = true ↔ fields.lookup key = some (.bool false) := by
  unfold dictGet
  rcases fields.lookup key with _ | ⟨_ | ⟨_ | _⟩ | _ | _ | _ | _ | _⟩ <;> simp [Json.isFalse]

theorem receive_response {body : List UInt8} {text : String} (hdec : decodeBody body = some text)
    (hne : text ≠ "") :
    receive loads (.response body) =
      match loads text with
      | .ok parsed => validate parsed
      | .error e => .error (.harnessMemTransportError ("Invalid JSON response: " ++ e)) := by
  simp only [receive, hdec, parseBody, if_neg hne]

/-- **`_request` classifies every reply as the contract's table does.** -/
theorem receive_refines_table {r : Reply} {v : Verdict} (h : Table loads r v) :
    verdict (receive loads r) = some v := by
  cases h with
  | emptyBody => rfl
  | envelope hdec hne hparse hok =>
    simp [receive_response loads hdec hne, hparse, validate, isFalse_dictGet, hok, verdict]
  | okFalse hdec hne hparse hok =>
    simp [receive_response loads hdec hne, hparse, validate, isFalse_dictGet, hok, verdict,
      extractErrorMessage_eq_extract]
  | @notObject _ _ w hdec hne hparse hw =>
    rw [receive_response loads hdec hne, hparse]
    cases w <;> simp_all [validate, verdict, Json.isDict]
  | notJson hdec hne hparse => simp [receive_response loads hdec hne, hparse, verdict]
  | httpErrorObject hdec hparse =>
    simp [receive, errorBody, hdec, hparse, verdict, extractErrorMessage_eq_extract]
  | httpErrorUnread => simp [receive, errorBody, verdict, extractErrorMessage]
  | httpErrorUndecoded hdec => simp [receive, errorBody, hdec, verdict, extractErrorMessage]
  | httpErrorUnparsed hdec hparse =>
    simp [receive, errorBody, hdec, hparse, verdict, extractErrorMessage]
  | network => rfl

/-- The row `okFalse` at the body `{"ok": false, "error": "x"}`: an API error
with status 200, the message `"x"`, and the object. -/
theorem receive_refines_table_okFalse :
    Table Loads.jsonLoads (.utf8 "\x7b\"ok\": false, \"error\": \"x\"\x7d")
        (.apiError 200 "x" (.obj [("ok", .bool false), ("error", .str "x")])) ∧
      verdict (receive Loads.jsonLoads (.utf8 "\x7b\"ok\": false, \"error\": \"x\"\x7d")) =
        some (.apiError 200 "x" (.obj [("ok", .bool false), ("error", .str "x")])) :=
  have h : Table Loads.jsonLoads (.utf8 "\x7b\"ok\": false, \"error\": \"x\"\x7d")
      (.apiError 200 "x" (.obj [("ok", .bool false), ("error", .str "x")])) :=
    @Table.okFalse _ _ _ [("ok", .bool false), ("error", .str "x")] (decodeBody_encode _)
      (by decide) (by decide) (by decide)
  ⟨h, receive_refines_table _ h⟩

/-! ## What `_request` returns -/

/-- `validate` returns only its input. -/
theorem validate_eq_ok {parsed v : Json} (h : validate parsed = .ok v) : v = parsed := by
  unfold validate at h
  split at h
  · split at h <;> cases h
    rfl
  · cases h

/-- `_request` returns only a 2xx body that decodes, parses and passes `validate`. -/
theorem receive_eq_ok {r : Reply} {v : Json} (h : receive loads r = .ok v) :
    ∃ body text, r = .response body ∧ decodeBody body = some text ∧
      parseBody loads text = .ok v ∧ validate v = .ok v := by
  rcases r with body | _ | _ | _ | _
  · cases hdec : decodeBody body with
    | none => simp [receive, hdec] at h
    | some text =>
      cases hp : parseBody loads text with
      | error e => simp [receive, hdec, hp] at h
      | ok parsed =>
        simp only [receive, hdec, hp] at h
        obtain rfl := validate_eq_ok h
        exact ⟨body, text, rfl, hdec, hp, h⟩
  all_goals cases h

/-! ## Exceptions the handlers miss -/

/-- A 2xx body with the byte `FF`, which no UTF-8 text contains, makes any
call of `_request` raise `UnicodeDecodeError`: a `ValueError`, not a
`HarnessMemError`. -/
theorem request_invalidUtf8_raises_valueError :
    ((({} : HarnessMemClient).request Loads.jsonLoads "GET" "/health").run fun _ =>
        .response [0xFF]) = .error .unicodeDecodeError ∧
      PyException.unicodeDecodeError.isValueError = true ∧
      PyException.unicodeDecodeError.isHarnessMemError = false :=
  ⟨rfl, rfl, rfl⟩

/-- `HTTPError(400, "Bad Request")` with the body `[]`: an API error whose
`response_body` is a list. -/
theorem receive_httpError_listBody :
    receive Loads.jsonLoads (.httpError 400 "Bad Request" (some [0x5B, 0x5D])) =
      .error (.harnessMemAPIError 400 "HTTP Error 400: Bad Request" (.arr [])) :=
  rfl

/-! ## Where an API error comes from -/

theorem messageAt_hasContent {fields : List (String × Json)} {key m : String}
    (h : messageAt fields key = some m) : HasContent m := by
  rw [messageAt_eq] at h
  split at h
  · split_ifs at h with hs
    cases h
    exact hs
  · cases h

/-- A message taken from a body has content, and so does the fallback. -/
theorem extractErrorMessage_hasContent (payload : Json) {fallback : String}
    (h : HasContent fallback) : HasContent (extractErrorMessage payload fallback) := by
  rw [extractErrorMessage_eq_extract]
  cases payload with
  | obj fields =>
    simp only [extract]
    cases hl : ["error", "message", "detail"].filterMap (messageAt fields) with
    | nil => exact h
    | cons m ms =>
      obtain ⟨key, -, hm⟩ := List.mem_filterMap.mp (hl ▸ List.mem_cons_self m ms)
      exact messageAt_hasContent hm
  | _ => exact h

theorem httpErrorText_hasContent (code : Nat) (msg : String) :
    HasContent (httpErrorText code msg) := by
  refine ⟨'H', ?_, rfl⟩
  simp only [httpErrorText, String.data_append]
  exact List.mem_append_left _ (List.mem_append_left _ (List.mem_append_left _ (by decide)))

/-- The `body_json` of an `HTTPError` is what its body parsed to, or `None`
when the body could not be read, decoded or parsed. -/
theorem errorBody_spec (body : Option (List UInt8)) :
    (∃ bytes text, body = some bytes ∧ decodeBody bytes = some text ∧
        loads text = .ok (errorBody loads body)) ∨
      (errorBody loads body = .null ∧ ∀ bytes text, body = some bytes →
        decodeBody bytes = some text → ∃ e, loads text = .error e) := by
  rcases body with _ | bytes
  · exact .inr ⟨rfl, fun _ _ h => nomatch h⟩
  · cases hdec : decodeBody bytes with
    | none =>
      exact .inr ⟨by simp [errorBody, hdec], fun _ _ h h' => by cases h; cases hdec.symm.trans h'⟩
    | some text =>
      cases hp : loads text with
      | ok v => exact .inl ⟨bytes, text, rfl, hdec, by simp [errorBody, hdec, hp]⟩
      | error e =>
        refine .inr ⟨by simp [errorBody, hdec, hp], fun _ _ h h' => ?_⟩
        cases h
        cases hdec.symm.trans h'
        exact ⟨e, hp⟩

/-- **Every API error says where it comes from, and why.** Its message has a
character other than whitespace. Either an `HTTPError` raised it, with that
error's code, and its body is what the error's body parsed to, or `None` when
that body could not be read, decoded or parsed. Or a 2xx body parsed to an
object whose `ok` member is `false`, and the error has status 200 and that
object as its body. -/
theorem receive_apiError_spec {r : Reply} {c : Nat} {m : String} {b : Json}
    (h : receive loads r = .error (.harnessMemAPIError c m b)) :
    HasContent m ∧
      ((∃ msg body, r = .httpError c msg body ∧
          ((∃ bytes text, body = some bytes ∧ decodeBody bytes = some text ∧ loads text = .ok b) ∨
            (b = .null ∧ ∀ bytes text, body = some bytes → decodeBody bytes = some text →
              ∃ e, loads text = .error e))) ∨
        (c = 200 ∧ ∃ body text fields, r = .response body ∧ decodeBody body = some text ∧
          loads text = .ok b ∧ b = .obj fields ∧ fields.lookup "ok" = some (.bool false))) := by
  rcases r with body | ⟨code, msg, bytes⟩ | _ | _ | _
  · cases hdec : decodeBody body with
    | none => simp [receive, hdec] at h
    | some text =>
      by_cases hne : text = ""
      · subst hne
        simp [receive, hdec, parseBody, validate, Json.isFalse] at h
      rw [receive_response loads hdec hne] at h
      cases hp : loads text with
      | error e => simp [hp] at h
      | ok parsed =>
        simp only [hp, validate] at h
        split at h
        · split_ifs at h with hok
          cases h
          exact ⟨extractErrorMessage_hasContent _ (by decide),
            .inr ⟨rfl, body, text, _, rfl, hdec, hp, rfl, (isFalse_dictGet _ _).mp hok⟩⟩
        · cases h
  · cases h
    exact ⟨extractErrorMessage_hasContent _ (httpErrorText_hasContent _ _),
      .inl ⟨msg, bytes, rfl, errorBody_spec loads bytes⟩⟩
  all_goals cases h

/-- `HTTPError(503, "Service Unavailable")` with no readable body. -/
theorem receive_apiError_spec_unavailable :
    receive Loads.jsonLoads (.httpError 503 "Service Unavailable" none) =
        .error (.harnessMemAPIError 503 "HTTP Error 503: Service Unavailable" .null) ∧
      HasContent "HTTP Error 503: Service Unavailable" ∧
        ((∃ msg body, Reply.httpError 503 "Service Unavailable" none = .httpError 503 msg body ∧
            ((∃ bytes text, body = some bytes ∧ decodeBody bytes = some text ∧
                Loads.jsonLoads text = .ok .null) ∨
              (Json.null = .null ∧ ∀ bytes text, body = some bytes →
                decodeBody bytes = some text → ∃ e, Loads.jsonLoads text = .error e))) ∨
          (503 = 200 ∧ ∃ body text fields,
            Reply.httpError 503 "Service Unavailable" none = .response body ∧
            decodeBody body = some text ∧ Loads.jsonLoads text = .ok .null ∧
            Json.null = .obj fields ∧ fields.lookup "ok" = some (.bool false))) :=
  have h : receive Loads.jsonLoads (.httpError 503 "Service Unavailable" none) =
      .error (.harnessMemAPIError 503 "HTTP Error 503: Service Unavailable" .null) := rfl
  ⟨h, receive_apiError_spec _ h⟩

/-! ## The URL -/

/-- The items the contract expects a query to put on the wire: each entry
whose value is not `None`, as its key and `str(value)`, in insertion order. -/
def expectedItems : Query → List (String × String)
  | [] => []
  | (_, none) :: rest => expectedItems rest
  | (key, some (.str s)) :: rest => (key, s) :: expectedItems rest
  | (key, some (.int n)) :: rest => (key, toString n) :: expectedItems rest

theorem present_eq_expectedItems (query : Query) : present query = expectedItems query := by
  induction query with
  | nil => rfl
  | cons entry rest ih =>
    obtain ⟨key, _ | _ | _⟩ := entry <;> simp [present, expectedItems, QueryValue.pyStr, ← ih]

/-- **The query string decodes to exactly the items whose value is not
`None`.** The request's URL is `base_url + path` and then either nothing, when
no item is expected, or `?` and a query that is the URL's query component and
decodes, pair by pair and in insertion order, to the entries whose value is not
`None`, each as its key and `str(value)`. -/
theorem request_url_query (self : HarnessMemClient) (method path : String)
    (payload : Option (List (String × Json))) (query : Option Query)
    (hbase : '?' ∉ (self.baseUrl ++ path).data ∧ '#' ∉ (self.baseUrl ++ path).data) :
    ∃ req, (self.request loads method path payload query).firstRequest = some req ∧
      ∃ s, req.url = self.baseUrl ++ path ++ s ∧
        ((s = "" ∧ expectedItems (query.getD []) = []) ∨
          ∃ q, s = "?" ++ q ∧ urlQuery req.url = some q ∧
            formDecode q = some (expectedItems (query.getD []))) := by
  refine ⟨_, rfl, queryString query, rfl, ?_⟩
  rcases query with _ | qs
  · exact .inl ⟨rfl, rfl⟩
  · by_cases h : qs = []
    · subst h; exact .inl ⟨rfl, rfl⟩
    · refine .inr ⟨_, if_neg h, ?_, ?_⟩
      · simp only [HarnessMemClient.buildRequest, queryString, if_neg h, ← String.append_assoc]
        exact urlQuery_append _ _ hbase.1 (hash_not_mem_urlencode _)
      · rw [Option.getD_some, ← present_eq_expectedItems]
        exact formDecode_urlencode _

/-- `audit_log(action="a&b=c")` against the default base URL: the URL is
`...?limit=50&action=a%26b%3Dc`, with the `&` and `=` of the value escaped and
`target_type=None` left out, and its query decodes to the two expected items. -/
theorem request_url_query_auditLog :
    (({} : HarnessMemClient).request Loads.jsonLoads "GET" "/v1/admin/audit-log" none
        (some [("limit", some (.int 50)), ("action", some (.str "a&b=c")),
          ("target_type", none)])).firstRequest.map Request.url =
      some "http://127.0.0.1:37888/v1/admin/audit-log?limit=50&action=a%26b%3Dc" ∧
    ('?' ∉ (({} : HarnessMemClient).baseUrl ++ "/v1/admin/audit-log").data ∧
        '#' ∉ (({} : HarnessMemClient).baseUrl ++ "/v1/admin/audit-log").data) ∧
      ∃ req, (({} : HarnessMemClient).request Loads.jsonLoads "GET" "/v1/admin/audit-log" none
          (some [("limit", some (.int 50)), ("action", some (.str "a&b=c")),
            ("target_type", none)])).firstRequest = some req ∧
        ∃ s, req.url = ({} : HarnessMemClient).baseUrl ++ "/v1/admin/audit-log" ++ s ∧
          ((s = "" ∧ expectedItems ((some [("limit", some (.int 50)),
              ("action", some (.str "a&b=c")), ("target_type", none)] : Option Query).getD []) =
                []) ∨
            ∃ q, s = "?" ++ q ∧ urlQuery req.url = some q ∧
              formDecode q = some (expectedItems ((some [("limit", some (.int 50)),
                ("action", some (.str "a&b=c")), ("target_type", none)] : Option Query).getD []))) :=
  have h : '?' ∉ (({} : HarnessMemClient).baseUrl ++ "/v1/admin/audit-log").data ∧
      '#' ∉ (({} : HarnessMemClient).baseUrl ++ "/v1/admin/audit-log").data := by decide
  ⟨by decide, h, request_url_query Loads.jsonLoads {} "GET" "/v1/admin/audit-log" none _ h⟩

end Receive

end HarnessMem.Client
