import HarnessMem.Client.Operations

/-!
# The LangChain adapter

`harness_mem_langchain/adapter.py` talks to the same service without the SDK.
Its own `_request` (lines 9-29) builds the request and returns whatever
`json.loads` gives, and two dataclasses map LangChain's verbs onto it. Against
`HarnessMemClient._request` it differs in three ways:

* only `POST` carries a body, and there is no query;
* a non-empty token also sends `authorization: Bearer <token>`;
* nothing is handled or checked: `HTTPError`, `URLError`, `UnicodeDecodeError`,
  `JSONDecodeError`, urllib's `ValueError` and `http.client`'s exceptions
  propagate as raised, and a parsed body is returned whatever its shape and
  whatever its `ok`.

The verbs then read the response or not. `invoke` and `load_memory_variables`
call `response.get("items", [])`, which raises `AttributeError` on anything
but a dict, and `load_memory_variables` iterates the items and calls `.get` on
each; `save_context` and `clear` drop the response.

`str()` of a value is Python's. No result below depends on its text, so it is
a parameter, as `json.loads` is.

## Main results

* `client_receive_eq_ok_iff` — the SDK's transport is the adapter's followed
  by the validator: it returns a value exactly when the adapter's returns it
  and `validate` lets it through.
* `verb_returns_only_if_parsed` — a verb returns normally only if the reply is
  2xx and its body decodes and parses, to a dict for the verbs that read it.
* `verb_returns_iff` — exactly when each verb returns normally: on every value
  the transport returns that the verb's own code accepts; `ok` is never read.
* `verb_firstRequest` — each verb sends the request of the SDK operation it
  stands for, with the adapter's headers and, for a search, no `debug` item.
* `verb_sends_token_headers`, `requestHeaders_eq_headers` — with a non-empty
  token the request of every verb carries both token headers; the adapter's
  headers are the SDK client's and `authorization` besides.
-/

namespace HarnessMem.Adapter

open HarnessMem.Client (decodeBody parseBody validate upper HarnessMemClient Operation)
open HarnessMem.Text (strip)

/-! ## The transport -/

/-- The header dict of lines 17-20. -/
def requestHeaders (token : Option String) : List (String × String) :=
  [("content-type", "application/json")] ++
    match token with
    | some t =>
      if t = "" then [] else [("x-harness-mem-token", t), ("authorization", "Bearer " ++ t)]
    | none => []

/-- The `Request` of lines 16-26. -/
def buildRequest (baseUrl method path : String) (payload : Option (List (String × Json)))
    (token : Option String) : Request where
  url := baseUrl ++ path
  method := upper method
  data := if upper method = "POST" then some (.obj (payload.getD [])) else none
  headers := requestHeaders token

@[simp] theorem buildRequest_post (baseUrl path : String)
    (payload : Option (List (String × Json))) (token : Option String) :
    buildRequest baseUrl "POST" path payload token =
      ⟨baseUrl ++ path, "POST", some (.obj (payload.getD [])), requestHeaders token⟩ :=
  rfl

section Transport

variable (loads : String → Except String Json)

/-- Lines 27-29: what `urlopen`, `read().decode("utf-8")` and
`json.loads(raw) if raw else {}` leave of the reply. -/
def receive : Reply → Except PyException Json
  | .response body =>
    match decodeBody body with
    | none => .error .unicodeDecodeError
    | some raw =>
      match parseBody loads raw with
      | .ok v => .ok v
      | .error e => .error (.jsonDecodeError e)
  | .httpError code msg _ => .error (.httpError code msg)
  | .networkError message => .error (.urlError message)
  | .refused message => .error (.valueError message)
  | .protocolError name message => .error (.httpException name message)

/-- `_request(base_url, method, path, payload, token)` -/
def request (baseUrl method path : String) (payload : Option (List (String × Json)))
    (token : Option String) : Call Json :=
  .send (buildRequest baseUrl method path payload token) fun reply => .done (receive loads reply)

theorem receive_eq_ok_iff (r : Reply) (v : Json) :
    receive loads r = .ok v ↔
      ∃ body text, r = .response body ∧ decodeBody body = some text ∧
        parseBody loads text = .ok v := by
  constructor
  · intro h
    rcases r with body | _ | _ | _ | _
    · cases hdec : decodeBody body with
      | none => simp [receive, hdec] at h
      | some text =>
        cases hp : parseBody loads text <;> simp [receive, hdec, hp] at h
        exact ⟨body, text, rfl, hdec, h ▸ hp⟩
    all_goals cases h
  · rintro ⟨body, text, rfl, hdec, hp⟩
    simp [receive, hdec, hp]

/-- The SDK's transport, on a reply the adapter's accepts, ends in its
validator on the same value. -/
theorem client_receive_of_receive_ok {r : Reply} {v : Json} (h : receive loads r = .ok v) :
    Client.receive loads r = validate v := by
  obtain ⟨body, text, rfl, hdec, hp⟩ := (receive_eq_ok_iff loads r v).mp h
  simp [Client.receive, hdec, hp]

/-- **The SDK's transport is the adapter's followed by the validator.** It
returns a value exactly when the adapter's transport returns that value and
`validate` lets it through. -/
theorem client_receive_eq_ok_iff (r : Reply) (v : Json) :
    Client.receive loads r = .ok v ↔ receive loads r = .ok v ∧ validate v = .ok v := by
  constructor
  · intro h
    obtain ⟨body, text, rfl, hdec, hp, hv⟩ := Client.receive_eq_ok loads h
    exact ⟨(receive_eq_ok_iff loads _ v).mpr ⟨body, text, rfl, hdec, hp⟩, hv⟩
  · rintro ⟨h, hv⟩
    rw [client_receive_of_receive_ok loads h, hv]

end Transport

/-! ## The verbs -/

/-- The `HarnessMemLangChainRetriever` dataclass. -/
structure HarnessMemLangChainRetriever where
  baseUrl : String := "http://127.0.0.1:37888"
  project : String := "default"
  includePrivate : Bool := false
  token : Option String := none
  deriving Repr, DecidableEq

/-- The `HarnessMemLangChainChatMemory` dataclass. -/
structure HarnessMemLangChainChatMemory where
  baseUrl : String := "http://127.0.0.1:37888"
  project : String := "default"
  sessionId : String := "langchain-session"
  includePrivate : Bool := false
  token : Option String := none
  deriving Repr, DecidableEq

/-- `v.get`, which only a dict has: its items, or the `AttributeError`. -/
def getFields : Json → Except PyException (List (String × Json))
  | .obj fields => .ok fields
  | v => .error (.attributeError ("'" ++ v.typeName ++ "' object has no attribute 'get'"))

/-- What `for item in v` goes through: a list's items, a dict's keys, a
string's characters; anything else raises `TypeError`. -/
def iterItems : Json → Except PyException (List Json)
  | .arr items => .ok items
  | .obj fields => .ok (fields.map fun f => .str f.1)
  | .str s => .ok (s.data.map fun c => .str (String.singleton c))
  | v => .error (.typeError ("'" ++ v.typeName ++ "' object is not iterable"))

/-- Whatever follows a `.get` on the response returns only when the response
is a dict. -/
theorem getFields_bind_isDict {β : Type} {v : Json}
    {f : List (String × Json) → Except PyException β} {w : β} (h : getFields v >>= f = .ok w) :
    v.isDict = true := by
  obtain ⟨fields, hv, -⟩ := except_bind_eq_ok h
  cases v <;> cases hv
  rfl

theorem getFields_eq_ok {v : Json} {fields : List (String × Json)} :
    getFields v = .ok fields ↔ v = .obj fields := by
  cases v <;> simp [getFields]

/-- A `.get` whose result is returned as it is returns exactly on a dict. -/
theorem getFields_bind_pure_ok_iff {β : Type} (v : Json) (f : List (String × Json) → β) :
    (∃ w, (getFields v >>= fun fields => pure (f fields)) = .ok w) ↔ v.isDict = true := by
  cases v <;> simp [getFields, Json.isDict, bind, Except.bind, pure, Except.pure]

section Verbs

variable (loads : String → Except String Json) (str : Json → String)

/-- `invoke(query, limit=5)`: the search, then `response.get("items", [])`. -/
def HarnessMemLangChainRetriever.invoke (self : HarnessMemLangChainRetriever) (query : String)
    (limit : Int := 5) : Call Json :=
  (request loads self.baseUrl "POST" "/v1/search"
      (some [("query", .str query), ("project", .str self.project), ("limit", .int limit),
        ("include_private", .bool self.includePrivate)]) self.token).andThen
    fun response => do
      let fields ← getFields response
      pure (dictGet fields "items" (.arr []))

/-- `get_relevant_documents(query)`: `invoke` with its default limit. -/
def HarnessMemLangChainRetriever.getRelevantDocuments (self : HarnessMemLangChainRetriever)
    (query : String) : Call Json :=
  self.invoke loads query

/-- One line of the history (lines 81-83): `f"{title}: {content}".strip()`. -/
def memoryLine (item : Json) : Except PyException String := do
  let fields ← getFields item
  let title := str ((dictGet fields "title").pyOr ((dictGet fields "type").pyOr (.str "memory")))
  let content := str ((dictGet fields "content").pyOr ((dictGet fields "summary").pyOr (.str "")))
  pure (strip (title ++ ": " ++ content))

/-- `load_memory_variables(inputs)`: the resume pack, its items as lines.
`inputs` is not read. -/
def HarnessMemLangChainChatMemory.loadMemoryVariables (self : HarnessMemLangChainChatMemory)
    (_inputs : List (String × Json)) : Call Json :=
  (request loads self.baseUrl "POST" "/v1/resume-pack"
      (some [("project", .str self.project), ("session_id", .str self.sessionId),
        ("limit", .int 5), ("include_private", .bool self.includePrivate)]) self.token).andThen
    fun response => do
      let fields ← getFields response
      let items ← iterItems (dictGet fields "items" (.arr []))
      let lines ← items.mapM (memoryLine str)
      pure (.obj [("history", .str ("\n".intercalate lines))])

/-- `str(inputs.get("input") or "langchain-input")[:120]` -/
def checkpointTitle (inputs : List (String × Json)) : String :=
  ⟨(str ((dictGet inputs "input").pyOr (.str "langchain-input"))).data.take 120⟩

/-- `str(outputs.get("output") or "")[:4000]` -/
def checkpointContent (outputs : List (String × Json)) : String :=
  ⟨(str ((dictGet outputs "output").pyOr (.str ""))).data.take 4000⟩

/-- `save_context(inputs, outputs)`: a checkpoint of the input and the output;
the response is dropped. -/
def HarnessMemLangChainChatMemory.saveContext (self : HarnessMemLangChainChatMemory)
    (inputs outputs : List (String × Json)) : Call Json :=
  (request loads self.baseUrl "POST" "/v1/checkpoints/record"
      (some [("platform", .str "codex"), ("project", .str self.project),
        ("session_id", .str self.sessionId), ("title", .str (checkpointTitle str inputs)),
        ("content", .str (checkpointContent str outputs)), ("tags", .arr [.str "langchain"]),
        ("privacy_tags", .arr [])]) self.token).andThen
    fun _ => .ok .null

/-- `clear()`: finalize the session; the response is dropped. -/
def HarnessMemLangChainChatMemory.clear (self : HarnessMemLangChainChatMemory) : Call Json :=
  (request loads self.baseUrl "POST" "/v1/sessions/finalize"
      (some [("platform", .str "codex"), ("project", .str self.project),
        ("session_id", .str self.sessionId), ("summary_mode", .str "short")]) self.token).andThen
    fun _ => .ok .null

end Verbs

/-- One adapter verb, with its receiver and arguments. -/
inductive Verb where
  | invoke (self : HarnessMemLangChainRetriever) (query : String) (limit : Int)
  | getRelevantDocuments (self : HarnessMemLangChainRetriever) (query : String)
  | loadMemoryVariables (self : HarnessMemLangChainChatMemory) (inputs : List (String × Json))
  | saveContext (self : HarnessMemLangChainChatMemory) (inputs outputs : List (String × Json))
  | clear (self : HarnessMemLangChainChatMemory)

namespace Verb

/-- The method a verb names, called with its arguments. -/
def call (loads : String → Except String Json) (str : Json → String) : Verb → Call Json
  | .invoke self q l => self.invoke loads q l
  | .getRelevantDocuments self q => self.getRelevantDocuments loads q
  | .loadMemoryVariables self i => self.loadMemoryVariables loads str i
  | .saveContext self i o => self.saveContext loads str i o
  | .clear self => self.clear loads

/-- The receiver's token. -/
def token : Verb → Option String
  | .invoke self .. | .getRelevantDocuments self .. => self.token
  | .loadMemoryVariables self .. | .saveContext self .. | .clear self => self.token

/-- Whether the verb calls `.get` on the response. -/
def readsResponse : Verb → Bool
  | .invoke .. | .getRelevantDocuments .. | .loadMemoryVariables .. => true
  | .saveContext .. | .clear .. => false

/-- The SDK client with the receiver's base URL and token. -/
def sdkClient : Verb → HarnessMemClient
  | .invoke self .. | .getRelevantDocuments self .. => ⟨self.baseUrl, self.token⟩
  | .loadMemoryVariables self .. | .saveContext self .. | .clear self =>
    ⟨self.baseUrl, self.token⟩

/-- The SDK operation a verb stands for: `search`, `resume_pack`,
`record_checkpoint` or `finalize_session`, with the arguments the verb fills in. -/
def sdkOperation (str : Json → String) : Verb → Operation
  | .invoke self q l => .search q (some self.project) (some l) self.includePrivate false
  | .getRelevantDocuments self q => .search q (some self.project) (some 5) self.includePrivate false
  | .loadMemoryVariables self _ =>
    .resumePack self.project (some self.sessionId) (some 5) self.includePrivate
  | .saveContext self i o =>
    .recordCheckpoint self.sessionId (checkpointTitle str i) (checkpointContent str o)
      (some "codex") (some self.project) (some ["langchain"]) (some [])
  | .clear self => .finalizeSession self.sessionId (some "codex") (some self.project) "short"

end Verb

/-- What `for item in items:` followed by `item.get(...)` on each item gets
through: an empty dict or string, or a list of dicts. -/
def ItemsLoadable (items : Json) : Prop :=
  items = .obj [] ∨ items = .str "" ∨ ∃ xs, items = .arr xs ∧ ∀ x ∈ xs, x.isDict = true

/-- The responses on which a verb's own code, after `_request`, returns. -/
def Verb.Accepts : Verb → Json → Prop
  | .invoke .., v | .getRelevantDocuments .., v => v.isDict = true
  | .loadMemoryVariables .., v =>
    ∃ fields, v = .obj fields ∧ ItemsLoadable (dictGet fields "items" (.arr []))
  | .saveContext .., _ | .clear _, _ => True

/-- A payload without its `debug` item, which the adapter's search leaves out. -/
def withoutDebug : Json → Json
  | .obj fields => .obj (fields.filter fun f => f.1 != "debug")
  | v => v

/-! ## What a verb can do -/

section Properties

variable (loads : String → Except String Json) (str : Json → String)

/-- Every verb is one `POST` through `_request`, then a step on the response
that, for a verb that reads the response, returns only on a dict. -/
theorem Verb.call_eq_andThen (verb : Verb) :
    ∃ baseUrl path payload post, verb.call loads str =
      (request loads baseUrl "POST" path (some payload) verb.token).andThen post ∧
      (verb.readsResponse = true → ∀ v w, post v = .ok w → v.isDict = true) := by
  cases verb with
  | invoke self q l => exact ⟨_, _, _, _, rfl, fun _ _ _ h => getFields_bind_isDict h⟩
  | getRelevantDocuments self q =>
    exact ⟨_, _, _, _, rfl, fun _ _ _ h => getFields_bind_isDict h⟩
  | loadMemoryVariables self i =>
    exact ⟨_, _, _, _, rfl, fun _ _ _ h => getFields_bind_isDict h⟩
  | saveContext self i o => exact ⟨_, _, _, _, rfl, nofun⟩
  | clear self => exact ⟨_, _, _, _, rfl, nofun⟩

theorem run_request_andThen {α : Type} (baseUrl method path : String)
    (payload : Option (List (String × Json))) (token : Option String)
    (post : Json → Except PyException α) (r : Reply) :
    ((request loads baseUrl method path payload token).andThen post).run (fun _ => r) =
      receive loads r >>= post := by
  simp [request]

/-- **A verb returns normally only on a 2xx body that decodes and parses**, to
a dict for the verbs that read the response. On such a reply the SDK's
`_request` gets past decoding and parsing to its validator, which is where
it and the adapter part: the adapter has none. -/
theorem verb_returns_only_if_parsed (verb : Verb) (r : Reply) {v : Json}
    (h : (verb.call loads str).run (fun _ => r) = .ok v) :
    ∃ body text parsed, r = .response body ∧ decodeBody body = some text ∧
      parseBody loads text = .ok parsed ∧ Client.receive loads r = validate parsed ∧
      (verb.readsResponse = true → parsed.isDict = true) := by
  obtain ⟨baseUrl, path, payload, post, hcall, hpost⟩ := verb.call_eq_andThen loads str
  rw [hcall, run_request_andThen] at h
  obtain ⟨parsed, hr, hp⟩ := except_bind_eq_ok h
  obtain ⟨body, text, rfl, hdec, hparse⟩ := (receive_eq_ok_iff loads r parsed).mp hr
  exact ⟨body, text, parsed, rfl, hdec, hparse, client_receive_of_receive_ok loads hr,
    fun hv => hpost hv _ _ hp⟩

/-- `invoke` on a 2xx `{"ok": true, "items": []}`: it returns, on a dict. -/
theorem verb_returns_only_if_parsed_invoke :
    ((Verb.invoke {} "q" 5).call Loads.jsonLoads (fun _ => "")).run
        (fun _ => .utf8 "\x7b\"ok\": true, \"items\": []\x7d") = .ok (.arr []) ∧
      ∃ body text parsed, Reply.utf8 "\x7b\"ok\": true, \"items\": []\x7d" = .response body ∧
        decodeBody body = some text ∧ parseBody Loads.jsonLoads text = .ok parsed ∧
        Client.receive Loads.jsonLoads (.utf8 "\x7b\"ok\": true, \"items\": []\x7d") =
          validate parsed ∧
        ((Verb.invoke {} "q" 5).readsResponse = true → parsed.isDict = true) :=
  have h : ((Verb.invoke {} "q" 5).call Loads.jsonLoads (fun _ => "")).run
      (fun _ => .utf8 "\x7b\"ok\": true, \"items\": []\x7d") = .ok (.arr []) := rfl
  ⟨h, verb_returns_only_if_parsed Loads.jsonLoads _ _ _ h⟩

/-- A 2xx `{"ok": false, "error": "x"}`: the SDK raises its API error, while
`invoke` returns an empty list and `clear` returns as if the session had been
finalized. -/
theorem invoke_clear_return_on_okFalse :
    Client.receive Loads.jsonLoads (.utf8 "\x7b\"ok\": false, \"error\": \"x\"\x7d") =
        .error (.harnessMemAPIError 200 "x" (.obj [("ok", .bool false), ("error", .str "x")])) ∧
      (({} : HarnessMemLangChainRetriever).invoke Loads.jsonLoads "q").run
        (fun _ => .utf8 "\x7b\"ok\": false, \"error\": \"x\"\x7d") = .ok (.arr []) ∧
      (({} : HarnessMemLangChainChatMemory).clear Loads.jsonLoads).run
        (fun _ => .utf8 "\x7b\"ok\": false, \"error\": \"x\"\x7d") = .ok .null :=
  ⟨rfl, rfl, rfl⟩

theorem memoryLine_ok_iff (item : Json) :
    (∃ line, memoryLine str item = .ok line) ↔ item.isDict = true :=
  getFields_bind_pure_ok_iff item _

/-- The loop of `load_memory_variables` gets through its items exactly when
every one is a dict. -/
theorem mapM_memoryLine_ok_iff (items : List Json) :
    (∃ lines, items.mapM (memoryLine str) = .ok lines) ↔ ∀ x ∈ items, x.isDict = true := by
  induction items with
  | nil => exact ⟨fun _ => nofun, fun _ => ⟨[], rfl⟩⟩
  | cons x xs ih =>
    simp only [List.mapM_cons, List.forall_mem_cons, except_bind_ok_iff, ← memoryLine_ok_iff str x,
      ← ih, pure, Except.pure, Except.ok.injEq, exists_eq', and_true, exists_and_right]

theorem iterItems_loadable (v : Json) :
    (∃ xs, iterItems v = .ok xs ∧ ∀ x ∈ xs, x.isDict = true) ↔ ItemsLoadable v := by
  cases v with
  | arr xs => simp [iterItems, ItemsLoadable]
  | obj fields => cases fields <;> simp [iterItems, ItemsLoadable, Json.isDict]
  | str s =>
    obtain ⟨cs⟩ := s
    cases cs <;> simp [iterItems, ItemsLoadable, Json.isDict]
    exact fun h => List.cons_ne_nil _ _ (congrArg String.data h)
  | _ => simp [iterItems, ItemsLoadable]

private theorem run_andThen_ok_iff {α : Type} (baseUrl method path : String)
    (payload : Option (List (String × Json))) (token : Option String)
    (post : Json → Except PyException α) (r : Reply) :
    (∃ w, ((request loads baseUrl method path payload token).andThen post).run (fun _ => r) =
        .ok w) ↔ ∃ v, receive loads r = .ok v ∧ ∃ w, post v = .ok w := by
  rw [run_request_andThen, except_bind_ok_iff]

/-- **When each verb returns.** A verb returns normally exactly when the
adapter's transport returns a value its own code accepts: anything for
`save_context` and `clear`, a dict for `invoke` and `get_relevant_documents`,
and for `load_memory_variables` a dict whose `items` is absent, an empty dict
or string, or a list of dicts. None of them reads `ok`. -/
theorem verb_returns_iff (verb : Verb) (r : Reply) :
    (∃ w, (verb.call loads str).run (fun _ => r) = .ok w) ↔
      ∃ v, receive loads r = .ok v ∧ verb.Accepts v := by
  cases verb <;>
    refine (run_andThen_ok_iff loads _ _ _ _ _ _ r).trans
      (exists_congr fun v => and_congr_right fun _ => ?_)
  case invoke | getRelevantDocuments => exact getFields_bind_pure_ok_iff v _
  case saveContext | clear => exact iff_of_true ⟨_, rfl⟩ trivial
  case loadMemoryVariables =>
    simp only [except_bind_ok_iff, getFields_eq_ok, Verb.Accepts, pure, Except.pure,
      Except.ok.injEq, exists_eq', and_true, mapM_memoryLine_ok_iff, iterItems_loadable]

/-- **The adapter sends the SDK's requests.** Each verb sends what the SDK
operation it stands for sends from the same base URL and token, but with the
adapter's headers and, for a search, no `debug` item. -/
theorem verb_firstRequest (verb : Verb) :
    (verb.call loads str).firstRequest =
      (verb.sdkClient.call loads (verb.sdkOperation str)).firstRequest.map fun req =>
        { req with data := req.data.map withoutDebug, headers := requestHeaders verb.token } := by
  cases verb <;>
    simp [Verb.call, Verb.sdkClient, Verb.sdkOperation, Verb.token, HarnessMemClient.call,
      HarnessMemLangChainRetriever.invoke, HarnessMemLangChainRetriever.getRelevantDocuments,
      HarnessMemLangChainChatMemory.loadMemoryVariables, HarnessMemLangChainChatMemory.saveContext,
      HarnessMemLangChainChatMemory.clear, HarnessMemClient.search, HarnessMemClient.resumePack,
      HarnessMemClient.recordCheckpoint, HarnessMemClient.finalizeSession, request,
      HarnessMemClient.request, Client.queryString, withoutDebug, Client.optStr,
      Client.optInt, Client.strList]

/-! ## Headers -/

/-- Every verb sends one request, with the headers of lines 17-20 for the
receiver's token. -/
theorem verb_firstRequest_headers (verb : Verb) :
    ∃ req, (verb.call loads str).firstRequest = some req ∧ req.headers = requestHeaders verb.token := by
  obtain ⟨_, _, _, _, hcall, -⟩ := verb.call_eq_andThen loads str
  rw [hcall, Call.firstRequest_andThen]
  exact ⟨_, rfl, rfl⟩

end Properties

/-- With a non-empty token: the content type and both token headers. -/
theorem requestHeaders_of_token {t : String} (ht : t ≠ "") :
    requestHeaders (some t) = [("content-type", "application/json"), ("x-harness-mem-token", t),
      ("authorization", "Bearer " ++ t)] := by
  simp [requestHeaders, ht]

/-- **Every verb sends both token headers.** With a non-empty token, the
request each verb sends carries the content type, `x-harness-mem-token` and
`authorization: Bearer` with that token, and nothing else. -/
theorem verb_sends_token_headers (loads : String → Except String Json) (str : Json → String)
    {verb : Verb} {t : String} (ht : t ≠ "") (htoken : verb.token = some t) :
    ∃ req, (verb.call loads str).firstRequest = some req ∧
      req.headers = [("content-type", "application/json"), ("x-harness-mem-token", t),
        ("authorization", "Bearer " ++ t)] := by
  obtain ⟨req, hreq, hheaders⟩ := verb_firstRequest_headers loads str verb
  exact ⟨req, hreq, by rw [hheaders, htoken, requestHeaders_of_token ht]⟩

/-- `clear()` with `token="t"`. -/
theorem verb_sends_token_headers_clear :
    ("t" ≠ "" ∧ (Verb.clear { token := some "t" }).token = some "t") ∧
      ∃ req, ((Verb.clear { token := some "t" }).call Loads.jsonLoads (fun _ => "")).firstRequest =
          some req ∧
        req.headers = [("content-type", "application/json"), ("x-harness-mem-token", "t"),
          ("authorization", "Bearer " ++ "t")] :=
  have h : "t" ≠ "" ∧ (Verb.clear { token := some "t" }).token = some "t" := ⟨by decide, rfl⟩
  ⟨h, verb_sends_token_headers Loads.jsonLoads (fun _ => "") h.1 h.2⟩

/-- The adapter's headers are the SDK client's for the same token, and then
`authorization` exactly where the SDK sends `x-harness-mem-token`. -/
theorem requestHeaders_eq_headers (token : Option String) :
    requestHeaders token = ({ token := token } : HarnessMemClient).headers ++
      ((({ token := token } : HarnessMemClient).headers.lookup "x-harness-mem-token").map
        fun t => ("authorization", "Bearer " ++ t)).toList := by
  rcases token with _ | t
  · rfl
  · by_cases ht : t = "" <;>
      simp [requestHeaders, Client.HarnessMemClient.headers, ht, List.lookup_cons]

end HarnessMem.Adapter
