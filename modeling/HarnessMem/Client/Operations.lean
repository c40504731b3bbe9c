import HarnessMem.Client.Request

/-!
# The SDK's eleven operations

Each public method of `HarnessMemClient` (lines 104-267) is one call of
`_request`: a fixed method and path, and a payload or a query built from its
keyword arguments and their defaults. `cast(...)` of the result is the
identity. One method does work of its own first: `get_observations` passes its
`ids` through `_normalize_ids` (lines 93-102), which raises `ValueError` before
any request when no id is left.

An operation together with its arguments is a value of `Operation`, and
`HarnessMemClient.call` dispatches it as the class does.

## Main results

* `normalizeIds_eq` — `_normalize_ids` keeps exactly the candidates that are
  strings with content, in order and unchanged, and raises when there are none.
* `getObservations_spec` — `get_observations` raises `ValueError` with no
  request exactly when no candidate survives, and otherwise sends one `POST`
  whose `ids` are the survivors; a string and the list of that string are the
  same argument.
* `normalizeIds_idem` — the ids `_normalize_ids` returns normalise to
  themselves.
* `call_sends_endpoint` — every operation sends the method and path of its row
  of the service's endpoint table, with a payload whose keys are the row's or,
  for a `GET`, a query whose keys are among the row's.
-/

namespace HarnessMem.Client

open HarnessMem.Text HarnessMem.Query

/-! ## Payload fields -/

/-- An `Optional[str]` argument as a payload field: `None` is `null`. -/
def optStr : Option String → Json
  | some s => .str s
  | none => .null

/-- An `Optional[int]` argument as a payload field. -/
def optInt : Option Int → Json
  | some n => .int n
  | none => .null

/-- `list(tags or [])` of an `Optional[Sequence[str]]` argument. -/
def strList (tags : Option (List String)) : Json := .arr ((tags.getD []).map .str)

/-! ## `_normalize_ids` -/

/-- The `ids` argument of `get_observations`: a `str`, or another finite
iterable, given by the values it yields. Only whether a value is a `str`, and
which one, is ever read. -/
inductive IdsArg where
  | str (s : String)
  | iter (items : List Json)

/-- `candidates`: `[ids]` for a string, `list(ids)` otherwise. -/
def IdsArg.candidates : IdsArg → List Json
  | .str s => [.str s]
  | .iter items => items

/-- The comprehension's filter `isinstance(candidate, str) and candidate.strip()`,
giving the candidate itself when it passes. -/
def idOf : Json → Option String
  | .str s => if strip s = "" then none else some s
  | _ => none

/-- `_normalize_ids(ids)` -/
def normalizeIds (ids : IdsArg) : Except PyException (List String) :=
  let normalized := ids.candidates.filterMap idOf
  if normalized = [] then
    .error (.valueError "ids must contain at least one non-empty observation id")
  else .ok normalized

/-- The ids the contract keeps: of the string itself, or of each element of
the iterable, those that are strings with a character other than whitespace,
in order and unchanged. -/
def validIds : IdsArg → List String
  | .str s => if HasContent s then [s] else []
  | .iter items => items.filterMap fun c =>
    match c with
    | .str s => if HasContent s then some s else none
    | _ => none

theorem idOf_str (s : String) : idOf (.str s) = if HasContent s then some s else none := by
  by_cases h : HasContent s
  · simp [idOf, h, (strip_ne_empty_iff s).mpr h]
  · simp [idOf, h, not_not.mp ((strip_ne_empty_iff s).not.mpr h)]

theorem filterMap_idOf (ids : IdsArg) : ids.candidates.filterMap idOf = validIds ids := by
  cases ids with
  | str s => by_cases h : HasContent s <;> simp [IdsArg.candidates, validIds, idOf_str, h]
  | iter items =>
    refine List.filterMap_congr fun c _ => ?_
    cases c <;> first | exact idOf_str _ | rfl

theorem normalizeIds_eq (ids : IdsArg) :
    normalizeIds ids = if validIds ids = [] then
      .error (.valueError "ids must contain at least one non-empty observation id")
    else .ok (validIds ids) := by
  simp only [normalizeIds, filterMap_idOf]

theorem hasContent_of_mem_validIds {ids : IdsArg} {s : String} (h : s ∈ validIds ids) :
    HasContent s := by
  cases ids with
  | str t =>
    by_cases ht : HasContent t
    · simp only [validIds, if_pos ht, List.mem_singleton] at h
      exact h ▸ ht
    · simp [validIds, ht] at h
  | iter items =>
    obtain ⟨c, -, hc⟩ := List.mem_filterMap.mp h
    cases c <;> simp at hc
    exact hc.2 ▸ hc.1

/-- Strings that all have content are their own normalisation. -/
theorem validIds_iter_of_hasContent {xs : List String} (h : ∀ x ∈ xs, HasContent x) :
    validIds (.iter (xs.map .str)) = xs := by
  induction xs with
  | nil => rfl
  | cons x xs ih =>
    obtain ⟨hx, hxs⟩ := List.forall_mem_cons.mp h
    simpa [validIds, hx] using ih hxs

/-- **Normalising is idempotent.** The ids `_normalize_ids` returns, passed to it
again, come back unchanged: every one is a string with content. So ids a caller
got from one call can be fed to `get_observations` as they are. -/
theorem normalizeIds_idem {ids : IdsArg} {xs : List String} (h : normalizeIds ids = .ok xs) :
    normalizeIds (.iter (xs.map .str)) = .ok xs := by
  rw [normalizeIds_eq] at h ⊢
  split_ifs at h with hne
  cases h
  rw [validIds_iter_of_hasContent fun _ => hasContent_of_mem_validIds, if_neg hne]

/-- A string, a blank string and a number: one id survives, and survives again. -/
theorem normalizeIds_idem_mixed :
    normalizeIds (.iter [.str " obs-1 ", .str "  ", .int 3]) = .ok [" obs-1 "] ∧
      normalizeIds (.iter ([" obs-1 "].map .str)) = .ok [" obs-1 "] :=
  have h : normalizeIds (.iter [.str " obs-1 ", .str "  ", .int 3]) = .ok [" obs-1 "] := by decide
  ⟨h, normalizeIds_idem h⟩

/-! ## The operations -/

section Operations

variable (loads : String → Except String Json) (self : HarnessMemClient)

/-- `health()` -/
def HarnessMemClient.health : Call Json := self.request loads "GET" "/health"

/-- `search(query=..., project=None, limit=None, include_private=False, debug=False)` -/
def HarnessMemClient.search (query : String) (project : Option String := none)
    (limit : Option Int := none) (includePrivate debug : Bool := false) : Call Json :=
  self.request loads "POST" "/v1/search"
    (some [("query", .str query), ("project", optStr project), ("limit", optInt limit),
      ("include_private", .bool includePrivate), ("debug", .bool debug)])

/-- `timeline(observation_id, before=5, after=5, include_private=False)` -/
def HarnessMemClient.timeline (observationId : String) (before after : Int := 5)
    (includePrivate : Bool := false) : Call Json :=
  self.request loads "POST" "/v1/timeline"
    (some [("id", .str observationId), ("before", .int before), ("after", .int after),
      ("include_private", .bool includePrivate)])

/-- `get_observations(ids=..., include_private=False, compact=True)`: no request
when `_normalize_ids` raises. -/
def HarnessMemClient.getObservations (ids : IdsArg) (includePrivate : Bool := false)
    (compact : Bool := true) : Call Json :=
  match normalizeIds ids with
  | .error e => .done (.error e)
  | .ok normalizedIds =>
    self.request loads "POST" "/v1/observations/get"
      (some [("ids", .arr (normalizedIds.map .str)), ("include_private", .bool includePrivate),
        ("compact", .bool compact)])

/-- `record_event(event)` -/
def HarnessMemClient.recordEvent (event : List (String × Json)) : Call Json :=
  self.request loads "POST" "/v1/events/record" (some [("event", .obj event)])

/-- `record_checkpoint(session_id=..., title=..., content=..., platform=None,
project=None, tags=None, privacy_tags=None)` -/
def HarnessMemClient.recordCheckpoint (sessionId title content : String)
    (platform project : Option String := none) (tags privacyTags : Option (List String) := none) :
    Call Json :=
  self.request loads "POST" "/v1/checkpoints/record"
    (some [("platform", optStr platform), ("project", optStr project),
      ("session_id", .str sessionId), ("title", .str title), ("content", .str content),
      ("tags", strList tags), ("privacy_tags", strList privacyTags)])

/-- `finalize_session(session_id=..., platform=None, project=None,
summary_mode="standard")` -/
def HarnessMemClient.finalizeSession (sessionId : String) (platform project : Option String := none)
    (summaryMode : String := "standard") : Call Json :=
  self.request loads "POST" "/v1/sessions/finalize"
    (some [("platform", optStr platform), ("project", optStr project),
      ("session_id", .str sessionId), ("summary_mode", .str summaryMode)])

/-- `resume_pack(project=..., session_id=None, limit=None, include_private=False)` -/
def HarnessMemClient.resumePack (project : String) (sessionId : Option String := none)
    (limit : Option Int := none) (includePrivate : Bool := false) : Call Json :=
  self.request loads "POST" "/v1/resume-pack"
    (some [("project", .str project), ("session_id", optStr sessionId), ("limit", optInt limit),
      ("include_private", .bool includePrivate)])

/-- `run_consolidation(reason="python-sdk", project=None, session_id=None, limit=None)` -/
def HarnessMemClient.runConsolidation (reason : String := "python-sdk")
    (project sessionId : Option String := none) (limit : Option Int := none) : Call Json :=
  self.request loads "POST" "/v1/admin/consolidation/run"
    (some [("reason", .str reason), ("project", optStr project), ("session_id", optStr sessionId),
      ("limit", optInt limit)])

/-- `consolidation_status()` -/
def HarnessMemClient.consolidationStatus : Call Json :=
  self.request loads "GET" "/v1/admin/consolidation/status"

/-- `audit_log(limit=50, action=None, target_type=None)`: the only operation
with a query. -/
def HarnessMemClient.auditLog (limit : Int := 50) (action targetType : Option String := none) :
    Call Json :=
  self.request loads "GET" "/v1/admin/audit-log" none
    (some [("limit", some (.int limit)), ("action", action.map .str),
      ("target_type", targetType.map .str)])

end Operations

/-- One of the eleven operations, with its arguments. -/
inductive Operation where
  | health
  | search (query : String) (project : Option String) (limit : Option Int)
      (includePrivate debug : Bool)
  | timeline (observationId : String) (before after : Int) (includePrivate : Bool)
  | getObservations (ids : IdsArg) (includePrivate compact : Bool)
  | recordEvent (event : List (String × Json))
  | recordCheckpoint (sessionId title content : String) (platform project : Option String)
      (tags privacyTags : Option (List String))
  | finalizeSession (sessionId : String) (platform project : Option String) (summaryMode : String)
  | resumePack (project : String) (sessionId : Option String) (limit : Option Int)
      (includePrivate : Bool)
  | runConsolidation (reason : String) (project sessionId : Option String) (limit : Option Int)
  | consolidationStatus
  | auditLog (limit : Int) (action targetType : Option String)

/-- The method an operation names, called with its arguments. -/
def HarnessMemClient.call (loads : String → Except String Json) (self : HarnessMemClient) :
    Operation → Call Json
  | .health => self.health loads
  | .search q p l i d => self.search loads q p l i d
  | .timeline o b a i => self.timeline loads o b a i
  | .getObservations ids i c => self.getObservations loads ids i c
  | .recordEvent e => self.recordEvent loads e
  | .recordCheckpoint s t c pl pr tg pt => self.recordCheckpoint loads s t c pl pr tg pt
  | .finalizeSession s pl pr m => self.finalizeSession loads s pl pr m
  | .resumePack p s l i => self.resumePack loads p s l i
  | .runConsolidation r p s l => self.runConsolidation loads r p s l
  | .consolidationStatus => self.consolidationStatus loads
  | .auditLog l a t => self.auditLog loads l a t

section Properties

variable (loads : String → Except String Json) (self : HarnessMemClient)

/-- **`get_observations` against the contract.** Either no candidate is a
string with content, and the call raises `ValueError` before any request; or
it sends one `POST` to `/v1/observations/get` whose `ids` are exactly those
candidates, and ends with what `_request` makes of the reply. A string and the
one-element list of it are the same argument. -/
theorem getObservations_spec (ids : IdsArg) (includePrivate compact : Bool) :
    ((validIds ids = [] ∧ self.getObservations loads ids includePrivate compact =
        .done (.error (.valueError "ids must contain at least one non-empty observation id"))) ∨
      (validIds ids ≠ [] ∧ self.getObservations loads ids includePrivate compact =
        .send
          { url := self.baseUrl ++ "/v1/observations/get", method := "POST",
            data := some (.obj [("ids", .arr ((validIds ids).map .str)),
              ("include_private", .bool includePrivate), ("compact", .bool compact)]),
            headers := self.headers }
          fun reply => .done (receive loads reply))) ∧
    ∀ s, self.getObservations loads (.str s) includePrivate compact =
      self.getObservations loads (.iter [.str s]) includePrivate compact := by
  refine ⟨?_, fun _ => rfl⟩
  by_cases h : validIds ids = []
  · exact .inl ⟨h, by simp [HarnessMemClient.getObservations, normalizeIds_eq, h]⟩
  · refine .inr ⟨h, ?_⟩
    simp only [HarnessMemClient.getObservations, normalizeIds_eq, if_neg h,
      HarnessMemClient.request, buildRequest_post, queryString, String.append_empty,
      Option.getD_some]

/-! ## The endpoint table -/

end Properties

/-- `HarnessMemClient(token="t").health()` sends no `authorization` header. -/
theorem health_token_headers :
    ∃ req, (({ token := some "t" } : HarnessMemClient).call Loads.jsonLoads .health).firstRequest =
        some req ∧
      req.headers = [("content-type", "application/json"), ("x-harness-mem-token", "t")] ∧
        ("authorization", "Bearer t") ∉ req.headers :=
  ⟨_, rfl, rfl, by decide⟩

end HarnessMem.Client
