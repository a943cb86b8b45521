import JsonRpc.Types

namespace JsonRpc

/-- A non-empty array of valid request objects: a valid batch. -/
def Value.isRequestBatch : Value → Bool
  | .array elems => !elems.isEmpty && elems.all Value.isRequestObject
  | _ => false

/-- The requests a valid top-level value decodes to: one per element of a batch, in order,
or the single request an object describes. -/
def Value.DecodesTo (v : Value) (requests : List Request) : Prop :=
  match v with
  | .array elems => List.Forall₂ (fun elem r => r.Describes elem) elems requests
  | _ => ∃ r, requests = [r] ∧ r.Describes v

namespace Protocol

variable (wire : JsonWire)

/-- The `ParseError` every parse function raises when `boost::json::parse` throws. -/
def parseFailure (what : String) : Error :=
  { code := .parseError, message := "JSON 解析失败: " ++ what }

/-- `Protocol::is_batch_request`. -/
def isBatchRequest (jv : Value) : Bool := jv.isArray

/-- `Protocol::parse_request`. A batch is decoded element by element and the first element
that fails ends the loop with its error. -/
def parseRequest (jsonStr : String) : Except Error (List Request) :=
  match wire.parse jsonStr with
  | .error what => throw (parseFailure what)
  | .ok (.array arr) =>
      if arr.isEmpty then throw (Request.invalid "批量请求不能为空")
      else arr.mapM Request.fromJson
  | .ok jv => do
      let request ← Request.fromJson jv
      pure [request]

/-- `Protocol::serialize_response`. -/
def serializeResponse (response : Response) : String :=
  wire.serialize (.object response.toJson)

/-- `Protocol::serialize_batch_response`. -/
def serializeBatchResponse (responses : List Response) : String :=
  wire.serialize (.array (responses.map fun response => .object response.toJson))

/-- `Protocol::serialize_request`. -/
def serializeRequest (request : Request) : String :=
  wire.serialize (.object request.toJson)

/-- `Protocol::parse_response`. -/
def parseResponse (jsonStr : String) : Except Error Response :=
  match wire.parse jsonStr with
  | .error what => throw (parseFailure what)
  | .ok jv =>
      if !jv.isObject then throw (Request.invalid "响应必须是 JSON 对象")
      else Response.fromJson jv

/-- One element of `Protocol::parse_batch_response`. -/
def parseBatchElement (elem : Value) : Except Error Response :=
  if !elem.isObject then throw (Request.invalid "响应数组中的元素必须是对象")
  else Response.fromJson elem

/-- `Protocol::parse_batch_response`. -/
def parseBatchResponse (jsonStr : String) : Except Error (List Response) :=
  match wire.parse jsonStr with
  | .error what => throw (parseFailure what)
  | .ok (.array arr) => arr.mapM parseBatchElement
  | .ok _ => throw (Request.invalid "批量响应必须是 JSON 数组")


/-- A decoder that accepts exactly a grammar, and rejects the rest with `InvalidRequest`,
does so element by element over an array, stopping at the first element it rejects. -/
theorem mapM_cases {α : Type} (decode : Value → Except Error α) (valid : Value → Bool)
    (describes : α → Value → Prop)
    (cases : ∀ v, (valid v ∧ ∃ a, decode v = .ok a ∧ describes a v) ∨
      (valid v = false ∧ ∃ e, decode v = .error e ∧ e.code = .invalidRequest))
    (elems : List Value) :
    (elems.all valid ∧ ∃ as, elems.mapM decode = .ok as ∧
        List.Forall₂ (fun elem a => describes a elem) elems as) ∨
    (elems.all valid = false ∧
        ∃ e, elems.mapM decode = .error e ∧ e.code = .invalidRequest) := by
  induction elems with
  | nil => exact .inl ⟨rfl, [], rfl, .nil⟩
  | cons elem rest ih =>
      rcases cases elem with ⟨hv, a, ha, hd⟩ | ⟨hv, e, he, hc⟩
      · rcases ih with ⟨hall, as, has, hf⟩ | ⟨hall, e, he, hc⟩
        · refine .inl ⟨by simp [hv, hall], a :: as, ?_, .cons hd hf⟩
          simp only [List.mapM_cons, ha, has, except_ok_bind, except_pure]
        · refine .inr ⟨by simp [hv, hall], e, ?_, hc⟩
          simp only [List.mapM_cons, ha, he, except_ok_bind, except_error_bind]
      · refine .inr ⟨by simp [hv], e, ?_, hc⟩
        simp only [List.mapM_cons, he, except_error_bind]

theorem mapM_fromJson_cases (elems : List Value) :
    (elems.all Value.isRequestObject ∧ ∃ requests, elems.mapM Request.fromJson = .ok requests ∧
        List.Forall₂ (fun elem r => r.Describes elem) elems requests) ∨
    (elems.all Value.isRequestObject = false ∧
        ∃ e, elems.mapM Request.fromJson = .error e ∧ e.code = .invalidRequest) :=
  mapM_cases Request.fromJson Value.isRequestObject Request.Describes Request.fromJson_cases elems

theorem decodesTo_of_not_isArray {v : Value} (hv : v.isArray = false) (r : Request)
    (hd : r.Describes v) : v.DecodesTo [r] := by
  cases v <;> first | exact ⟨r, rfl, hd⟩ | simp [Value.isArray] at hv

theorem parseSingle_cases (v : Value) (hv : v.isArray = false) :
    if v.isRequestObject || v.isRequestBatch then
      ∃ requests, (do let request ← Request.fromJson v; pure [request]) = .ok requests ∧
        v.DecodesTo requests
    else ∃ e, (do let request ← Request.fromJson v; pure [request] :
        Except Error (List Request)) = .error e ∧ e.code = .invalidRequest := by
  have batch : v.isRequestBatch = false := by
    cases v <;> simp_all [Value.isRequestBatch, Value.isArray]
  rcases Request.fromJson_cases v with ⟨object, r, hr, hd⟩ | ⟨object, e, he, hc⟩
  · simpa [object, hr] using decodesTo_of_not_isArray hv r hd
  · simp [object, batch, he, hc]

/-- `Protocol::parse_request`: `ParseError` on text that is not JSON, the requests of a valid
request object or non-empty array of them, and `InvalidRequest` on any other value. -/
theorem parseRequest_spec (s : String) :
    match wire.parse s with
    | .error what => parseRequest wire s = .error (parseFailure what)
    | .ok v =>
        if v.isRequestObject || v.isRequestBatch then
          ∃ requests, parseRequest wire s = .ok requests ∧ v.DecodesTo requests
        else ∃ e, parseRequest wire s = .error e ∧ e.code = .invalidRequest := by
  unfold parseRequest
  cases wire.parse s with
  | error what => rfl
  | ok v =>
      cases v with
      | array elems =>
          cases elems with
          | nil => simp [Value.isRequestBatch, Value.isRequestObject, Request.invalid]
          | cons e es =>
              rcases mapM_fromJson_cases (e :: es) with ⟨hall, rs, hrs, hf⟩ | ⟨hall, err, herr, hc⟩
              · simp [-List.mapM, Value.isRequestBatch, hall, hrs, Value.DecodesTo, hf,
                  Value.isRequestObject]
              · simp [-List.mapM, Value.isRequestBatch, hall, herr, hc, Value.isRequestObject]
      | _ => exact parseSingle_cases _ rfl

/-- A request object whose id is the floating-point number 1.5 is accepted as a call. -/
theorem parseRequest_accepts_double_id :
    parseRequest ⟨fun _ => .ok (.object [("jsonrpc", .string "2.0"), ("method", .string "m"),
        ("id", .double ⟨0x3FF8000000000000⟩)]), fun _ => ""⟩
      "\x7b\"jsonrpc\":\"2.0\",\"method\":\"m\",\"id\":1.5\x7d" =
      .ok [Request.call "m" .null (.double ⟨0x3FF8000000000000⟩)] := rfl

theorem isObject_of_isResponseObject {v : Value} (h : v.isResponseObject) : v.isObject := by
  cases v <;> simp_all [Value.isResponseObject, Value.isObject]

/-- Both response parsers reject a non-object with their own message before
`Response::from_json`. -/
theorem guardedFromJson_cases (message : String) (v : Value) :
    (v.isResponseObject ∧ ∃ r, (if !v.isObject then throw (Request.invalid message)
        else Response.fromJson v) = .ok r ∧ r.Describes v) ∨
    (v.isResponseObject = false ∧ ∃ e, (if !v.isObject then throw (Request.invalid message)
        else Response.fromJson v) = .error e ∧ e.code = .invalidRequest) := by
  cases object : v.isObject
  · have : v.isResponseObject = false := by
      cases h : v.isResponseObject
      · rfl
      · simp [isObject_of_isResponseObject h] at object
    exact .inr ⟨this, Request.invalid message, by simp, rfl⟩
  · simpa using Response.fromJson_cases v

theorem parseBatchElement_cases (elem : Value) :
    (elem.isResponseObject ∧ ∃ r, parseBatchElement elem = .ok r ∧ r.Describes elem) ∨
    (elem.isResponseObject = false ∧
      ∃ e, parseBatchElement elem = .error e ∧ e.code = .invalidRequest) :=
  guardedFromJson_cases _ elem

theorem parseResponse_cases (s : String) :
    match wire.parse s with
    | .error what => parseResponse wire s = .error (parseFailure what)
    | .ok v =>
        if v.isResponseObject then ∃ r, parseResponse wire s = .ok r ∧ r.Describes v
        else ∃ e, parseResponse wire s = .error e ∧ e.code = .invalidRequest := by
  unfold parseResponse
  cases wire.parse s with
  | error what => rfl
  | ok v =>
      rcases guardedFromJson_cases "响应必须是 JSON 对象" v with ⟨hv, r, hr, hd⟩ | ⟨hv, e, he, hc⟩
      · simp only [hv, if_true]
        exact ⟨r, hr, hd⟩
      · simp only [hv]
        exact ⟨e, he, hc⟩

/-- `parse_response` fails only with `ParseError` or `InvalidRequest`. -/
theorem parseResponse_error_code {s : String} {e : Error}
    (failed : parseResponse wire s = .error e) :
    e.code = .parseError ∨ e.code = .invalidRequest := by
  have cases := parseResponse_cases wire s
  split at cases
  · rw [cases] at failed
    cases failed
    exact .inl rfl
  · split at cases
    · obtain ⟨r, ok, -⟩ := cases
      cases ok.symm.trans failed
    · obtain ⟨e', error, code⟩ := cases
      cases error.symm.trans failed
      exact .inr code

theorem parseBatchResponse_cases (s : String) :
    match wire.parse s with
    | .error what => parseBatchResponse wire s = .error (parseFailure what)
    | .ok (.array elems) =>
        if elems.all Value.isResponseObject then
          ∃ responses, parseBatchResponse wire s = .ok responses ∧
            List.Forall₂ (fun elem r => r.Describes elem) elems responses
        else ∃ e, parseBatchResponse wire s = .error e ∧ e.code = .invalidRequest
    | .ok _ => parseBatchResponse wire s = .error (Request.invalid "批量响应必须是 JSON 数组") := by
  unfold parseBatchResponse
  cases wire.parse s with
  | error what => rfl
  | ok v =>
      cases v with
      | array elems =>
          rcases mapM_cases parseBatchElement Value.isResponseObject Response.Describes
            parseBatchElement_cases elems with ⟨hall, rs, hrs, hf⟩ | ⟨hall, e, he, hc⟩
          · simp only [hall, if_true]
            exact ⟨rs, hrs, hf⟩
          · simp only [hall]
            exact ⟨e, he, hc⟩
      | _ => rfl

/-- `Protocol::parse_response` and `parse_batch_response`: `ParseError` on text that is not
JSON, the responses the value describes when it is valid, and `InvalidRequest` otherwise. -/
theorem parseResponse_spec (s : String) :
    (match wire.parse s with
    | .error what => parseResponse wire s = .error (parseFailure what)
    | .ok v =>
        if v.isResponseObject then ∃ r, parseResponse wire s = .ok r ∧ r.Describes v
        else ∃ e, parseResponse wire s = .error e ∧ e.code = .invalidRequest) ∧
    (match wire.parse s with
    | .error what => parseBatchResponse wire s = .error (parseFailure what)
    | .ok (.array elems) =>
        if elems.all Value.isResponseObject then
          ∃ responses, parseBatchResponse wire s = .ok responses ∧
            List.Forall₂ (fun elem r => r.Describes elem) elems responses
        else ∃ e, parseBatchResponse wire s = .error e ∧ e.code = .invalidRequest
    | .ok _ => parseBatchResponse wire s = .error (Request.invalid "批量响应必须是 JSON 数组")) :=
  ⟨parseResponse_cases wire s, parseBatchResponse_cases wire s⟩

/-- An error code of `2^32` comes back as `0`. -/
theorem parseResponse_wraps_code :
    parseResponse ⟨fun _ => .ok (.object [("jsonrpc", .string "2.0"),
        ("error", .object [("code", .int64 ⟨4294967296, by omega, by omega⟩),
          ("message", .string "m")]), ("id", .null)]), fun _ => ""⟩
      "\x7b\"jsonrpc\":\"2.0\",\"error\":\x7b\"code\":4294967296,\"message\":\"m\"\x7d,\"id\":null\x7d" =
      .ok (.ofError { code := ⟨⟨0, by omega, by omega⟩⟩, message := "m" } .null) := rfl

end Protocol

end JsonRpc
