import JsonRpc.Json.Value

namespace JsonRpc

/-- `jsonrpc::ErrorCode`, an `enum class : int`: `static_cast<ErrorCode>` makes every `int`
a code, and the named codes are the JSON-RPC 2.0 taxonomy. -/
structure ErrorCode where
  toInt32 : Int32
  deriving DecidableEq, Repr

namespace ErrorCode

def parseError : ErrorCode := ⟨⟨-32700, by omega, by omega⟩⟩
def invalidRequest : ErrorCode := ⟨⟨-32600, by omega, by omega⟩⟩
def methodNotFound : ErrorCode := ⟨⟨-32601, by omega, by omega⟩⟩
def invalidParams : ErrorCode := ⟨⟨-32602, by omega, by omega⟩⟩
def internalError : ErrorCode := ⟨⟨-32603, by omega, by omega⟩⟩
def serverError : ErrorCode := ⟨⟨-32000, by omega, by omega⟩⟩

end ErrorCode

/-- `jsonrpc::Error`. The two constructors of the source differ only in `data`, which the
shorter one leaves null. -/
structure Error where
  code : ErrorCode
  message : String
  data : Value := .null
  deriving DecidableEq, Repr

/-- `Error::to_json`. -/
def Error.toJson (e : Error) : Object :=
  let obj := Object.set (Object.set [] "code" (.int64 e.code.toInt32.toInt64)) "message"
    (.string e.message)
  if !e.data.isNull then Object.set obj "data" e.data else obj

@[simp] theorem Error.toJson_eq (e : Error) :
    e.toJson = [("code", .int64 e.code.toInt32.toInt64), ("message", .string e.message)] ++
      (if !e.data.isNull then [("data", e.data)] else []) := by
  unfold Error.toJson
  split <;> rfl

/-- The params a request may carry: an array, an object or null. -/
def Value.isParamsValue (v : Value) : Bool := v.isArray || v.isObject || v.isNull

/-- The ids `Request::from_json` accepts: a string, a number or null. -/
def Value.isIdValue (v : Value) : Bool := v.isString || v.isNumber || v.isNull

/-- `jsonrpc::Request`. The field `id?` is `none` exactly for a notification: the source's
constructors set `has_id_` and `id_` together, so `has_id_ = false` with a non-null `id_`
cannot be built. -/
structure Request where
  method : String
  params : Value
  id? : Option Value
  deriving DecidableEq, Repr

namespace Request

/-- `Request(method, params, id)`. -/
def call (method : String) (params id : Value) : Request := ⟨method, params, some id⟩

/-- `Request(method, params)`. -/
def notification (method : String) (params : Value) : Request := ⟨method, params, none⟩

/-- `id()`: null for a notification. -/
def id (r : Request) : Value := r.id?.getD .null

/-- `has_id()`. -/
def hasId (r : Request) : Bool := r.id?.isSome

@[simp] theorem id_call (method : String) (params id : Value) :
    (call method params id).id = id := rfl

@[simp] theorem hasId_call (method : String) (params id : Value) :
    (call method params id).hasId = true := rfl

@[simp] theorem hasId_notification (method : String) (params : Value) :
    (notification method params).hasId = false := rfl

/-- An `InvalidRequest` error with the given message. -/
def invalid (message : String) : Error := { code := .invalidRequest, message }

/-- The `params` block of `Request::from_json`: absent params read as null. -/
def paramsOf (obj : Object) : Except Error Value :=
  match Object.at? obj "params" with
  | none => pure .null
  | some params =>
      if !params.isArray && !params.isObject && !params.isNull then
        throw (invalid "params 必须是 array 或 object")
      else pure params

/-- The `id` block of `Request::from_json`: a present `id` member makes a call, whatever
its value, and an absent one a notification. -/
def ofIdMember (method : String) (params : Value) : Option Value → Except Error Request
  | some idVal =>
      if !idVal.isString && !idVal.isNumber && !idVal.isNull then
        throw (invalid "id 必须是 string、number 或 null")
      else pure (call method params idVal)
  | none => pure (notification method params)

/-- `Request::from_json`. -/
def fromJson : Value → Except Error Request
  | .object obj => do
      if Object.at? obj "jsonrpc" ≠ some (.string "2.0") then
        throw (invalid "缺少或无效的 jsonrpc 版本字段")
      let some (.string name) := Object.at? obj "method"
        | throw (invalid "缺少或无效的 method 字段")
      let method := fromCStr name
      let params ← paramsOf obj
      ofIdMember method params (Object.at? obj "id")
  | _ => throw (invalid "请求必须是 JSON 对象")

/-- `Request::to_json`. -/
def toJson (r : Request) : Object :=
  let obj := Object.set (Object.set [] "jsonrpc" (.string "2.0")) "method" (.string r.method)
  let obj := if !r.params.isNull then Object.set obj "params" r.params else obj
  if r.hasId then Object.set obj "id" r.id else obj

theorem paramsOf_of_none {obj : Object} (h : Object.at? obj "params" = none) :
    paramsOf obj = .ok .null := by
  simp [paramsOf, h]

theorem paramsOf_of_some {obj : Object} {p : Value} (h : Object.at? obj "params" = some p) :
    paramsOf obj =
      if p.isParamsValue then .ok p else .error (invalid "params 必须是 array 或 object") := by
  simp only [paramsOf, h]
  cases p <;> rfl

theorem ofIdMember_some (method : String) (params idVal : Value) :
    ofIdMember method params (some idVal) =
      if idVal.isIdValue then .ok (call method params idVal)
      else .error (invalid "id 必须是 string、number 或 null") := by
  cases idVal <;> rfl

theorem toJson_eq (r : Request) :
    r.toJson = [("jsonrpc", .string "2.0"), ("method", .string r.method)] ++
      (if !r.params.isNull then [("params", r.params)] else []) ++
      (match r.id? with | some id => [("id", id)] | none => []) := by
  obtain ⟨method, params, _ | id⟩ := r <;> unfold Request.toJson <;> split <;> rfl

/-- What the decoder reads back from an encoded request: every member where it was put. -/
theorem at?_toJson (r : Request) :
    Object.at? r.toJson "jsonrpc" = some (.string "2.0") ∧
    Object.at? r.toJson "method" = some (.string r.method) ∧
    Object.at? r.toJson "params" = (if !r.params.isNull then some r.params else none) ∧
    Object.at? r.toJson "id" = r.id? := by
  obtain ⟨method, params, _ | id⟩ := r <;> cases hnull : params.isNull <;>
    simp [toJson_eq, Object.at?_append, Object.at?_cons, hnull]

/-- The decoder inverts the encoder on every request whose method holds no `U+0000`, whose
params are an array, an object or null, and whose id is a string, a number or null. -/
theorem fromJson_toJson (r : Request) (hm : nul ∉ r.method.data)
    (hp : r.params.isParamsValue) (hi : ∀ v, r.id? = some v → v.isIdValue) :
    fromJson (.object r.toJson) = .ok r := by
  obtain ⟨version, method, params, id⟩ := at?_toJson r
  have hparams : paramsOf r.toJson = .ok r.params := by
    cases hnull : r.params.isNull
    · rw [paramsOf_of_some (by simpa [hnull] using params), if_pos hp]
    · rw [paramsOf_of_none (by simpa [hnull] using params), (Value.isNull_iff _).mp hnull]
  obtain ⟨name, args, _ | idVal⟩ := r
  · simp_all [fromJson, fromCStr_of_nul_not_mem hm, ofIdMember, notification]
  · simp_all [fromJson, fromCStr_of_nul_not_mem hm, ofIdMember_some, call]

/-- A method name is cut at its first `U+0000` on the way back. -/
theorem fromJson_toJson_cuts_method_at_nul :
    fromJson (.object (call "a\x00b" .null (.int64 ⟨1, by omega, by omega⟩)).toJson) =
      .ok (call "a" .null (.int64 ⟨1, by omega, by omega⟩)) := rfl

end Request

/-! The request grammar of the protocol, in the spec's words: the objects `Request::from_json`
must accept, and what the request it builds from one must hold. -/

/-- A valid request object: version `"2.0"`, a string method, params absent or an array, an
object or null, and an id absent or a string, a number or null. -/
def Value.isRequestObject : Value → Bool
  | .object obj =>
      decide (Object.at? obj "jsonrpc" = some (.string "2.0")) &&
      (match Object.at? obj "method" with
        | some (.string _) => true
        | _ => false) &&
      ((Object.at? obj "params").map Value.isParamsValue).getD true &&
      ((Object.at? obj "id").map Value.isIdValue).getD true
  | _ => false

/-- What a request decoded from `v` holds: the params member (null when absent), the id
member as it is (absent exactly for a notification), and the method string whenever it holds
no `U+0000`. -/
def Request.Describes (r : Request) (v : Value) : Prop :=
  ∃ obj name, v = .object obj ∧ Object.at? obj "method" = some (.string name) ∧
    (nul ∉ name.data → r.method = name) ∧
    r.params = (Object.at? obj "params").getD .null ∧ r.id? = Object.at? obj "id"

namespace Request

theorem paramsOf_cases (obj : Object) :
    (((Object.at? obj "params").map Value.isParamsValue).getD true = true ∧
      paramsOf obj = .ok ((Object.at? obj "params").getD .null)) ∨
    (((Object.at? obj "params").map Value.isParamsValue).getD true = false ∧
      paramsOf obj = .error (invalid "params 必须是 array 或 object")) := by
  cases h : Object.at? obj "params" with
  | none => simp [paramsOf_of_none h]
  | some p => cases hp : p.isParamsValue <;> simp [paramsOf_of_some h, hp]

theorem ofIdMember_cases (method : String) (params : Value) (idMember : Option Value) :
    ((idMember.map Value.isIdValue).getD true = true ∧
      ofIdMember method params idMember = .ok ⟨method, params, idMember⟩) ∨
    ((idMember.map Value.isIdValue).getD true = false ∧
      ofIdMember method params idMember =
        .error (invalid "id 必须是 string、number 或 null")) := by
  cases idMember with
  | none => simp [ofIdMember, notification]
  | some idVal => cases hi : idVal.isIdValue <;> simp [ofIdMember_some, hi, call]

/-- `Request::from_json` accepts exactly the request grammar, builds a request that the
value describes, and rejects everything else with `InvalidRequest`. -/
theorem fromJson_cases (v : Value) :
    (v.isRequestObject ∧ ∃ r, fromJson v = .ok r ∧ r.Describes v) ∨
    (v.isRequestObject = false ∧ ∃ e, fromJson v = .error e ∧ e.code = .invalidRequest) := by
  cases v with
  | object obj =>
      by_cases hv : Object.at? obj "jsonrpc" = some (.string "2.0")
      · cases hm : Object.at? obj "method" with
        | none => simp [Value.isRequestObject, fromJson, hv, hm, invalid]
        | some m =>
            cases m with
            | string name =>
                rcases paramsOf_cases obj with ⟨hp, hparams⟩ | ⟨hp, hparams⟩
                · rcases ofIdMember_cases (fromCStr name) ((Object.at? obj "params").getD .null)
                      (Object.at? obj "id") with ⟨hi, hid⟩ | ⟨hi, hid⟩
                  · left
                    refine ⟨by simp [Value.isRequestObject, hv, hm, hp, hi],
                      ⟨fromCStr name, (Object.at? obj "params").getD .null, Object.at? obj "id"⟩,
                      by simp [fromJson, hv, hm, hparams, hid],
                      obj, name, rfl, hm, fromCStr_of_nul_not_mem, rfl, rfl⟩
                  · simp [Value.isRequestObject, fromJson, hv, hm, hp, hi, hparams, hid, invalid]
                · simp [Value.isRequestObject, fromJson, hv, hm, hp, hparams, invalid]
            | _ => simp [Value.isRequestObject, fromJson, hv, hm, invalid]
      · simp [Value.isRequestObject, fromJson, hv, invalid]
  | _ => simp [Value.isRequestObject, fromJson, invalid]

end Request

/-- `jsonrpc::Response`: a success carrying `result`, or an error carrying an `Error`. The
source keeps both fields and a tag, and reads only the one the tag names. -/
inductive Response where
  | ofResult (result id : Value)
  | ofError (error : Error) (id : Value)
  deriving DecidableEq, Repr

namespace Response

/-- `is_error()`. -/
def isError : Response → Bool
  | .ofResult _ _ => false
  | .ofError _ _ => true

/-- `id()`. -/
def id : Response → Value
  | .ofResult _ id | .ofError _ id => id

/-- The value a `std::string` holds after it has been moved from. The standard leaves it
valid but unspecified; libstdc++, libc++ and the MSVC library all leave it empty. -/
def movedFrom (_ : String) : String := ""

/-- `Response::from_json`. The error branch with a `data` member rebuilds the `Error` from
`message` after `std::move(message)` handed it to the first one. -/
def fromJson : Value → Except Error Response
  | .object obj => do
      if Object.at? obj "jsonrpc" ≠ some (.string "2.0") then
        throw (Request.invalid "缺少或无效的 jsonrpc 版本字段")
      let some id := Object.at? obj "id"
        | throw (Request.invalid "缺少 id 字段")
      let hasResult := (Object.at? obj "result").isSome
      let hasError := (Object.at? obj "error").isSome
      if hasResult && hasError then
        throw (Request.invalid "响应不能同时包含 result 和 error")
      if !hasResult && !hasError then
        throw (Request.invalid "响应必须包含 result 或 error")
      match Object.at? obj "result" with
      | some result => pure (ofResult result id)
      | none =>
          let some (.object err) := Object.at? obj "error"
            | throw (Request.invalid "error 必须是对象")
          let some (.int64 code) := Object.at? err "code"
            | throw (Request.invalid "error.code 缺失或无效")
          let some (.string text) := Object.at? err "message"
            | throw (Request.invalid "error.message 缺失或无效")
          let code : ErrorCode := ⟨code.toInt32⟩
          let message := fromCStr text
          let error : Error := { code, message }
          let error := match Object.at? err "data" with
            | some data => { code, message := movedFrom message, data }
            | none => error
          pure (ofError error id)
  | _ => throw (Request.invalid "响应必须是 JSON 对象")

/-- `Response::to_json`. -/
def toJson : Response → Object
  | .ofResult result id =>
      Object.set (Object.set (Object.set [] "jsonrpc" (.string "2.0")) "result" result) "id" id
  | .ofError error id =>
      Object.set (Object.set (Object.set [] "jsonrpc" (.string "2.0")) "error"
        (.object error.toJson)) "id" id

@[simp] theorem toJson_ofResult (result id : Value) :
    (ofResult result id).toJson =
      [("jsonrpc", .string "2.0"), ("result", result), ("id", id)] := rfl

@[simp] theorem toJson_ofError (error : Error) (id : Value) :
    (ofError error id).toJson =
      [("jsonrpc", .string "2.0"), ("error", .object error.toJson), ("id", id)] := rfl

theorem fromJson_toJson_ofResult (result id : Value) :
    fromJson (.object (ofResult result id).toJson) = .ok (ofResult result id) := by
  simp [fromJson, Object.at?_cons]

/-- What an encoded error response decodes to: the code and id come back, the message is
cut at its first `U+0000`, and it is lost altogether when the error carries data. -/
theorem fromJson_toJson_ofError (error : Error) (id : Value) :
    fromJson (.object (ofError error id).toJson) =
      .ok (ofError
        { error with message := if !error.data.isNull then "" else fromCStr error.message }
        id) := by
  obtain ⟨code, message, data⟩ := error
  cases hnull : data.isNull
  · simp [fromJson, Object.at?_cons, Object.at?_append, hnull, movedFrom]
  · simp [fromJson, Object.at?_cons, Object.at?_append, hnull, (Value.isNull_iff _).mp hnull]

/-- An error response with data comes back with an empty message. -/
theorem fromJson_toJson_serverError_with_data :
    fromJson (.object (ofError { code := .serverError, message := "boom", data := .bool true }
        (.int64 ⟨1, by omega, by omega⟩)).toJson) =
      .ok (ofError { code := .serverError, message := "", data := .bool true }
        (.int64 ⟨1, by omega, by omega⟩)) := by
  rw [fromJson_toJson_ofError]
  rfl

theorem fromJson_toJson_ofError_of_no_data (error : Error) (id : Value)
    (hdata : error.data = .null) (hm : nul ∉ error.message.data) :
    fromJson (.object (ofError error id).toJson) = .ok (ofError error id) := by
  rw [fromJson_toJson_ofError]
  obtain ⟨code, message, data⟩ := error
  simp_all [fromCStr_of_nul_not_mem hm]

theorem fromJson_toJson_ofError_boom :
    ({ code := .serverError, message := "boom" } : Error).data = .null ∧ nul ∉ "boom".data ∧
      fromJson (.object (ofError { code := .serverError, message := "boom" }
          (.int64 ⟨1, by omega, by omega⟩)).toJson) =
        .ok (ofError { code := .serverError, message := "boom" }
          (.int64 ⟨1, by omega, by omega⟩)) :=
  ⟨rfl, by decide, fromJson_toJson_ofError_of_no_data _ _ rfl (by decide)⟩

/-- What `Response::from_json` reads back from `to_json` of a response. -/
def reread : Response → Response
  | .ofResult result id => .ofResult result id
  | .ofError error id =>
      .ofError { error with message := if !error.data.isNull then "" else fromCStr error.message }
        id

theorem fromJson_toJson (response : Response) :
    fromJson (.object response.toJson) = .ok response.reread := by
  cases response with
  | ofResult result id => exact fromJson_toJson_ofResult result id
  | ofError error id => exact fromJson_toJson_ofError error id

end Response

/-! The response grammar of the protocol, in the spec's words. -/

/-- A valid response object: version `"2.0"`, an id member, and a result member or an error
member, not both, where the error is an object with an `int64` code and a string message. -/
def Value.isResponseObject : Value → Bool
  | .object obj =>
      decide (Object.at? obj "jsonrpc" = some (.string "2.0")) && (Object.at? obj "id").isSome &&
      match Object.at? obj "result", Object.at? obj "error" with
      | some _, none => true
      | none, some (.object err) =>
          (match Object.at? err "code" with
            | some (.int64 _) => true
            | _ => false) &&
          (match Object.at? err "message" with
            | some (.string _) => true
            | _ => false)
      | _, _ => false
  | _ => false

/-- What a response decoded from `v` holds: the id member, and the result member, or an error
whose code is the code member narrowed to `int`, whose data is the data member (null when
absent), and whose message is the message member when there is no data member and the message
holds no `U+0000`. -/
def Response.Describes (r : Response) (v : Value) : Prop :=
  ∃ obj id, v = .object obj ∧ Object.at? obj "id" = some id ∧
    match Object.at? obj "result" with
    | some result => r = .ofResult result id
    | none => ∃ err code text error, Object.at? obj "error" = some (.object err) ∧
        Object.at? err "code" = some (.int64 code) ∧
        Object.at? err "message" = some (.string text) ∧ r = .ofError error id ∧
        error.code = ⟨code.toInt32⟩ ∧ error.data = (Object.at? err "data").getD .null ∧
        (Object.at? err "data" = none → nul ∉ text.data → error.message = text)

namespace Response

/-- The error branch of `Response::from_json`: an object with an `int64` code and a string
message is accepted, anything else in the error member is rejected. -/
theorem fromJson_error_cases {obj : Object} {id err : Value}
    (hv : Object.at? obj "jsonrpc" = some (.string "2.0")) (hid : Object.at? obj "id" = some id)
    (hres : Object.at? obj "result" = none) (herr : Object.at? obj "error" = some err) :
    ((Value.object obj).isResponseObject ∧
        ∃ r, fromJson (.object obj) = .ok r ∧ r.Describes (.object obj)) ∨
    ((Value.object obj).isResponseObject = false ∧
        ∃ e, fromJson (.object obj) = .error e ∧ e.code = .invalidRequest) := by
  cases err with
  | object err =>
      cases hc : Object.at? err "code" with
      | none => simp [Value.isResponseObject, fromJson, hv, hid, hres, herr, hc, Request.invalid]
      | some c =>
          cases c with
          | int64 code =>
              cases hm : Object.at? err "message" with
              | none =>
                  simp [Value.isResponseObject, fromJson, hv, hid, hres, herr, hc, hm,
                    Request.invalid]
              | some m =>
                  cases m with
                  | string text =>
                      have valid : Value.isResponseObject (.object obj) := by
                        simp [Value.isResponseObject, hv, hid, hres, herr, hc, hm]
                      cases hd : Object.at? err "data" with
                      | none =>
                          refine .inl ⟨valid, .ofError ⟨⟨code.toInt32⟩, fromCStr text, .null⟩ id,
                            by simp [fromJson, hv, hid, hres, herr, hc, hm, hd], obj, id, rfl, hid,
                            ?_⟩
                          simp only [hres]
                          exact ⟨err, code, text, _, herr, hc, hm, rfl, rfl, by simp [hd],
                            fun _ => fromCStr_of_nul_not_mem⟩
                      | some data =>
                          refine .inl ⟨valid, .ofError ⟨⟨code.toInt32⟩, "", data⟩ id,
                            by simp [fromJson, hv, hid, hres, herr, hc, hm, hd, movedFrom], obj, id,
                            rfl, hid, ?_⟩
                          simp only [hres]
                          exact ⟨err, code, text, _, herr, hc, hm, rfl, rfl, by simp [hd],
                            fun h => by simp [hd] at h⟩
                  | _ =>
                      simp [Value.isResponseObject, fromJson, hv, hid, hres, herr, hc, hm,
                        Request.invalid]
          | _ => simp [Value.isResponseObject, fromJson, hv, hid, hres, herr, hc, Request.invalid]
  | _ => simp [Value.isResponseObject, fromJson, hv, hid, hres, herr, Request.invalid]

/-- `Response::from_json` accepts exactly the response grammar, builds a response that the
value describes, and rejects everything else with `InvalidRequest`. -/
theorem fromJson_cases (v : Value) :
    (v.isResponseObject ∧ ∃ r, fromJson v = .ok r ∧ r.Describes v) ∨
    (v.isResponseObject = false ∧ ∃ e, fromJson v = .error e ∧ e.code = .invalidRequest) := by
  cases v with
  | object obj =>
      by_cases hv : Object.at? obj "jsonrpc" = some (.string "2.0")
      · cases hid : Object.at? obj "id" with
        | none => simp [Value.isResponseObject, fromJson, hv, hid, Request.invalid]
        | some id =>
            cases hres : Object.at? obj "result" with
            | some result =>
                cases herr : Object.at? obj "error" with
                | none =>
                    refine .inl ⟨by simp [Value.isResponseObject, hv, hid, hres, herr],
                      .ofResult result id, by simp [fromJson, hv, hid, hres, herr], obj, id, rfl,
                      hid, by simp [hres]⟩
                | some _ =>
                    simp [Value.isResponseObject, fromJson, hv, hid, hres, herr, Request.invalid]
            | none =>
                cases herr : Object.at? obj "error" with
                | none =>
                    simp [Value.isResponseObject, fromJson, hv, hid, hres, herr, Request.invalid]
                | some err => exact fromJson_error_cases hv hid hres herr
      · simp [Value.isResponseObject, fromJson, hv, Request.invalid]
  | _ => simp [Value.isResponseObject, fromJson, Request.invalid]

end Response

end JsonRpc
