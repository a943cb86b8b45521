import JsonRpc.Protocol
import JsonRpc.Registry.Registry
import Mathlib.Data.List.Infix

namespace JsonRpc

/-! The HTTP side of `ServerSession` and of the synchronous `ClientSession`: the parts of a
beast message that `process_request`, `call` and `call_batch` read or write. -/

/-- The request method. `process_request` only asks whether it is `POST`. -/
inductive Verb where
  | post
  | other (name : String)
  deriving DecidableEq, Repr

/-- The statuses `process_request` replies with. -/
inductive Status where
  | ok
  | noContent
  | methodNotAllowed
  | unsupportedMediaType
  deriving DecidableEq, Repr

def Status.code : Status → Nat
  | .ok => 200
  | .noContent => 204
  | .methodNotAllowed => 405
  | .unsupportedMediaType => 415

structure HttpRequest where
  method : Verb
  contentType : String
  body : String
  keepAlive : Bool
  deriving DecidableEq, Repr

/-- beast's `keep_alive()` of a message of HTTP version `version` (`11` for HTTP/1.1) whose
`Connection` field lists `connection`: from HTTP/1.1 on the connection stays open unless
`close` is listed, before it closes unless `keep-alive` is. beast compares the tokens without
case; the model takes them in lower case. -/
def keepAliveOf (version : Nat) (connection : List String) : Bool :=
  if version < 11 then connection.contains "keep-alive" else !connection.contains "close"

structure HttpResponse where
  status : Status
  contentType : String
  body : String
  keepAlive : Bool
  deriving DecidableEq, Repr

/-- `text.find(pattern) != std::string::npos`. -/
def containsText (text pattern : String) : Bool := decide (pattern.data <:+: text.data)

namespace ServerSession

variable (wire : JsonWire) (reg : MethodRegistry)

/-- A reply built on a fresh `res_ = {}`. A fresh response is HTTP/1.1 without a
`Connection` field, so its `keep_alive()` is true unless `process_request` sets it. -/
def reply (status : Status) (contentType body : String) (keepAlive : Bool) : HttpResponse :=
  { status, contentType, body, keepAlive }

/-- `Protocol::is_batch_request(boost::json::parse(body))`, which `process_request` evaluates
only after `parse_request` accepted the same body, so the parse cannot fail there. -/
def isBatchBody (body : String) : Bool :=
  match wire.parse body with
  | .ok jv => Protocol.isBatchRequest jv
  | .error _ => false

/-- `ServerSession::process_request`. The call of `invoke_batch` is its result as a function,
`MethodRegistry.batchResponses`, which every interleaving of the batch pool returns. -/
def processRequest (req : HttpRequest) : HttpResponse :=
  if req.method ≠ .post then reply .methodNotAllowed "text/plain" "仅支持 POST 方法" true
  else if !containsText req.contentType "application/json" then
    reply .unsupportedMediaType "text/plain" "Content-Type 必须是 application/json" true
  else
    match Protocol.parseRequest wire req.body with
    | .error e =>
        reply .ok "application/json" (Protocol.serializeResponse wire (.ofError e .null)) true
    | .ok requests =>
        let isBatch := decide (requests.length > 1) || isBatchBody wire req.body
        let responses := reg.batchResponses requests
        if isBatch then
          reply .ok "application/json" (Protocol.serializeBatchResponse wire responses)
            req.keepAlive
        else
          match responses with
          | response :: _ =>
              reply .ok "application/json" (Protocol.serializeResponse wire response)
                req.keepAlive
          | [] => reply .noContent "application/json" "" req.keepAlive


theorem length_of_bind_singleton {x : Except Error Request} {requests : List Request}
    (h : (do let request ← x; pure [request]) = Except.ok requests) : requests.length = 1 := by
  cases x with
  | error e => cases h
  | ok request => cases h; rfl

/-- After `parse_request` accepted a body, `requests.size() > 1` adds nothing to the batch
test: a body that is not an array gives one request. -/
theorem length_le_one_of_not_isBatchBody {body : String} {requests : List Request}
    (ok : Protocol.parseRequest wire body = .ok requests)
    (single : isBatchBody wire body = false) : requests.length ≤ 1 := by
  unfold Protocol.parseRequest at ok
  unfold isBatchBody at single
  split at single
  · rename_i jv parsed
    rw [parsed] at ok
    cases jv with
    | array elems => simp [Protocol.isBatchRequest, Value.isArray] at single
    | _ => exact (length_of_bind_singleton ok).le
  · rename_i parsed
    simp [parsed] at ok

/-- The reply to a `POST` of JSON whose body `parse_request` accepts. -/
theorem processRequest_of_ok (req : HttpRequest) (post : req.method = .post)
    (json : containsText req.contentType "application/json" = true) {requests : List Request}
    (ok : Protocol.parseRequest wire req.body = .ok requests) :
    processRequest wire reg req =
      if isBatchBody wire req.body then
        reply .ok "application/json"
          (Protocol.serializeBatchResponse wire (reg.batchResponses requests)) req.keepAlive
      else
        match reg.batchResponses requests with
        | response :: _ =>
            reply .ok "application/json" (Protocol.serializeResponse wire response) req.keepAlive
        | [] => reply .noContent "application/json" "" req.keepAlive := by
  have flag : (decide (requests.length > 1) || isBatchBody wire req.body) =
      isBatchBody wire req.body := by
    cases batch : isBatchBody wire req.body
    · simpa using length_le_one_of_not_isBatchBody wire ok batch
    · simp
  simp only [processRequest, post, json, ok, flag, ne_eq, not_true_eq_false, if_false,
    Bool.not_true, Bool.false_eq_true]

/-- A batch made only of notifications is answered `200` with the serialized empty array. -/
theorem processRequest_notification_batch (req : HttpRequest) (post : req.method = .post)
    (json : containsText req.contentType "application/json" = true) {elems : List Value}
    (parsed : wire.parse req.body = .ok (.array elems)) {requests : List Request}
    (ok : Protocol.parseRequest wire req.body = .ok requests)
    (silent : ∀ r ∈ requests, r.hasId = false) :
    processRequest wire reg req =
      reply .ok "application/json" (wire.serialize (.array [])) req.keepAlive := by
  have empty : reg.batchResponses requests = [] := by
    rw [MethodRegistry.batchResponses, List.filter_eq_nil_iff.mpr fun r h => by simp [silent r h],
      List.map_nil]
  rw [processRequest_of_ok wire reg req post json ok, if_pos (by simp [isBatchBody, parsed,
    Protocol.isBatchRequest, Value.isArray]), empty]
  rfl

theorem processRequest_log_batch :
    processRequest ⟨fun _ => .ok (.array [.object [("jsonrpc", .string "2.0"),
        ("method", .string "log")]]), fun _ => "[]"⟩ (MethodRegistry.new 2)
      ⟨.post, "application/json", "[\x7b\"jsonrpc\":\"2.0\",\"method\":\"log\"\x7d]", true⟩ =
      reply .ok "application/json" "[]" true :=
  processRequest_notification_batch _ _ _ rfl (by decide) rfl rfl
    (by simp [Request.notification, Request.hasId])

/-- `process_request` keeps the connection alive when the request asks for it, and also on
its 405, 415 and parse-error replies, built on a fresh HTTP/1.1 `res_` that it never sets. -/
theorem processRequest_keepAlive (req : HttpRequest) :
    (processRequest wire reg req).keepAlive =
      (req.keepAlive || !(decide (req.method = .post) &&
        containsText req.contentType "application/json" &&
        (Protocol.parseRequest wire req.body).toBool)) := by
  unfold processRequest
  by_cases post : req.method = .post
  · by_cases json : containsText req.contentType "application/json" = true
    · cases parsed : Protocol.parseRequest wire req.body with
      | error e => simp [post, json, reply, Except.toBool]
      | ok requests =>
          simp only [post, json, ne_eq, not_true_eq_false, if_false, Bool.not_true,
            Bool.false_eq_true]
          split
          · simp [reply, post, json, Except.toBool]
          · split <;> simp [reply, post, json, Except.toBool]
    · simp [post, json, reply]
  · simp [post, reply]

/-! ### The connection

`start()` calls `do_read`; each completion handler either starts the next operation or ends
the session. -/

/-- Where a session is: the operation it has outstanding, or how it ended. -/
inductive Phase where
  /-- `do_read`: an `async_read` of the next request is pending. -/
  | reading
  /-- `do_write`: an `async_write` of `res_` is pending, with the `close` flag it captured. -/
  | writing (res : HttpResponse) (close : Bool)
  /-- `do_close`: the socket was shut down for sending. -/
  | closed
  /-- A handler logged an error and returned without starting another operation. -/
  | abandoned
  deriving DecidableEq, Repr

/-- How an `async_read` completes. -/
inductive ReadResult where
  | endOfStream
  | failed (message : String)
  | request (req : HttpRequest)
  deriving DecidableEq, Repr

/-- A completion delivered to the session: of the read, or of the write with the message of
its error code, if any. -/
inductive Event where
  | read (result : ReadResult)
  | written (failed : Option String)
  deriving DecidableEq, Repr

/-- `do_write`: `close` is `!res_.keep_alive()`, read before the write starts. -/
def doWrite (res : HttpResponse) : Phase := .writing res (!res.keepAlive)

/-- `on_read`: the end of the stream closes the session, another error ends it, and a request
goes through `process_request` to its `do_write`. -/
def onRead : ReadResult → Phase
  | .endOfStream => .closed
  | .failed _ => .abandoned
  | .request req => doWrite (processRequest wire reg req)

/-- `on_write`: an error ends the session; otherwise it closes, or reads the next request. -/
def onWrite (failed : Option String) (close : Bool) : Phase :=
  match failed with
  | some _ => .abandoned
  | none => if close then .closed else .reading

/-- One completion: only the operation outstanding can complete. -/
def step : Phase → Event → Option Phase
  | .reading, .read result => some (onRead wire reg result)
  | .writing _ close, .written failed => some (onWrite failed close)
  | _, _ => none

/-- A session from `phase` over a sequence of completions; `none` if one of them was not
outstanding. -/
def run (phase : Phase) (events : List Event) : Option Phase :=
  events.foldlM (step wire reg) phase

/-- Whenever a session is reading, a request read and answered by a successful write leaves it
reading again exactly when the reply keeps the connection alive: when the request asked for
keep-alive, or when `process_request` rejected it. -/
theorem run_reply (history : List Event) (req : HttpRequest)
    (ready : run wire reg .reading history = some .reading) :
    run wire reg .reading (history ++ [.read (.request req), .written none]) =
      some (if req.keepAlive || !(decide (req.method = .post) &&
          containsText req.contentType "application/json" &&
          (Protocol.parseRequest wire req.body).toBool) then .reading else .closed) := by
  rw [run, List.foldlM_append, ← run, ready, ← processRequest_keepAlive]
  show some (onWrite none (!(processRequest wire reg req).keepAlive)) = _
  cases (processRequest wire reg req).keepAlive <;> rfl

/-- A request that asks to close the connection and that `process_request` rejects with a 405,
a 415 or a parse error, read at any point of a session's life: once the reply is written, the
session reads again instead of shutting the connection down. -/
theorem rejected_close_request_keeps_reading (history : List Event) (req : HttpRequest)
    (ready : run wire reg .reading history = some .reading) (close : req.keepAlive = false)
    (rejected : req.method ≠ .post ∨ containsText req.contentType "application/json" = false ∨
      ∃ e, Protocol.parseRequest wire req.body = .error e) :
    run wire reg .reading (history ++ [.read (.request req), .written none]) = some .reading := by
  rw [run_reply wire reg history req ready, close, Bool.false_or]
  rcases rejected with method | json | ⟨e, parsed⟩
  · simp [method]
  · simp [json]
  · simp [parsed, Except.toBool]

/-- The failing input: a fresh session reads `GET / HTTP/1.1` with `Connection: close`. -/
theorem get_with_connection_close_keeps_reading :
    let req : HttpRequest := ⟨.other "GET", "", "", keepAliveOf 11 ["close"]⟩
    let wire : JsonWire := ⟨fun _ => .error "", fun _ => ""⟩
    run wire (MethodRegistry.new 2) .reading [] = some .reading ∧ req.keepAlive = false ∧
      (req.method ≠ .post ∨ containsText req.contentType "application/json" = false ∨
        ∃ e, Protocol.parseRequest wire req.body = .error e) ∧
      run wire (MethodRegistry.new 2) .reading ([] ++ [.read (.request req), .written none]) =
        some .reading := by
  intro req wire
  have rejected : req.method ≠ .post ∨ containsText req.contentType "application/json" = false ∨
      ∃ e, Protocol.parseRequest wire req.body = .error e := .inl (by decide)
  exact ⟨rfl, rfl, rejected,
    rejected_close_request_keeps_reading wire _ [] req rfl rfl rejected⟩

end ServerSession

namespace ClientSession

variable (wire : JsonWire)

/-- The request `send_request_sync` writes: an HTTP/1.1 `POST` of the body as JSON. -/
def postJson (body : String) : HttpRequest :=
  { method := .post, contentType := "application/json", body, keepAlive := true }

/-- `ClientSession::call`, over `send_request_sync` as `send`, which returns the response
body or throws the `InternalError` of a network failure. -/
def call (send : String → Except Error String) (request : Request) : Except Error Response := do
  let body ← send (Protocol.serializeRequest wire request)
  Protocol.parseResponse wire body

/-- A transport that hands every body to a server session and brings back the body of its
reply. -/
def serve (reg : MethodRegistry) (body : String) : Except Error String :=
  pure (ServerSession.processRequest wire reg (postJson body)).body


theorem containsText_json : containsText "application/json" "application/json" = true := by
  decide

/-- A request the envelope carries intact: a method without `U+0000`, params an array, object
or null, and an id, if any, a string, number or null. -/
theorem fromJson_toJson_of_valid (r : Request)
    (valid : nul ∉ r.method.data ∧ r.params.isParamsValue ∧ ∀ v, r.id? = some v → v.isIdValue) :
    Request.fromJson (.object r.toJson) = .ok r :=
  Request.fromJson_toJson r valid.1 valid.2.1 valid.2.2

/-- `call` of a request with an id through a server session: the client gets the response
`invoke_batch` computes for it, as `Response::from_json` rereads it. -/
theorem call_serve (reg : MethodRegistry) (request : Request) (hasId : request.hasId = true)
    (valid : nul ∉ request.method.data ∧ request.params.isParamsValue ∧
      ∀ v, request.id? = some v → v.isIdValue)
    (requestTrip : wire.parse (Protocol.serializeRequest wire request) =
      .ok (.object request.toJson))
    (responseTrip : wire.parse (Protocol.serializeResponse wire (reg.batchSlot request)) =
      .ok (.object (reg.batchSlot request).toJson)) :
    call wire (serve wire reg) request = .ok (reg.batchSlot request).reread := by
  have parsed : Protocol.parseRequest wire (Protocol.serializeRequest wire request) =
      .ok [request] := by
    simp only [Protocol.parseRequest, requestTrip, fromJson_toJson_of_valid request valid,
      except_ok_bind, except_pure]
  have answer := ServerSession.processRequest_of_ok wire reg
    (postJson (Protocol.serializeRequest wire request)) rfl containsText_json parsed
  rw [if_neg (by simp [ServerSession.isBatchBody, postJson, requestTrip, Protocol.isBatchRequest,
    Value.isArray]), MethodRegistry.batchResponses_cons] at answer
  simp only [hasId, if_true, MethodRegistry.batchResponses, List.filter_nil, List.map_nil,
    List.singleton_append] at answer
  simp only [call, serve, answer, ServerSession.reply, Protocol.parseResponse, responseTrip,
    Value.isObject, Bool.not_true, Bool.false_eq_true, if_false, Response.fromJson_toJson,
    except_pure, except_ok_bind]

/-- A procedure `fail` that throws `jsonrpc::Error(ServerError, "boom", true)`, called with
id `1`: in process `invoke` answers with that error, while through a server session and the
client the error comes back with an empty message. -/
theorem call_serve_loses_error_message (wire : JsonWire)
    (requestTrip : wire.parse (Protocol.serializeRequest wire
        (.call "fail" .null (.int64 ⟨1, by omega, by omega⟩))) =
      .ok (.object (Request.call "fail" .null (.int64 ⟨1, by omega, by omega⟩)).toJson))
    (responseTrip : wire.parse (Protocol.serializeResponse wire
        (.ofError { code := .serverError, message := "boom", data := .bool true }
          (.int64 ⟨1, by omega, by omega⟩))) =
      .ok (.object (Response.ofError { code := .serverError, message := "boom", data := .bool true }
          (.int64 ⟨1, by omega, by omega⟩)).toJson)) :
    let reg := (MethodRegistry.new 2).registerMethod "fail"
      fun _ => .error (.error { code := .serverError, message := "boom", data := .bool true })
    reg.invoke (.call "fail" .null (.int64 ⟨1, by omega, by omega⟩)) =
        .ok (.ofError { code := .serverError, message := "boom", data := .bool true }
          (.int64 ⟨1, by omega, by omega⟩)) ∧
      call wire (serve wire reg) (.call "fail" .null (.int64 ⟨1, by omega, by omega⟩)) =
        .ok (.ofError { code := .serverError, message := "", data := .bool true }
          (.int64 ⟨1, by omega, by omega⟩)) := by
  intro reg
  refine ⟨rfl, ?_⟩
  rw [call_serve wire reg (.call "fail" .null (.int64 ⟨1, by omega, by omega⟩)) rfl
    ⟨by decide, rfl, fun v h => by cases h; rfl⟩ requestTrip responseTrip]
  rfl


/-- The request and the error reply of the failing input, and a JSON layer that gives both
back. -/
theorem call_serve_loses_error_message_on_a_wire :
    let request : Value :=
      .object (Request.call "fail" .null (.int64 ⟨1, by omega, by omega⟩)).toJson
    let response : Value := .object (Response.ofError
      { code := .serverError, message := "boom", data := .bool true }
      (.int64 ⟨1, by omega, by omega⟩)).toJson
    let wire : JsonWire := ⟨fun s => if s = "q" then .ok request else .ok response,
      fun v => if v = request then "q" else "r"⟩
    call wire (serve wire ((MethodRegistry.new 2).registerMethod "fail"
      fun _ => .error (.error { code := .serverError, message := "boom", data := .bool true })))
      (.call "fail" .null (.int64 ⟨1, by omega, by omega⟩)) =
        .ok (.ofError { code := .serverError, message := "", data := .bool true }
          (.int64 ⟨1, by omega, by omega⟩)) :=
  (call_serve_loses_error_message _ rfl rfl).2

end ClientSession

end JsonRpc
