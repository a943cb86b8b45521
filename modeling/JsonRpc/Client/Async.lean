import JsonRpc.Converter
import JsonRpc.Protocol
import JsonRpc.Registry.Registry

namespace JsonRpc

/-! `ClientSession::async_call`: the continuation chain of `send_request_async` through
`do_connect`, `do_write` and `do_read`, and the handler `async_call` hands it, which calls the
user's callback. -/

namespace ClientSession

/-- How one asynchronous operation completes: `none` on success, or the `message()` of its
error code. The stream's timeout completes a pending operation with an error code. -/
abbrev Completion := Option String

/-- The completions of the phases of one run of the chain, and the body `res_` holds once the
read succeeds. -/
structure Pipeline where
  resolve : Completion
  connect : Completion
  write : Completion
  read : Completion
  body : String
  deriving DecidableEq, Repr

/-- `do_connect`: `async_resolve`, then `async_connect` once the name is resolved. -/
def doConnect (p : Pipeline) : Completion :=
  match p.resolve with
  | some ec => some ec
  | none => p.connect

/-- `send_request_async`: what its callback is called with, the error code of a failed phase
with an empty body, or no error and the body of the response. -/
def sendRequestAsync (p : Pipeline) : Completion × String :=
  match doConnect p with
  | some ec => (some ec, "")
  | none =>
      match p.write with
      | some ec => (some ec, "")
      | none =>
          match p.read with
          | some ec => (some ec, "")
          | none => (none, p.body)

/-- The handler `async_call` hands `send_request_async`, over the user's callback: the
responses it calls the callback with, in order, and how it ends, normally or with the
exception that leaves it. The `try` block also holds the call of the callback on the parsed
response, so a `jsonrpc::Error` the callback throws there is caught like a parse error. -/
def asyncCallHandler (wire : JsonWire) (callback : Response → Except Exception Unit)
    (ec : Completion) (body : String) : List Response × Except Exception Unit :=
  match ec with
  | some what =>
      let errorResponse : Response :=
        .ofError { code := .internalError, message := "网络错误: " ++ what } .null
      ([errorResponse], callback errorResponse)
  | none =>
      match Protocol.parseResponse wire body with
      | .ok response =>
          match callback response with
          | .error (.error e) =>
              let errorResponse : Response := .ofError e .null
              ([response, errorResponse], callback errorResponse)
          | outcome => ([response], outcome)
      | .error e =>
          let errorResponse : Response := .ofError e .null
          ([errorResponse], callback errorResponse)

/-- `async_call(request, callback)` over one run of the chain. The request only decides the
body the write sends; the server's answer is the run's `body`. -/
def asyncCall (wire : JsonWire) (callback : Response → Except Exception Unit) (p : Pipeline) :
    List Response × Except Exception Unit :=
  asyncCallHandler wire callback (sendRequestAsync p).1 (sendRequestAsync p).2

/-- The first phase of the run that fails, if any. -/
def Pipeline.failure (p : Pipeline) : Completion :=
  p.resolve <|> p.connect <|> p.write <|> p.read

/-- `send_request_async` reports the first phase that fails, or the body when none does. -/
theorem sendRequestAsync_eq (p : Pipeline) :
    sendRequestAsync p =
      match p.failure with
      | some ec => (some ec, "")
      | none => (none, p.body) := by
  obtain ⟨resolve, connect, write, read, body⟩ := p
  cases resolve <;> cases connect <;> cases write <;> cases read <;> rfl

/-- The responses the callback gets, in order: the one the run calls for, then, if the callback
threw a `jsonrpc::Error` on a parsed response, that error under a null id. -/
theorem asyncCall_deliveries (wire : JsonWire) (callback : Response → Except Exception Unit)
    (p : Pipeline) :
    (asyncCall wire callback p).1 =
      match p.failure with
      | some what => [.ofError { code := .internalError, message := "网络错误: " ++ what } .null]
      | none =>
          match Protocol.parseResponse wire p.body with
          | .error e => [.ofError e .null]
          | .ok response =>
              response :: match callback response with
                | .error (.error e) => [.ofError e .null]
                | _ => [] := by
  rw [asyncCall, sendRequestAsync_eq]
  cases p.failure with
  | some what => rfl
  | none =>
      dsimp only [asyncCallHandler]
      cases Protocol.parseResponse wire p.body with
      | error e => rfl
      | ok response =>
          dsimp only
          cases callback response with
          | ok u => rfl
          | error ex => cases ex <;> rfl

/-- A run in which every phase succeeds and the body parses, with a callback that throws a
`jsonrpc::Error` on the response, for instance while it decodes the result: the callback is
called a second time, with an error response made of what it threw. -/
theorem asyncCall_calls_throwing_callback_twice (wire : JsonWire)
    (callback : Response → Except Exception Unit) (p : Pipeline) (response : Response)
    (e : Error) (resolved : p.resolve = none) (connected : p.connect = none)
    (written : p.write = none) (read : p.read = none)
    (parsed : Protocol.parseResponse wire p.body = .ok response)
    (throws : callback response = .error (.error e)) :
    (asyncCall wire callback p).1 = [response, .ofError e .null] := by
  have succeeded : p.failure = none := by
    simp [Pipeline.failure, resolved, connected, written, read]
  rw [asyncCall_deliveries]
  simp only [succeeded, parsed, throws]

/-- The failing input: the server answers `\x7b"jsonrpc":"2.0","result":42,"id":1\x7d` and the
callback decodes the result with `json_converter<std::string>`. -/
theorem asyncCall_string_decoding_callback_called_twice :
    let response : Response := .ofResult (.int64 ⟨42, by omega, by omega⟩)
      (.int64 ⟨1, by omega, by omega⟩)
    let wire : JsonWire := ⟨fun _ => .ok (.object [("jsonrpc", .string "2.0"),
      ("result", .int64 ⟨42, by omega, by omega⟩), ("id", .int64 ⟨1, by omega, by omega⟩)]),
      fun _ => ""⟩
    let callback : Response → Except Exception Unit := fun r =>
      match r with
      | .ofResult result _ => ((Converter.fromJson .string result).map fun _ => ()).mapError .error
      | .ofError _ _ => pure ()
    let p : Pipeline :=
      ⟨none, none, none, none, "\x7b\"jsonrpc\":\"2.0\",\"result\":42,\"id\":1\x7d"⟩
    p.resolve = none ∧ p.connect = none ∧ p.write = none ∧ p.read = none ∧
      Protocol.parseResponse wire p.body = .ok response ∧
      callback response = .error (.error (Converter.mismatch "期望 string 类型")) ∧
      (asyncCall wire callback p).1 =
        [response, .ofError (Converter.mismatch "期望 string 类型") .null] := by
  intro response wire callback p
  have parsed : Protocol.parseResponse wire p.body = .ok response := rfl
  have throws : callback response = .error (.error (Converter.mismatch "期望 string 类型")) := rfl
  exact ⟨rfl, rfl, rfl, rfl, parsed, throws,
    asyncCall_calls_throwing_callback_twice wire callback p response _ rfl rfl rfl rfl parsed
      throws⟩

end ClientSession

end JsonRpc
