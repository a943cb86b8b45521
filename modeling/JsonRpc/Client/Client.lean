import Mathlib.Data.List.GetD
import JsonRpc.Client.Async
import JsonRpc.Registry.Wrapper
import JsonRpc.Server.Session

namespace JsonRpc

/-! `jsonrpc::Client`: the typed `call` over a fresh `ClientSession`, and what it returns when
the other end is a `ServerSession` over a registry. The text layer between them is the
abstract `JsonWire`; `JsonWire.Carries` says it gives a value back as `Value.reparse` does.
The chain is: the server reads the request as the text carried it (`Request.reparse`),
`invoke_batch` computes its slot, and the client reads that slot as the text carried it back
(`Response.reparse`, then `Response::from_json`). -/

/-! ## Envelopes through the text layer -/

namespace Value

@[simp] theorem isNull_reparse (v : Value) : v.reparse.isNull = v.isNull := by
  cases v <;> try rfl
  case uint64 n => simp only [reparse]; split <;> rfl

@[simp] theorem isParamsValue_reparse (v : Value) : v.reparse.isParamsValue = v.isParamsValue := by
  cases v <;> try rfl
  case uint64 n => simp only [reparse]; split <;> rfl

@[simp] theorem isIdValue_reparse (v : Value) : v.reparse.isIdValue = v.isIdValue := by
  cases v <;> try rfl
  case uint64 n => simp only [reparse]; split <;> rfl

end Value

/-- The request the server reads from the text of `r`. -/
def Request.reparse (r : Request) : Request :=
  ⟨r.method, r.params.reparse, r.id?.map Value.reparse⟩

/-- The response the client reads from the text of `r`. -/
def Response.reparse : Response → Response
  | .ofResult result id => .ofResult result.reparse id.reparse
  | .ofError error id => .ofError { error with data := error.data.reparse } id.reparse

namespace ClientSession

variable (wire : JsonWire)

end ClientSession

/-! ## `Client::call` -/

namespace Int64

/-- The `std::int64_t` an integer wraps to: its value modulo `2^64`, read as two's complement. -/
def ofInt (z : Int) : Int64 :=
  ⟨z.bmod 18446744073709551616,
    by have := Int.le_bmod (x := z) (m := 18446744073709551616) (by decide); omega,
    by have := Int.bmod_lt (x := z) (m := 18446744073709551616) (by decide); omega⟩

/-- The store of `fetch_add(1)` on a `std::atomic<int64_t>`: one more, wrapping from
`INT64_MAX` to `INT64_MIN`, since atomic arithmetic on signed integers is two's complement. -/
def wrappingSucc (x : Int64) : Int64 := ofInt (x.toInt + 1)

end Int64

/-- The arguments of a call as the `params` array `Client::call` builds:
`json_converter<decay<Args>>::to_json(args)...`, in order. -/
def Args.toJson : {cs : List JsonConverter} → Args cs → List Value
  | [], _ => []
  | c :: _, args => c.toJson args.1 :: Args.toJson args.2

namespace Args

end Args

/-- The part of `Client::Impl` a call reads and changes: `next_id_`. -/
structure Client where
  nextId : Int64
  deriving DecidableEq, Repr

namespace Client

/-- `Client(host, port)`: `next_id_(1)`. -/
def new : Client := ⟨⟨1, by omega, by omega⟩⟩

/-- `Impl::generate_id`: `boost::json::value(next_id_.fetch_add(1))`. -/
def generateId (c : Client) : Value × Client := (.int64 c.nextId, ⟨c.nextId.wrappingSucc⟩)

/-- The request `call` sends: `Request(method, params, id)` with the id `generate_id` takes. -/
def request (c : Client) (method : String) {cs : List JsonConverter} (args : Args cs) : Request :=
  .call method (.array args.toJson) c.generateId.1

/-- `Client::call<Result>(method, args...)`, over `send_request_sync` as `send`: `Impl::call`
of the request on a fresh session, then `throw response.error()` for an error response and
`json_converter<Result>::from_json` of the result. The response's id is not read, and the id is
taken before the call, so a call that throws uses one up too. -/
def call (wire : JsonWire) (send : String → Except Error String) (c : Client) (method : String)
    {cs : List JsonConverter} (args : Args cs) (result : JsonConverter) :
    Except Error result.Denote × Client :=
  (do
    let response ← ClientSession.call wire send (c.request method args)
    match response with
    | .ofError error _ => throw error
    | .ofResult value _ => result.fromJson value,
    c.generateId.2)

section ThroughServer

variable (wire : JsonWire) (reg : MethodRegistry) (c : Client) (method : String)

end ThroughServer

/-- `Client::async_call(method, callback, args...)`: the same request as `call`, handed to
`Impl::async_call` on a fresh session whose chain runs as `p`, with what that session does.
The request only decides the body the chain writes, which `p` abstracts. -/
def asyncCall (wire : JsonWire) (c : Client) (method : String)
    (callback : Response → Except Exception Unit) {cs : List JsonConverter} (args : Args cs)
    (p : ClientSession.Pipeline) : Request × (List Response × Except Exception Unit) × Client :=
  (c.request method args, ClientSession.asyncCall wire callback p, c.generateId.2)

/-- `Client::notify(method, args...)`: the notification it sends, with the params array `call`
builds. `ClientSession::notify` swallows every failure, and `next_id_` is not read. -/
def notification (method : String) {cs : List JsonConverter} (args : Args cs) : Request :=
  .notification method (.array args.toJson)

/-- The operations of `Client` that build their own request. -/
inductive Op : Type 1 where
  | call (method : String) (params : List JsonConverter) (args : Args params)
      (result : JsonConverter)
  | asyncCall (method : String) (params : List JsonConverter) (args : Args params)
      (callback : Response → Except Exception Unit) (p : ClientSession.Pipeline)
  | notify (method : String) (params : List JsonConverter) (args : Args params)

namespace Op

/-- `call` and `async_call` take an id; `notify` does not. -/
def takesId : Op → Bool
  | .notify .. => false
  | _ => true

variable (wire : JsonWire) (send : String → Except Error String)

/-- One operation on a client: the request it sends, and the client it leaves. -/
def run (c : Client) : Op → Request × Client
  | .call method _ args result => (c.request method args, (c.call wire send method args result).2)
  | .asyncCall method _ args callback p =>
      ((c.asyncCall wire method callback args p).1, (c.asyncCall wire method callback args p).2.2)
  | .notify method _ args => (notification method args, c)

theorem run_id? (c : Client) (op : Op) :
    (op.run wire send c).1.id? = if op.takesId then some (.int64 c.nextId) else none := by
  cases op <;> rfl

theorem run_client (c : Client) (op : Op) :
    (op.run wire send c).2 = if op.takesId then ⟨c.nextId.wrappingSucc⟩ else c := by
  cases op <;> rfl

end Op

/-- The requests a run of operations sends, in order. -/
def sendAll (wire : JsonWire) (send : String → Except Error String) :
    Client → List Op → List Request
  | _, [] => []
  | c, op :: rest => (op.run wire send c).1 :: sendAll wire send (op.run wire send c).2 rest

end Client

namespace Int64

theorem toInt_wrappingSucc (x : Int64) :
    x.wrappingSucc.toInt = (x.toInt + 1).bmod 18446744073709551616 := rfl

/-- `k` steps after a `fetch_add(1)` are `k + 1` steps from before it. -/
theorem bmod_wrappingSucc_add (x : Int64) (k : Nat) :
    (x.wrappingSucc.toInt + k).bmod 18446744073709551616 =
      (x.toInt + ((k + 1 : Nat) : Int)).bmod 18446744073709551616 := by
  rw [toInt_wrappingSucc, Int.bmod_add_bmod_congr]
  congr 1
  omega

theorem bmod_toInt (x : Int64) : x.toInt.bmod 18446744073709551616 = x.toInt := by
  have := x.min_le
  have := x.lt_max
  simp only [Int.bmod]
  split <;> omega

theorem ofInt_toInt (x : Int64) : ofInt x.toInt = x := Int64.ext x.bmod_toInt

theorem ofInt_wrappingSucc_add (x : Int64) (k : Nat) :
    ofInt (x.wrappingSucc.toInt + k) = ofInt (x.toInt + ((k + 1 : Nat) : Int)) :=
  Int64.ext (x.bmod_wrappingSucc_add k)

/-- Fewer than `2^64` steps of `fetch_add(1)` never come back to where they started. -/
theorem bmod_add_ne (x : Int64) {k : Nat} (pos : 0 < k) (lt : k < 18446744073709551616) :
    (x.toInt + k).bmod 18446744073709551616 ≠ x.toInt := by
  have := x.min_le
  have := x.lt_max
  simp only [Int.bmod]
  split <;> omega

end Int64

namespace Client

variable (wire : JsonWire) (send : String → Except Error String)

theorem length_sendAll : ∀ (c : Client) (ops : List Op),
    (sendAll wire send c ops).length = ops.length
  | _, [] => rfl
  | _, _ :: rest => congrArg (· + 1) (length_sendAll _ rest)

/-- The `i`-th request of a run carries no id for a `notify`, and otherwise the client's next id
advanced by the earlier operations that took one, modulo `2^64`. -/
theorem id?_getElem?_sendAll : ∀ (c : Client) (ops : List Op) (i : Nat) {op : Op},
    ops[i]? = some op → ((sendAll wire send c ops)[i]?).map Request.id? =
      some (if op.takesId then
        some (.int64 (.ofInt (c.nextId.toInt + ((ops.take i).filter Op.takesId).length)))
      else none)
  | _, [], _, _, found => by simp at found
  | c, op :: rest, 0, _, found => by
      obtain rfl : op = _ := by simpa using found
      simp [sendAll, Op.run_id?, Int64.ofInt_toInt]
  | c, op :: rest, i + 1, _, found => by
      rw [List.getElem?_cons_succ] at found
      rw [sendAll, List.getElem?_cons_succ, id?_getElem?_sendAll _ rest i found, Op.run_client]
      cases takes : op.takesId
      · simp [takes]
      · simp only [takes, if_true, List.take_succ_cons, List.filter_cons, List.length_cons,
          Int64.ofInt_wrappingSucc_add]

/-- Every id a run sends is the client's next id advanced by the number of earlier operations
that took one, modulo `2^64`. -/
theorem mem_ids_sendAll : ∀ (c : Client) (ops : List Op) {v : Value},
    v ∈ (sendAll wire send c ops).filterMap Request.id? →
      ∃ i : Int64, ∃ k < (ops.filter Op.takesId).length,
        v = .int64 i ∧ i.toInt = (c.nextId.toInt + k).bmod 18446744073709551616
  | _, [], _, sent => by simp [sendAll] at sent
  | c, op :: rest, v, sent => by
      rw [sendAll, List.filterMap_cons, Op.run_id?, Op.run_client] at sent
      cases takes : op.takesId with
      | false =>
          simp only [takes, if_false, Bool.false_eq_true] at sent
          simpa [takes] using mem_ids_sendAll c rest sent
      | true =>
          simp only [takes, if_true, List.mem_cons] at sent
          rcases sent with first | later
          · exact ⟨c.nextId, 0, by simp [takes], first, by simp [Int64.bmod_toInt]⟩
          · obtain ⟨i, k, lt, rfl, next⟩ := mem_ids_sendAll _ rest later
            exact ⟨i, k + 1, by simpa [takes] using lt, rfl,
              next.trans (Int64.bmod_wrappingSucc_add c.nextId k)⟩

/-- A client never sends two requests with the same id while fewer than `2^64` of its
operations have taken one; the `2^64`-th wraps round to the first id. -/
theorem sendAll_ids_pairwise_ne : ∀ (c : Client) (ops : List Op),
    (ops.filter Op.takesId).length ≤ 18446744073709551616 →
      ((sendAll wire send c ops).filterMap Request.id?).Pairwise (· ≠ ·)
  | _, [], _ => by simp [sendAll]
  | c, op :: rest, few => by
      rw [sendAll, List.filterMap_cons, Op.run_id?, Op.run_client]
      cases takes : op.takesId with
      | false =>
          simp only [Bool.false_eq_true, if_false]
          exact sendAll_ids_pairwise_ne c rest (by simpa [takes] using few)
      | true =>
          simp only [if_true]
          simp only [List.filter_cons, takes, if_true, List.length_cons] at few
          refine List.Pairwise.cons (fun v later same => ?_)
            (sendAll_ids_pairwise_ne _ rest (by omega))
          obtain ⟨i, k, lt, rfl, next⟩ := mem_ids_sendAll wire send _ rest later
          have wrapped : (c.nextId.toInt + ((k + 1 : Nat) : Int)).bmod 18446744073709551616 =
              c.nextId.toInt :=
            calc _ = (c.nextId.wrappingSucc.toInt + k).bmod 18446744073709551616 :=
                  (Int64.bmod_wrappingSucc_add c.nextId k).symm
              _ = i.toInt := next.symm
              _ = c.nextId.toInt := by rw [Value.int64.inj same]
          exact c.nextId.bmod_add_ne (Nat.succ_pos k) (by omega) wrapped

/-- The ids of a run of operations, whatever the transport does: the `i`-th request carries
none for a `notify`, and otherwise `next_id_` advanced by the earlier `call`s and `async_call`s,
those that threw included; fewer than `2^64` of them are pairwise distinct. -/
theorem sendAll_ids (c : Client) (ops : List Op) :
    (sendAll wire send c ops).length = ops.length ∧
      (∀ (i : Nat) (op : Op), ops[i]? = some op →
        ((sendAll wire send c ops)[i]?).map Request.id? =
          some (if op.takesId then
            some (.int64 (.ofInt (c.nextId.toInt + ((ops.take i).filter Op.takesId).length)))
          else none)) ∧
      ((ops.filter Op.takesId).length ≤ 18446744073709551616 →
        ((sendAll wire send c ops).filterMap Request.id?).Pairwise (· ≠ ·)) :=
  ⟨length_sendAll wire send c ops, fun i _ => id?_getElem?_sendAll wire send c ops i,
    sendAll_ids_pairwise_ne wire send c ops⟩

/-- Two calls around a notification, from a new client whose transport refuses every
connection: both calls throw, and they still send the ids `1` and `2`. -/
theorem sendAll_ids_of_new_client :
    let wire : JsonWire := ⟨fun _ => .ok .null, fun _ => ""⟩
    let send : String → Except Error String :=
      fun _ => .error { code := .internalError, message := "connection refused" }
    let args : Args [] := ()
    let ops : List Op := [.call "a" [] args Ty.int.converter, .notify "log" [] args,
      .call "b" [] args Ty.int.converter]
    (sendAll wire send new ops).filterMap Request.id? =
        [.int64 ⟨1, by omega, by omega⟩, .int64 ⟨2, by omega, by omega⟩] ∧
      ((sendAll wire send new ops).filterMap Request.id?).Pairwise (· ≠ ·) := by
  intro wire send args ops
  exact ⟨rfl, (sendAll_ids wire send new ops).2.2 (by decide)⟩

end Client

end JsonRpc
