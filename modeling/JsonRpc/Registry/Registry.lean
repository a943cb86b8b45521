import JsonRpc.Types
import JsonRpc.Data.StdMap

namespace JsonRpc

/-- What a procedure, or the code around it, can throw: a `jsonrpc::Error`, another
`std::exception` with its `what()`, or a value of a type that derives from neither. -/
inductive Exception where
  | error (e : Error)
  | standard (what : String)
  | other
  deriving DecidableEq, Repr

/-- `MethodWrapperBase::invoke` of a registered procedure: the JSON result, or the exception
that escapes it. -/
abbrev MethodWrapper := Value → Except Exception Value

/-- `detail::MethodRegistry`: the procedures by name (`methods_`) and the `std::size_t` thread
count `batch_thread_count_`, which is never zero; the pool is built from it by `poolThreads`. -/
structure MethodRegistry where
  methods : StdMap MethodWrapper
  batchThreadCount : Nat
  batchThreadCount_pos : 0 < batchThreadCount

namespace MethodRegistry

/-- `MethodRegistry()`: no procedures, and `max(2, hardware_concurrency())` batch threads. -/
def new (hardwareConcurrency : Nat) : MethodRegistry :=
  ⟨.empty, max 2 hardwareConcurrency, by omega⟩

/-- `MethodRegistry::set_batch_concurrency`: a request for zero threads gets one. The old
pool is stopped and joined and a new one is built; what that does to tasks still queued in
the old pool is modelled with the pool itself. -/
def setBatchConcurrency (reg : MethodRegistry) (threads : Nat) : MethodRegistry :=
  { reg with
    batchThreadCount := if threads = 0 then 1 else threads
    batchThreadCount_pos := by split <;> omega }

/-- The thread count the batch pool is built with: `static_cast<unsigned>(batch_thread_count_)`,
the count modulo `2^32`. -/
def poolThreads (reg : MethodRegistry) : Nat := reg.batchThreadCount % 4294967296

/-- Below `2^32` the pool has as many threads as the registry counts. -/
theorem poolThreads_of_lt (reg : MethodRegistry) (lt : reg.batchThreadCount < 4294967296) :
    reg.poolThreads = reg.batchThreadCount :=
  Nat.mod_eq_of_lt lt

/-- `set_batch_concurrency(threads)` builds a pool of `threads` threads modulo `2^32`, and one
for zero: a nonzero multiple of `2^32` gives a pool with no thread. -/
theorem poolThreads_setBatchConcurrency (reg : MethodRegistry) (threads : Nat) :
    (reg.setBatchConcurrency threads).poolThreads =
      if threads = 0 then 1 else threads % 4294967296 := by
  unfold poolThreads setBatchConcurrency
  split <;> rfl

/-- `MethodRegistry::register_method`: `methods_[name] = wrapper`. -/
def registerMethod (reg : MethodRegistry) (name : String) (wrapper : MethodWrapper) :
    MethodRegistry :=
  { reg with methods := reg.methods.insert name wrapper }

/-- `MethodRegistry::invoke`. A `jsonrpc::Error` becomes an error response as it is, another
`std::exception` an `InternalError`; an exception of any other type escapes. -/
def invoke (reg : MethodRegistry) (request : Request) : Except Exception Response :=
  match reg.methods.find? request.method with
  | none =>
      pure (.ofError { code := .methodNotFound, message := "方法不存在: " ++ request.method }
        request.id)
  | some wrapper =>
      match wrapper request.params with
      | .ok result => pure (.ofResult result request.id)
      | .error (.error e) => pure (.ofError e request.id)
      | .error (.standard what) =>
          pure (.ofError { code := .internalError, message := "内部错误: " ++ what } request.id)
      | .error .other => throw .other

/-- Every response `invoke` returns carries the request's id, and the only exception that
leaves it is one of a type derived from neither `jsonrpc::Error` nor `std::exception`. -/
theorem invoke_id_and_escape (reg : MethodRegistry) (request : Request) :
    (∀ response, reg.invoke request = .ok response → response.id = request.id) ∧
      ∀ ex, reg.invoke request = .error ex → ex = .other := by
  unfold invoke
  split
  · exact ⟨fun _ h => by cases h; rfl, fun _ h => by cases h⟩
  · split <;> constructor <;> intro _ h <;> cases h <;> rfl

/-- The response a batch task records for a request with an id: what `invoke` returns, or an
`InternalError` with the request's id when an exception escapes it (`catch (...)`). -/
def batchSlot (reg : MethodRegistry) (request : Request) : Response :=
  match reg.invoke request with
  | .ok response => response
  | .error _ => .ofError { code := .internalError, message := "批量调用失败" } request.id

/-- What `invoke_batch` returns, as a function: the slot of every request with an id, in
request order. `invokeBatch_interleavings` proves that every interleaving of the batch pool
returns exactly this list. -/
def batchResponses (reg : MethodRegistry) (requests : List Request) : List Response :=
  (requests.filter Request.hasId).map reg.batchSlot

theorem batchResponses_cons (reg : MethodRegistry) (request : Request)
    (requests : List Request) :
    reg.batchResponses (request :: requests) =
      (if request.hasId then [reg.batchSlot request] else []) ++
        reg.batchResponses requests := by
  cases h : request.hasId <;> simp [batchResponses, List.filter_cons, h]

end MethodRegistry

end JsonRpc
