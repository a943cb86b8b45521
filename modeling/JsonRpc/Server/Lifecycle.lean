import JsonRpc.Registry.Registry

namespace JsonRpc

/-! The lifecycle of `Server::Impl` under the operations one embedding thread issues:
`start()`, `run()` until a `stop()` ends it, `stop()` and `set_batch_concurrency()`. Each
`open`, `bind` and `listen` in `prepare_acceptor` may fail. -/

/-- Which step of `prepare_acceptor` fails, if any. -/
inductive AcceptorFault where
  | none
  | open
  | bind
  | listen
  deriving DecidableEq, Repr

/-- How a `Server` call ends. -/
inductive Outcome where
  | returned
  | logicError
  | systemError
  deriving DecidableEq, Repr

/-- The fields of `Server::Impl` the lifecycle reads and writes: `running_`, whether
`worker_thread_` holds a thread, whether `acceptor_` is open, `acceptor_ready_`, and the
registry. -/
structure ServerState where
  running : Bool
  worker : Bool
  acceptorOpen : Bool
  acceptorReady : Bool
  registry : MethodRegistry

namespace ServerState

/-- A server just constructed: `Impl` has run `prepare_acceptor`, which must succeed for the
constructor to return. -/
def init (hardwareConcurrency : Nat) : ServerState :=
  ⟨false, false, true, true, MethodRegistry.new hardwareConcurrency⟩

/-- `Impl::prepare_acceptor`: nothing to do on a ready acceptor; otherwise `open`, which also
fails on an acceptor left open, then `bind` and `listen`. The flag says whether it returned. -/
def prepareAcceptor (fault : AcceptorFault) (s : ServerState) : ServerState × Bool :=
  if s.acceptorReady then (s, true)
  else if s.acceptorOpen || fault = .open then (s, false)
  else if fault = .bind || fault = .listen then ({ s with acceptorOpen := true }, false)
  else ({ s with acceptorOpen := true, acceptorReady := true }, true)

/-- `Impl::teardown_acceptor`. -/
def teardownAcceptor (s : ServerState) : ServerState :=
  if !s.acceptorReady then s else { s with acceptorOpen := false, acceptorReady := false }

/-- `Impl::start_async`: `try_enter_running`, `prepare_acceptor`, then the worker thread. -/
def start (fault : AcceptorFault) (s : ServerState) : ServerState × Outcome :=
  if s.running then (s, .logicError)
  else
    let prepared := prepareAcceptor fault { s with running := true }
    if prepared.2 then ({ prepared.1 with worker := true }, .returned)
    else (prepared.1, .systemError)

/-- `Impl::stop`: a server that is not running is left as it is; otherwise the acceptor is
torn down and the worker joined. -/
def stop (s : ServerState) : ServerState :=
  if !s.running then s
  else { teardownAcceptor { s with running := false } with worker := false }

/-- `Server::run` up to its return: the `RunningGuard` clears `running_` on every exit, and a
normal return follows the `stop()` that stopped the `io_context`. -/
def run (fault : AcceptorFault) (s : ServerState) : ServerState × Outcome :=
  if s.running then (s, .logicError)
  else
    let prepared := prepareAcceptor fault { s with running := true }
    if prepared.2 then ({ stop prepared.1 with running := false }, .returned)
    else ({ prepared.1 with running := false }, .systemError)

/-- `Server::set_batch_concurrency`. -/
def setBatchConcurrency (threads : Nat) (s : ServerState) : ServerState × Outcome :=
  if s.running then (s, .logicError)
  else ({ s with registry := s.registry.setBatchConcurrency threads }, .returned)

end ServerState

/-- One call from the embedding thread, with the faults it meets. -/
inductive ServerOp where
  | start (fault : AcceptorFault)
  | run (fault : AcceptorFault)
  | stop
  | setBatchConcurrency (threads : Nat)
  deriving DecidableEq, Repr

namespace ServerOp

/-- The state after the call and how it ended. -/
def exec : ServerOp → ServerState → ServerState × Outcome
  | .start fault, s => s.start fault
  | .run fault, s => s.run fault
  | .stop, s => (s.stop, .returned)
  | .setBatchConcurrency threads, s => s.setBatchConcurrency threads

/-- The calls in order, from the first. -/
def runAll (ops : List ServerOp) (s : ServerState) : ServerState :=
  ops.foldl (fun s op => (op.exec s).1) s

/-- A `start()` whose `prepare_acceptor` threw: the path that leaves `running_` set. -/
def failedStart (op : ServerOp) (s : ServerState) : Bool :=
  match op with
  | .start fault => (s.start fault).2 = .systemError
  | _ => false

/-- No call of the sequence is a `start()` whose `prepare_acceptor` threw. -/
def clean : List ServerOp → ServerState → Bool
  | [], _ => true
  | op :: rest, s => !op.failedStart s && clean rest (op.exec s).1

end ServerOp

namespace ServerState

variable {s : ServerState} {fault : AcceptorFault}

@[simp] theorem prepareAcceptor_running : (prepareAcceptor fault s).1.running = s.running := by
  unfold prepareAcceptor; split_ifs <;> rfl

@[simp] theorem prepareAcceptor_worker : (prepareAcceptor fault s).1.worker = s.worker := by
  unfold prepareAcceptor; split_ifs <;> rfl

@[simp] theorem prepareAcceptor_registry :
    (prepareAcceptor fault s).1.registry = s.registry := by
  unfold prepareAcceptor; split_ifs <;> rfl

/-- A `prepare_acceptor` that returns leaves the acceptor listening. -/
theorem prepareAcceptor_ready (ok : (prepareAcceptor fault s).2 = true) :
    (prepareAcceptor fault s).1.acceptorReady = true := by
  unfold prepareAcceptor at *
  split_ifs at * <;> simp_all

theorem prepareAcceptor_ready_open (h : s.acceptorReady = true → s.acceptorOpen = true) :
    (prepareAcceptor fault s).1.acceptorReady = true →
      (prepareAcceptor fault s).1.acceptorOpen = true := by
  unfold prepareAcceptor
  split_ifs <;> simp_all

/-- What holds between the calls of the embedding thread: a worker thread runs only on a
running server with a listening acceptor, and a listening acceptor is open. -/
structure Inv (s : ServerState) : Prop where
  worker_running : s.worker = true → s.running = true
  worker_ready : s.worker = true → s.acceptorReady = true
  ready_open : s.acceptorReady = true → s.acceptorOpen = true

theorem Inv.init (hardwareConcurrency : Nat) : Inv (init hardwareConcurrency) :=
  ⟨nofun, nofun, fun _ => rfl⟩

theorem Inv.idle (inv : Inv s) (idle : s.running = false) : s.worker = false := by
  cases h : s.worker
  · rfl
  · simp [inv.worker_running h] at idle

@[simp] theorem stop_running : s.stop.running = false := by
  unfold ServerState.stop teardownAcceptor
  split_ifs <;> simp_all

theorem Inv.stop_worker (inv : Inv s) : s.stop.worker = false := by
  unfold ServerState.stop
  split_ifs with idle
  · exact inv.idle (by simpa using idle)
  · rfl

theorem Inv.stop (inv : Inv s) : Inv s.stop where
  worker_running h := by simp [inv.stop_worker] at h
  worker_ready h := by simp [inv.stop_worker] at h
  ready_open := by
    unfold ServerState.stop teardownAcceptor
    split_ifs <;> simp_all [inv.ready_open]

theorem Inv.start (inv : Inv s) (fault : AcceptorFault) : Inv (s.start fault).1 := by
  unfold ServerState.start; dsimp only
  split_ifs with running ready
  · exact inv
  · have idle := inv.idle (by simpa using running)
    exact ⟨fun _ => by simp, fun _ => prepareAcceptor_ready ready,
      prepareAcceptor_ready_open inv.ready_open⟩
  · have idle := inv.idle (by simpa using running)
    exact ⟨by simp [idle], by simp [idle], prepareAcceptor_ready_open inv.ready_open⟩

theorem Inv.run (inv : Inv s) (fault : AcceptorFault) : Inv (s.run fault).1 := by
  unfold ServerState.run; dsimp only
  split_ifs with running ready
  · exact inv
  · have idle := inv.idle (by simpa using running)
    have prepared : Inv (prepareAcceptor fault { s with running := true }).1 :=
      ⟨by simp [idle], by simp [idle], prepareAcceptor_ready_open inv.ready_open⟩
    exact ⟨by simp [prepared.stop_worker], by simp [prepared.stop_worker],
      prepared.stop.ready_open⟩
  · have idle := inv.idle (by simpa using running)
    exact ⟨by simp [idle], by simp [idle], prepareAcceptor_ready_open inv.ready_open⟩

theorem Inv.setBatchConcurrency (inv : Inv s) (threads : Nat) :
    Inv (s.setBatchConcurrency threads).1 := by
  unfold ServerState.setBatchConcurrency
  split_ifs
  · exact inv
  · exact ⟨inv.worker_running, inv.worker_ready, inv.ready_open⟩

theorem start_logicError_iff : (s.start fault).2 = .logicError ↔ s.running = true := by
  unfold ServerState.start; dsimp only
  split_ifs <;> simp_all

theorem start_of_running (running : s.running = true) : s.start fault = (s, .logicError) := by
  simp [ServerState.start, running]

theorem run_logicError_iff : (s.run fault).2 = .logicError ↔ s.running = true := by
  unfold ServerState.run; dsimp only
  split_ifs <;> simp_all

/-- A `run()` that throws from `prepare_acceptor` leaves the server stopped: the guard. -/
theorem run_systemError (thrown : (s.run fault).2 = .systemError) :
    (s.run fault).1.running = false := by
  unfold ServerState.run at *; dsimp only at *
  split_ifs at *
  simp_all

/-- After `run()` returns, nothing runs and the acceptor is closed. -/
theorem run_returned (returned : (s.run fault).2 = .returned) :
    (s.run fault).1.running = false ∧ (s.run fault).1.worker = false ∧
      (s.run fault).1.acceptorOpen = false := by
  have idle : s.running = false := by
    cases h : s.running
    · rfl
    · simp [ServerState.run, h] at returned
  have ready : (prepareAcceptor fault { s with running := true }).2 = true := by
    by_contra h
    simp [ServerState.run, idle, h] at returned
  simp [ServerState.run, idle, ready, ServerState.stop, teardownAcceptor,
    prepareAcceptor_ready ready]

theorem stop_stop : s.stop.stop = s.stop := by
  simp [ServerState.stop.eq_1 s.stop]

theorem stop_acceptorOpen (running : s.running = true) (listening : s.acceptorReady = true) :
    s.stop.acceptorOpen = false := by
  simp [ServerState.stop, teardownAcceptor, running, listening]

theorem stop_of_idle (idle : s.running = false) : s.stop = s := by
  simp [ServerState.stop, idle]

theorem setBatchConcurrency_logicError_iff (threads : Nat) :
    (s.setBatchConcurrency threads).2 = .logicError ↔ s.running = true := by
  unfold ServerState.setBatchConcurrency
  split_ifs <;> simp_all

/-- An acceptor that a failed `bind` or `listen` left open and not listening: the `open` of
every later `prepare_acceptor` fails with `already_open`. -/
def Stuck (s : ServerState) : Prop := s.acceptorOpen = true ∧ s.acceptorReady = false

instance : DecidablePred Stuck := fun _ => inferInstanceAs (Decidable (_ ∧ _))

theorem prepareAcceptor_stuck (fault_bind : fault = .bind ∨ fault = .listen)
    (failed : (prepareAcceptor fault s).2 = false) : (prepareAcceptor fault s).1.Stuck := by
  obtain rfl | rfl := fault_bind <;> unfold prepareAcceptor at * <;> split_ifs at * <;>
    simp_all [Stuck]

theorem prepareAcceptor_of_stuck (stuck : s.Stuck) : prepareAcceptor fault s = (s, false) := by
  simp [prepareAcceptor, stuck.1, stuck.2]

theorem Stuck.start (stuck : s.Stuck) (fault : AcceptorFault) :
    (s.start fault).1.Stuck ∧ (s.start fault).2 ≠ .returned := by
  unfold ServerState.start
  split_ifs
  · exact ⟨stuck, nofun⟩
  · rw [prepareAcceptor_of_stuck (s := { s with running := true }) stuck]
    exact ⟨stuck, nofun⟩

theorem Stuck.run (stuck : s.Stuck) (fault : AcceptorFault) :
    (s.run fault).1.Stuck ∧ (s.run fault).2 ≠ .returned := by
  unfold ServerState.run
  split_ifs
  · exact ⟨stuck, nofun⟩
  · rw [prepareAcceptor_of_stuck (s := { s with running := true }) stuck]
    exact ⟨stuck, nofun⟩

theorem Stuck.stop (stuck : s.Stuck) : s.stop.Stuck := by
  unfold ServerState.stop teardownAcceptor
  split_ifs <;> simp_all [Stuck]

/-- A `start()` whose `bind` or `listen` fails leaves the acceptor stuck. -/
theorem start_stuck (fault_bind : fault = .bind ∨ fault = .listen)
    (thrown : (s.start fault).2 = .systemError) : (s.start fault).1.Stuck := by
  unfold ServerState.start at *; dsimp only at *
  split_ifs at * with running ready
  exact prepareAcceptor_stuck fault_bind (by simpa using ready)

/-- So does such a `run()`, whose guard only clears `running_`. -/
theorem run_stuck (fault_bind : fault = .bind ∨ fault = .listen)
    (thrown : (s.run fault).2 = .systemError) : (s.run fault).1.Stuck := by
  unfold ServerState.run at *; dsimp only at *
  split_ifs at * with running ready
  exact prepareAcceptor_stuck fault_bind (by simpa using ready)

theorem Inv.exec (inv : Inv s) (op : ServerOp) : Inv (op.exec s).1 := by
  cases op with
  | start fault => exact inv.start fault
  | run fault => exact inv.run fault
  | stop => exact inv.stop
  | setBatchConcurrency threads => exact inv.setBatchConcurrency threads

theorem Stuck.exec (stuck : s.Stuck) : ∀ op : ServerOp, (op.exec s).1.Stuck
  | .start fault => (stuck.start fault).1
  | .run fault => (stuck.run fault).1
  | .stop => stuck.stop
  | .setBatchConcurrency _ => by
      simp only [ServerOp.exec, ServerState.setBatchConcurrency]
      split_ifs <;> exact stuck

end ServerState

namespace ServerOp

variable {s : ServerState}

/-- Outside a failed `start()`, every call keeps `running_` set exactly while a worker thread
exists. -/
theorem synced_exec (inv : s.Inv) (synced : s.running = s.worker) (op : ServerOp)
    (ok : op.failedStart s = false) : (op.exec s).1.running = (op.exec s).1.worker := by
  cases op with
  | start fault =>
      simp only [failedStart, decide_eq_false_iff_not] at ok
      simp only [exec]
      unfold ServerState.start at *; dsimp only at *
      split_ifs at * <;> simp_all
  | run fault =>
      simp only [exec]
      unfold ServerState.run; dsimp only
      split_ifs with running ready
      · exact synced
      · simp [ServerState.stop, ServerState.teardownAcceptor]
      · simp [inv.idle (by simpa using running)]
  | stop => simp [exec, inv.stop_worker]
  | setBatchConcurrency threads =>
      simp only [exec, ServerState.setBatchConcurrency]
      split_ifs <;> exact synced

theorem Inv.runAll : ∀ (ops : List ServerOp) {s : ServerState}, s.Inv → (runAll ops s).Inv
  | [], _, inv => inv
  | op :: rest, _, inv => Inv.runAll rest (inv.exec op)

theorem exec_stuck {fault : AcceptorFault} (fault_bind : fault = .bind ∨ fault = .listen) :
    ∀ op ∈ [ServerOp.start fault, .run fault], (op.exec s).2 = .systemError → (op.exec s).1.Stuck
  | _, .head _, thrown => ServerState.start_stuck fault_bind thrown
  | _, .tail _ (.head _), thrown => ServerState.run_stuck fault_bind thrown

/-- From a stuck acceptor on, whatever the embedding thread calls, no `start()` or `run()`
returns. -/
theorem Stuck.runAll_never_returns : ∀ (rest : List ServerOp) {s : ServerState}, s.Stuck →
    ∀ fault, ((runAll rest s).start fault).2 ≠ .returned ∧ ((runAll rest s).run fault).2 ≠ .returned
  | [], _, stuck, fault => ⟨(stuck.start fault).2, (stuck.run fault).2⟩
  | op :: rest, _, stuck, fault => Stuck.runAll_never_returns rest (stuck.exec op) fault

/-- `start()`, `stop()`, then a `run()` whose `bind` fails. -/
example : (runAll [.start .none, .stop, .run .bind] (.init 2)).Stuck := by decide

theorem synced_runAll : ∀ (ops : List ServerOp) {s : ServerState}, s.Inv →
    s.running = s.worker → clean ops s → (runAll ops s).running = (runAll ops s).worker
  | [], _, _, synced, _ => synced
  | op :: rest, _, inv, synced, ok => by
      simp only [clean, Bool.and_eq_true, Bool.not_eq_true'] at ok
      exact synced_runAll rest (inv.exec op) (synced_exec inv synced op ok.1) ok.2

/-- Every sequence of calls from the embedding thread, with any acceptor faults: the invariant,
what each later call does from the state reached, and that a failed `bind` or `listen` ends
all serving. -/
theorem server_lifecycle (hardwareConcurrency : Nat) (ops : List ServerOp) :
    let s := runAll ops (.init hardwareConcurrency)
    s.Inv ∧ (clean ops (.init hardwareConcurrency) → s.running = s.worker) ∧
      (∀ fault, (s.start fault).2 = .logicError ↔ s.running = true) ∧
      (∀ fault, s.running = true → s.start fault = (s, .logicError)) ∧
      (∀ fault, (s.run fault).2 = .logicError ↔ s.running = true) ∧
      (∀ fault, (s.run fault).2 = .systemError → (s.run fault).1.running = false) ∧
      (∀ fault, (s.run fault).2 = .returned → (s.run fault).1.running = false ∧
        (s.run fault).1.worker = false ∧ (s.run fault).1.acceptorOpen = false) ∧
      s.stop.stop = s.stop ∧ s.stop.running = false ∧ s.stop.worker = false ∧
      (s.running = true → s.acceptorReady = true → s.stop.acceptorOpen = false) ∧
      (s.running = false → s.stop = s) ∧
      (∀ threads, (s.setBatchConcurrency threads).2 = .logicError ↔ s.running = true) ∧
      (∀ fault, (fault = .bind ∨ fault = .listen) → ∀ op ∈ [ServerOp.start fault, .run fault],
        (op.exec s).2 = .systemError → ∀ rest fault',
          ((runAll rest (op.exec s).1).start fault').2 ≠ .returned ∧
            ((runAll rest (op.exec s).1).run fault').2 ≠ .returned) := by
  intro s
  have inv : s.Inv := Inv.runAll ops (ServerState.Inv.init hardwareConcurrency)
  refine ⟨inv, synced_runAll ops (ServerState.Inv.init hardwareConcurrency) rfl,
    fun _ => ServerState.start_logicError_iff, fun _ => ServerState.start_of_running,
    fun _ => ServerState.run_logicError_iff, fun _ => ServerState.run_systemError,
    fun _ => ServerState.run_returned, ServerState.stop_stop, ServerState.stop_running,
    inv.stop_worker, ServerState.stop_acceptorOpen, ServerState.stop_of_idle,
    ServerState.setBatchConcurrency_logicError_iff, ?_⟩
  intro fault fault_bind op member thrown rest
  exact Stuck.runAll_never_returns rest (exec_stuck fault_bind op member thrown)

/-- `stop()` on a server that was never started leaves the acceptor its constructor opened. -/
theorem stop_fresh_server_keeps_acceptor :
    (runAll [.stop] (.init 2)).acceptorOpen = true ∧ (ServerOp.stop.exec (.init 2)).2 = .returned :=
  ⟨rfl, rfl⟩

end ServerOp

end JsonRpc
