import JsonRpc.Registry.Batch

namespace JsonRpc

/-! An embedding thread that calls `Server::stop()` and then `Server::set_batch_concurrency()`,
against the reactor thread inside `process_request`, in an `invoke_batch` whose tasks went to
the batch pool of that moment. `set_batch_concurrency` stops that pool, and a stopped
`thread_pool` runs no queued handler again; the new pool never sees the old tasks, so its
size plays no part here. -/

/-- How the server runs its `io_context`: on the worker thread of `start()`, or on the thread
that called `run()`. -/
inductive ServeMode where
  | start
  | run
  deriving DecidableEq, Repr

/-- Where the embedding thread is: before `stop()`, inside `stop()` joining the worker, past
`stop()`, inside `set_batch_concurrency` joining the stopped pool, past it, or thrown out of it
with `std::logic_error`. -/
inductive EmbedderPhase where
  | serving
  | stopping
  | stopped
  | resizing
  | resized
  | refused
  deriving DecidableEq, Repr

/-- The batch in flight, whether its pool has been stopped, `running_`, and the embedder. -/
structure ResizeState where
  batch : MethodRegistry.BatchState
  poolStopped : Bool
  running : Bool
  embedder : EmbedderPhase

/-- The batch has just been entered, on a running server. -/
def ResizeState.init (requests : List Request) : ResizeState :=
  ⟨.init requests, false, true, .serving⟩

open MethodRegistry in
/-- One atomic action of the reactor, a pool thread or the embedding thread. -/
inductive ResizeStep (reg : MethodRegistry) (requests : List Request) (mode : ServeMode) :
    ResizeState → ResizeState → Prop
  /-- A step of `invoke_batch`; a stopped pool takes no queued task. -/
  | task {s : ResizeState} {t : BatchState} (step : BatchStep reg requests s.batch t)
      (abandoned : s.poolStopped = true →
        ∀ i, s.batch.tasks i = .queued → t.tasks i = .queued) :
      ResizeStep reg requests mode s { s with batch := t }
  /-- `stop()` clears `running_`, closes the acceptor and stops the `io_context`; under
  `start()` it goes on to join the worker thread, under `run()` there is none to join. -/
  | stopEnter {s : ResizeState} (serving : s.embedder = .serving) :
      ResizeStep reg requests mode s
        { s with
          running := false
          embedder := match mode with
            | .start => .stopping
            | .run => .stopped }
  /-- The join returns once the worker thread leaves the handler that runs the batch. -/
  | stopJoin {s : ResizeState} {responses : List Response} (stopping : s.embedder = .stopping)
      (returned : s.batch.caller = .returned responses) :
      ResizeStep reg requests mode s { s with embedder := .stopped }
  /-- `set_batch_concurrency` on a running server throws. -/
  | resizeRefused {s : ResizeState} (stopped : s.embedder = .stopped)
      (running : s.running = true) :
      ResizeStep reg requests mode s { s with embedder := .refused }
  /-- Otherwise it calls `batch_pool_->stop()`. -/
  | resizeStop {s : ResizeState} (stopped : s.embedder = .stopped)
      (idle : s.running = false) :
      ResizeStep reg requests mode s { s with poolStopped := true, embedder := .resizing }
  /-- `batch_pool_->join()` returns once no pool thread runs a task, and the new pool is
  built. -/
  | resizeJoin {s : ResizeState} (resizing : s.embedder = .resizing)
      (drained : countTasks s.batch.tasks requests.length TaskPhase.isActive = 0) :
      ResizeStep reg requests mode s { s with embedder := .resized }

open MethodRegistry

variable {reg : MethodRegistry} {requests : List Request} {mode : ServeMode}
  {s t : ResizeState}

theorem ResizeStep.batchInv (step : ResizeStep reg requests mode s t)
    (inv : BatchInv reg requests s.batch) : BatchInv reg requests t.batch := by
  cases step with
  | task step => exact inv.step step
  | _ => exact inv

theorem batchInv_of_reachable
    (run : Relation.ReflTransGen (ResizeStep reg requests mode) (ResizeState.init requests) s) :
    BatchInv reg requests s.batch := by
  induction run with
  | refl => exact BatchInv.init reg requests
  | tail _ step inv => exact step.batchInv inv

/-- A task left queued in a stopped pool: it is never taken, `*remaining` never reaches zero,
and the caller waits on the future for ever. -/
structure Stranded (reg : MethodRegistry) (requests : List Request) (s : ResizeState) :
    Prop where
  inv : BatchInv reg requests s.batch
  stopped : s.poolStopped = true
  queued : ∃ i < requests.length, s.batch.tasks i = .queued
  waiting : s.batch.caller = .waiting

theorem Stranded.step (stranded : Stranded reg requests s)
    (step : ResizeStep reg requests mode s t) : Stranded reg requests t := by
  obtain ⟨i, hi, queued⟩ := stranded.queued
  have inv := step.batchInv stranded.inv
  cases step with
  | task step abandoned =>
      exact ⟨inv, stranded.stopped, ⟨i, hi, abandoned stranded.stopped i queued⟩,
        step.caller_waiting stranded.waiting
          (stranded.inv.setValues_eq_zero hi (by simp [queued, TaskPhase.beforeFetch]))⟩
  | resizeStop => exact ⟨inv, rfl, ⟨i, hi, queued⟩, stranded.waiting⟩
  | _ => exact ⟨inv, stranded.stopped, ⟨i, hi, queued⟩, stranded.waiting⟩

theorem Stranded.forever (stranded : Stranded reg requests s)
    (run : Relation.ReflTransGen (ResizeStep reg requests mode) s t) :
    Stranded reg requests t := by
  induction run with
  | refl => exact stranded
  | tail _ step ih => exact ih.step step

/-- A resize after `stop()` under `run()` stops the pool with a task of the batch still
queued: on one thread, with two calls posted, `invoke_batch` never returns. -/
theorem resize_after_run_stop_strands_batch :
    ∃ s, Relation.ReflTransGen
        (ResizeStep ((MethodRegistry.new 2).setBatchConcurrency 1)
          [.call "m" .null .null, .call "m" .null .null] .run)
        (ResizeState.init [.call "m" .null .null, .call "m" .null .null]) s ∧
      ∀ t, Relation.ReflTransGen
          (ResizeStep ((MethodRegistry.new 2).setBatchConcurrency 1)
            [.call "m" .null .null, .call "m" .null .null] .run) s t →
        t.batch.caller = .waiting := by
  have run := Relation.ReflTransGen.refl
    (r := ResizeStep ((MethodRegistry.new 2).setBatchConcurrency 1)
      [.call "m" .null .null, .call "m" .null .null] .run)
    (a := ResizeState.init [.call "m" .null .null, .call "m" .null .null])
    |>.tail (.task (.post rfl (by decide)) nofun)
    |>.tail (.task (.post rfl (by decide)) nofun)
    |>.tail (.task (.start (i := 0) (by decide) rfl (by decide)) nofun)
    |>.tail (.stopEnter rfl)
    |>.tail (.resizeStop rfl rfl)
  exact ⟨_, run, fun t later => (Stranded.forever
    ⟨batchInv_of_reachable run, rfl, ⟨1, by decide, rfl⟩, rfl⟩ later).waiting⟩

/-! Under `start()` the `stop()` joins the worker thread, which is the reactor, so the resize
waits for the batch to return. -/

/-- Along every maximal run from the state the batch returns: it has returned, or a step is
possible and every step leads to such a state. -/
inductive BatchReturns (reg : MethodRegistry) (requests : List Request) (mode : ServeMode) :
    ResizeState → Prop
  | returned {s : ResizeState} {responses : List Response}
      (returned : s.batch.caller = .returned responses) : BatchReturns reg requests mode s
  | next {s : ResizeState} (progress : ∃ t, ResizeStep reg requests mode s t)
      (after : ∀ t, ResizeStep reg requests mode s t → BatchReturns reg requests mode t) :
      BatchReturns reg requests mode s

/-- The steps the embedding thread has left. -/
def EmbedderPhase.rank : EmbedderPhase → Nat
  | .serving => 4
  | .stopping => 3
  | .stopped => 2
  | .resizing => 1
  | .resized | .refused => 0

/-- The steps left in the batch and in the embedding thread. -/
def ResizeState.potential (n : Nat) (s : ResizeState) : Nat :=
  s.batch.potential n + s.embedder.rank

/-- Under `start()`: past the join of `stop()` the batch has returned, and so it has when its
pool is stopped. -/
structure JoinedInv (reg : MethodRegistry) (requests : List Request) (s : ResizeState) :
    Prop where
  inv : BatchInv reg requests s.batch
  joined : s.embedder.rank ≤ 2 → ∃ responses, s.batch.caller = .returned responses
  pool : s.poolStopped = true → ∃ responses, s.batch.caller = .returned responses

theorem JoinedInv.step (joined : JoinedInv reg requests s)
    (step : ResizeStep reg requests .start s t) : JoinedInv reg requests t := by
  have inv := step.batchInv joined.inv
  cases step with
  | task step =>
      have quiet : ∀ responses, s.batch.caller ≠ .returned responses :=
        fun _ returned => joined.inv.no_step_of_returned returned step
      exact ⟨inv, fun past => absurd (joined.joined past) (by simpa using quiet),
        fun stopped => absurd (joined.pool stopped) (by simpa using quiet)⟩
  | stopEnter => exact ⟨inv, fun past => by simp [EmbedderPhase.rank] at past, joined.pool⟩
  | stopJoin _ returned => exact ⟨inv, fun _ => ⟨_, returned⟩, joined.pool⟩
  | resizeRefused stopped =>
      exact ⟨inv, fun _ => joined.joined (by simp [stopped, EmbedderPhase.rank]), joined.pool⟩
  | resizeStop stopped =>
      have returned := joined.joined (by simp [stopped, EmbedderPhase.rank])
      exact ⟨inv, fun _ => returned, fun _ => returned⟩
  | resizeJoin resizing =>
      exact ⟨inv, fun _ => joined.joined (by simp [resizing, EmbedderPhase.rank]), joined.pool⟩

theorem ResizeStep.potential_lt (step : ResizeStep reg requests mode s t)
    (inv : BatchInv reg requests s.batch) :
    t.potential requests.length < s.potential requests.length := by
  unfold ResizeState.potential
  cases step with
  | task step => have := step.potential_lt inv; dsimp only; omega
  | stopEnter serving => cases mode <;> simp [serving, EmbedderPhase.rank]
  | stopJoin stopping => simp [stopping, EmbedderPhase.rank]
  | resizeRefused stopped => simp [stopped, EmbedderPhase.rank]
  | resizeStop stopped => simp [stopped, EmbedderPhase.rank]
  | resizeJoin resizing => simp [resizing, EmbedderPhase.rank]

theorem JoinedInv.returns {s : ResizeState} (joined : JoinedInv reg requests s) :
    BatchReturns reg requests .start s := by
  by_cases done : ∃ responses, s.batch.caller = .returned responses
  · obtain ⟨responses, returned⟩ := done
    exact .returned returned
  · push_neg at done
    obtain ⟨b, step⟩ := joined.inv.progress done
    have running : s.poolStopped = false := by
      cases h : s.poolStopped
      · rfl
      · exact absurd (joined.pool h) (by simpa using done)
    exact .next ⟨_, .task step fun h => by simp [running] at h⟩
      fun t step => (joined.step step).returns
termination_by s.potential requests.length
decreasing_by exact step.potential_lt joined.inv

end JsonRpc
