import JsonRpc.Registry.Registry
import Mathlib.Algebra.Order.BigOperators.Group.Finset
import Mathlib.Data.List.Sort
import Mathlib.Logic.Relation

namespace JsonRpc

namespace MethodRegistry

/-! `MethodRegistry::invoke_batch` as a transition system. The calling thread posts one task
per request to the batch pool and then waits on the completion future; each of the
`batchThreadCount` pool threads runs one task at a time. That is the size of the pool
`get_batch_pool` builds below `2^32` threads (`poolThreads_of_lt`). A step is one atomic action
of one thread, so a run of the system is an interleaving. -/

/-- Where one task is: not yet posted, in the pool's queue, running on a pool thread, past
`invoke`, past the locked `push_back` (skipped for a notification), past `fetch_sub` with
the last count and so about to call `set_value`, or done. -/
inductive TaskPhase where
  | unposted
  | queued
  | started
  | invoked
  | recorded
  | signalling
  | finished
  deriving DecidableEq, Repr

namespace TaskPhase

/-- A pool thread is running the task. -/
def isActive : TaskPhase → Bool
  | .started | .invoked | .recorded | .signalling => true
  | _ => false

/-- The task has not yet decremented `*remaining`. -/
def beforeFetch : TaskPhase → Bool
  | .unposted | .queued | .started | .invoked | .recorded => true
  | _ => false

def isSignalling : TaskPhase → Bool
  | .signalling => true
  | _ => false

def hasInvoked : TaskPhase → Bool
  | .invoked | .recorded | .signalling | .finished => true
  | _ => false

def hasRecorded : TaskPhase → Bool
  | .recorded | .signalling | .finished => true
  | _ => false

/-- The number of steps the task has left. -/
def rank : TaskPhase → Nat
  | .unposted => 6
  | .queued => 5
  | .started => 4
  | .invoked => 3
  | .recorded => 2
  | .signalling => 1
  | .finished => 0

end TaskPhase

/-- Where the calling thread is: in the posting loop at index `next`, blocked in
`completion_future.wait()`, or returned with the sorted responses. -/
inductive CallerPhase where
  | posting (next : Nat)
  | waiting
  | returned (responses : List Response)

/-- How many tasks the caller has posted, out of `n`. -/
def CallerPhase.posted (n : Nat) : CallerPhase → Nat
  | .posting next => next
  | _ => n

/-- The shared state of one call: the phase of every task by index, how many times each task
has called `invoke`, the counter `*remaining`, the vector `indexed_responses`, and how many
times `completion_promise->set_value()` has run. -/
structure BatchState where
  caller : CallerPhase
  tasks : Nat → TaskPhase
  invocations : Nat → Nat
  remaining : Nat
  indexed : List (Nat × Response)
  setValues : Nat

/-- The state on entry: an empty batch returns at once; otherwise the counter starts at the
batch size. -/
def BatchState.init (requests : List Request) : BatchState where
  caller := if requests = [] then .returned [] else .posting 0
  tasks := fun _ => .unposted
  invocations := fun _ => 0
  remaining := requests.length
  indexed := []
  setValues := 0

/-- How many of the first `n` tasks are in a phase satisfying `p`. -/
def countTasks (tasks : Nat → TaskPhase) (n : Nat) (p : TaskPhase → Bool) : Nat :=
  ∑ i ∈ Finset.range n, if p (tasks i) then 1 else 0

/-- Orders `indexed_responses` by index, as the comparator given to `std::sort` does. -/
def indexLe (a b : Nat × Response) : Prop := a.1 ≤ b.1

instance : DecidableRel indexLe := fun a b => Nat.decLe a.1 b.1

/-- The sort of `indexed_responses` by index and the copy of the responses out of it.
`std::sort` is not stable, but the indices are distinct, so every sort gives this order. -/
def sortedResponses (indexed : List (Nat × Response)) : List Response :=
  (indexed.insertionSort indexLe).map Prod.snd

/-- One atomic action of one thread of `invoke_batch`. -/
inductive BatchStep (reg : MethodRegistry) (requests : List Request) :
    BatchState → BatchState → Prop
  /-- The caller posts the task of index `next` to the pool. -/
  | post {s : BatchState} {next : Nat} (posting : s.caller = .posting next)
      (bound : next < requests.length) :
      BatchStep reg requests s
        { s with
          caller := if next + 1 < requests.length then .posting (next + 1) else .waiting
          tasks := Function.update s.tasks next .queued }
  /-- A free pool thread takes a queued task. -/
  | start {s : BatchState} {i : Nat} (bound : i < requests.length)
      (queued : s.tasks i = .queued)
      (free : countTasks s.tasks requests.length TaskPhase.isActive < reg.batchThreadCount) :
      BatchStep reg requests s { s with tasks := Function.update s.tasks i .started }
  /-- The task calls `invoke(request)`. -/
  | invoke {s : BatchState} {i : Nat} (bound : i < requests.length)
      (started : s.tasks i = .started) :
      BatchStep reg requests s
        { s with
          tasks := Function.update s.tasks i .invoked
          invocations := Function.update s.invocations i (s.invocations i + 1) }
  /-- Under `response_mutex`, a request with an id appends its slot. -/
  | push {s : BatchState} {i : Nat} {request : Request} (entry : requests[i]? = some request)
      (invoked : s.tasks i = .invoked) :
      BatchStep reg requests s
        { s with
          tasks := Function.update s.tasks i .recorded
          indexed := if request.hasId then s.indexed ++ [(i, reg.batchSlot request)]
            else s.indexed }
  /-- `remaining->fetch_sub(1)`; the task that reads `1` goes on to `set_value`. -/
  | fetchSub {s : BatchState} {i : Nat} (bound : i < requests.length)
      (recorded : s.tasks i = .recorded) :
      BatchStep reg requests s
        { s with
          tasks := Function.update s.tasks i
            (if s.remaining = 1 then .signalling else .finished)
          remaining := s.remaining - 1 }
  /-- `completion_promise->set_value()`. -/
  | setValue {s : BatchState} {i : Nat} (bound : i < requests.length)
      (signalling : s.tasks i = .signalling) :
      BatchStep reg requests s
        { s with
          tasks := Function.update s.tasks i .finished
          setValues := s.setValues + 1 }
  /-- The future is ready: the caller sorts the responses and returns them. -/
  | wake {s : BatchState} (waiting : s.caller = .waiting) (ready : 0 < s.setValues) :
      BatchStep reg requests s { s with caller := .returned (sortedResponses s.indexed) }

instance : IsTotal (Nat × Response) indexLe := ⟨fun a b => le_total a.1 b.1⟩
instance : IsTrans (Nat × Response) indexLe := ⟨fun _ _ _ => Nat.le_trans⟩

/-- Strict order by index. -/
def indexLt (a b : Nat × Response) : Prop := a.1 < b.1

instance : IsAntisymm (Nat × Response) indexLt :=
  ⟨fun _ _ ab ba => absurd (Nat.lt_trans ab ba) (Nat.lt_irrefl _)⟩

/-- The slots a batch must return, tagged with their request's index, in index order. -/
def expectedIndexed (reg : MethodRegistry) (requests : List Request) : List (Nat × Response) :=
  (requests.enum.filter (·.2.hasId)).map fun p => (p.1, reg.batchSlot p.2)

theorem mem_expectedIndexed (reg : MethodRegistry) (requests : List Request)
    (p : Nat × Response) :
    p ∈ expectedIndexed reg requests ↔
      ∃ i request, requests[i]? = some request ∧ request.hasId ∧
        p = (i, reg.batchSlot request) := by
  simp only [expectedIndexed, List.mem_map, List.mem_filter, List.mem_enum_iff_getElem?]
  constructor
  · rintro ⟨⟨i, request⟩, ⟨entry, hasId⟩, rfl⟩
    exact ⟨i, request, entry, hasId, rfl⟩
  · rintro ⟨i, request, entry, hasId, rfl⟩
    exact ⟨(i, request), ⟨entry, hasId⟩, rfl⟩

theorem expectedIndexed_sorted (reg : MethodRegistry) (requests : List Request) :
    (expectedIndexed reg requests).Sorted indexLt := by
  have range : (requests.enum.map Prod.fst).Pairwise (· < ·) := by
    rw [List.enum_map_fst]; exact List.pairwise_lt_range _
  unfold expectedIndexed List.Sorted
  rw [List.pairwise_map]
  exact (List.pairwise_map.mp range).filter _

theorem expectedIndexed_snd (reg : MethodRegistry) (requests : List Request) :
    (expectedIndexed reg requests).map Prod.snd = reg.batchResponses requests := by
  have filter := List.filter_map (p := Request.hasId) Prod.snd requests.enum
  rw [List.enum_map_snd] at filter
  simp [expectedIndexed, batchResponses, filter, Function.comp_def]

/-- Sorting a duplicate-free set of indexed slots that holds exactly the expected ones gives
the expected responses. -/
theorem sortedResponses_eq (reg : MethodRegistry) (requests : List Request)
    (indexed : List (Nat × Response)) (nodup : (indexed.map Prod.fst).Nodup)
    (mem : ∀ p, p ∈ indexed ↔ p ∈ expectedIndexed reg requests) :
    sortedResponses indexed = reg.batchResponses requests := by
  have expectedNodup : ((expectedIndexed reg requests).map Prod.fst).Nodup := by
    exact List.pairwise_map.mpr ((expectedIndexed_sorted reg requests).imp Nat.ne_of_lt)
  have perm : indexed.Perm (expectedIndexed reg requests) :=
    (List.perm_ext_iff_of_nodup nodup.of_map expectedNodup.of_map).mpr mem
  have sortedPerm := (List.perm_insertionSort indexLe indexed).trans perm
  have sortedLt : (indexed.insertionSort indexLe).Sorted indexLt := by
    have fst := (List.perm_insertionSort indexLe indexed).map Prod.fst
    have distinct := (fst.nodup_iff.mpr nodup)
    exact ((List.sorted_insertionSort indexLe indexed).and (List.pairwise_map.mp distinct)).imp
      fun ⟨le, ne⟩ => Nat.lt_of_le_of_ne le ne
  rw [sortedResponses, List.eq_of_perm_of_sorted sortedPerm sortedLt
    (expectedIndexed_sorted reg requests), expectedIndexed_snd]

theorem sum_range_update {α : Type} (f : Nat → α) (φ : α → Nat) {i n : Nat} (hi : i < n)
    (a : α) :
    ∑ j ∈ Finset.range n, φ (Function.update f i a j) + φ (f i) =
      ∑ j ∈ Finset.range n, φ (f j) + φ a := by
  have mem : i ∈ Finset.range n := Finset.mem_range.mpr hi
  have rest : ∑ j ∈ Finset.range n \ {i}, φ (Function.update f i a j) =
      ∑ j ∈ Finset.range n \ {i}, φ (f j) :=
    Finset.sum_congr rfl fun j hj =>
      by rw [Function.update_noteq (Finset.not_mem_singleton.mp (Finset.mem_sdiff.mp hj).2)]
  rw [Finset.sum_eq_add_sum_diff_singleton mem, Finset.sum_eq_add_sum_diff_singleton mem,
    rest, Function.update_same]
  omega

theorem countTasks_update (tasks : Nat → TaskPhase) (p : TaskPhase → Bool) {i n : Nat}
    (hi : i < n) (a : TaskPhase) :
    countTasks (Function.update tasks i a) n p + (if p (tasks i) then 1 else 0) =
      countTasks tasks n p + (if p a then 1 else 0) :=
  sum_range_update tasks (fun t => if p t then 1 else 0) hi a

theorem countTasks_update_same {tasks : Nat → TaskPhase} {i n : Nat} {old : TaskPhase}
    (hi : i < n) (current : tasks i = old) (new : TaskPhase) (p : TaskPhase → Bool)
    (same : p old = p new) :
    countTasks (Function.update tasks i new) n p = countTasks tasks n p := by
  have := countTasks_update tasks p hi new
  rw [current, same] at this
  omega

theorem countTasks_eq_zero_iff (tasks : Nat → TaskPhase) (n : Nat) (p : TaskPhase → Bool) :
    countTasks tasks n p = 0 ↔ ∀ i < n, p (tasks i) = false := by
  unfold countTasks
  rw [Finset.sum_eq_zero_iff]
  simp only [Finset.mem_range, ite_eq_right_iff, one_ne_zero, imp_false, Bool.not_eq_true]

/-- Moving one task to a phase that `f` does not tell apart from its old one changes no value
of `f`. -/
theorem update_apply_eq {β : Sort _} {tasks : Nat → TaskPhase} {i : Nat} {old : TaskPhase}
    (current : tasks i = old) (new : TaskPhase) (f : TaskPhase → β) (same : f old = f new)
    (j : Nat) : f (Function.update tasks i new j) = f (tasks j) := by
  by_cases h : j = i
  · subst h; simp [current, same]
  · simp [Function.update_noteq h]

variable {reg : MethodRegistry} {requests : List Request} {s t : BatchState}

/-- The facts every reachable state of `invoke_batch` keeps. -/
structure BatchInv (reg : MethodRegistry) (requests : List Request) (s : BatchState) :
    Prop where
  unposted_iff : ∀ i, s.tasks i = .unposted ↔ s.caller.posted requests.length ≤ i
  posting_lt : ∀ next, s.caller = .posting next → next < requests.length
  waiting_pos : s.caller = .waiting → 0 < requests.length
  remaining_eq : s.remaining = countTasks s.tasks requests.length TaskPhase.beforeFetch
  signals : 0 < requests.length →
    countTasks s.tasks requests.length TaskPhase.isSignalling + s.setValues =
      if s.remaining = 0 then 1 else 0
  empty_setValues : requests = [] → s.setValues = 0
  invocations_eq : ∀ i, s.invocations i = if (s.tasks i).hasInvoked then 1 else 0
  mem_indexed : ∀ p, p ∈ s.indexed ↔
    ∃ i request, requests[i]? = some request ∧ request.hasId ∧ (s.tasks i).hasRecorded ∧
      p = (i, reg.batchSlot request)
  indexed_nodup : (s.indexed.map Prod.fst).Nodup
  returned : ∀ responses, s.caller = .returned responses →
    responses = reg.batchResponses requests ∧ ∀ i < requests.length, s.tasks i = .finished

/-- The task the caller is about to post has not been posted. -/
theorem BatchInv.unposted_of_posting (inv : BatchInv reg requests s) {next : Nat}
    (posting : s.caller = .posting next) : s.tasks next = .unposted :=
  (inv.unposted_iff next).mpr (by simp [posting, CallerPhase.posted])

theorem BatchInv.unposted_update (inv : BatchInv reg requests s) {i : Nat} {old new : TaskPhase}
    (current : s.tasks i = old) (hold : old ≠ .unposted) (hnew : new ≠ .unposted) (j : Nat) :
    Function.update s.tasks i new j = .unposted ↔ s.caller.posted requests.length ≤ j :=
  (iff_of_eq (update_apply_eq current new (· = TaskPhase.unposted) (by simp [hold, hnew]) j)).trans
    (inv.unposted_iff j)

theorem BatchStep.unposted_iff (step : BatchStep reg requests s t)
    (inv : BatchInv reg requests s) (i : Nat) :
    t.tasks i = .unposted ↔ t.caller.posted requests.length ≤ i := by
  cases step with
  | @post next posting bound =>
      have posted : (if next + 1 < requests.length then CallerPhase.posting (next + 1)
          else .waiting).posted requests.length = next + 1 := by
        split <;> simp only [CallerPhase.posted]
        omega
      rw [posted]
      by_cases h : i = next
      · subst h; simp
      · simp only [Function.update_noteq h, inv.unposted_iff i, posting, CallerPhase.posted]
        omega
  | start _ queued _ => exact inv.unposted_update queued (by simp) (by simp) i
  | invoke _ started => exact inv.unposted_update started (by simp) (by simp) i
  | push _ invoked => exact inv.unposted_update invoked (by simp) (by simp) i
  | fetchSub _ recorded => exact inv.unposted_update recorded (by simp) (by split <;> simp) i
  | setValue _ signalling => exact inv.unposted_update signalling (by simp) (by simp) i
  | wake waiting _ => simpa [CallerPhase.posted, waiting] using inv.unposted_iff i

theorem BatchStep.remaining_eq (step : BatchStep reg requests s t)
    (inv : BatchInv reg requests s) :
    t.remaining = countTasks t.tasks requests.length TaskPhase.beforeFetch := by
  cases step with
  | @post next posting bound =>
      exact inv.remaining_eq.trans
        (countTasks_update_same bound (inv.unposted_of_posting posting) _ _ (by rfl)).symm
  | start bound queued =>
      exact inv.remaining_eq.trans (countTasks_update_same bound queued _ _ (by rfl)).symm
  | invoke bound started =>
      exact inv.remaining_eq.trans (countTasks_update_same bound started _ _ (by rfl)).symm
  | push entry invoked =>
      exact inv.remaining_eq.trans (countTasks_update_same
        (List.getElem?_eq_some_iff.mp entry).1 invoked _ _ (by rfl)).symm
  | @fetchSub i bound recorded =>
      have count := countTasks_update s.tasks TaskPhase.beforeFetch bound
        (if s.remaining = 1 then .signalling else .finished)
      have after : TaskPhase.beforeFetch
          (if s.remaining = 1 then .signalling else .finished) = false := by split <;> rfl
      rw [recorded, after, ← inv.remaining_eq] at count
      simp only [TaskPhase.beforeFetch, if_true, Bool.false_eq_true, if_false] at count
      show s.remaining - 1 = countTasks (Function.update s.tasks i
        (if s.remaining = 1 then .signalling else .finished)) requests.length TaskPhase.beforeFetch
      omega
  | setValue bound signalling =>
      exact inv.remaining_eq.trans (countTasks_update_same bound signalling _ _ (by rfl)).symm
  | wake => exact inv.remaining_eq

theorem BatchStep.signals (step : BatchStep reg requests s t)
    (inv : BatchInv reg requests s) (pos : 0 < requests.length) :
    countTasks t.tasks requests.length TaskPhase.isSignalling + t.setValues =
      if t.remaining = 0 then 1 else 0 := by
  have base := inv.signals pos
  cases step with
  | @post next posting bound =>
      rwa [countTasks_update_same bound (inv.unposted_of_posting posting) _ _ (by rfl)]
  | start bound queued => rwa [countTasks_update_same bound queued _ _ (by rfl)]
  | invoke bound started => rwa [countTasks_update_same bound started _ _ (by rfl)]
  | push entry invoked =>
      rwa [countTasks_update_same (List.getElem?_eq_some_iff.mp entry).1 invoked _ _ (by rfl)]
  | @fetchSub i bound recorded =>
      have signalling := countTasks_update s.tasks TaskPhase.isSignalling bound
        (if s.remaining = 1 then .signalling else .finished)
      have fetch := countTasks_update s.tasks TaskPhase.beforeFetch bound .finished
      rw [recorded, ← inv.remaining_eq] at fetch
      rw [recorded] at signalling
      show countTasks (Function.update s.tasks i
        (if s.remaining = 1 then .signalling else .finished)) requests.length
          TaskPhase.isSignalling + s.setValues = if s.remaining - 1 = 0 then 1 else 0
      by_cases last : s.remaining = 1
      · simp [last, TaskPhase.isSignalling] at signalling base ⊢
        omega
      · simp [last, TaskPhase.isSignalling, TaskPhase.beforeFetch] at signalling fetch ⊢
        split at base <;> split <;> omega
  | @setValue i bound signalling =>
      have count := countTasks_update s.tasks TaskPhase.isSignalling bound .finished
      rw [signalling] at count
      simp only [TaskPhase.isSignalling, if_true, Bool.false_eq_true, if_false] at count
      show countTasks (Function.update s.tasks i .finished) requests.length
        TaskPhase.isSignalling + (s.setValues + 1) = if s.remaining = 0 then 1 else 0
      omega
  | wake => exact base

theorem BatchStep.invocations_eq (step : BatchStep reg requests s t)
    (inv : BatchInv reg requests s) (j : Nat) :
    t.invocations j = if (t.tasks j).hasInvoked then 1 else 0 := by
  cases step with
  | post posting =>
      dsimp only
      rw [update_apply_eq (inv.unposted_of_posting posting) .queued TaskPhase.hasInvoked rfl]
      exact inv.invocations_eq j
  | start _ queued =>
      dsimp only
      rw [update_apply_eq queued .started TaskPhase.hasInvoked rfl]
      exact inv.invocations_eq j
  | @invoke i _ started =>
      by_cases h : j = i
      · subst h
        simp [inv.invocations_eq, started, TaskPhase.hasInvoked]
      · simp [Function.update_noteq h, inv.invocations_eq]
  | push _ invoked =>
      dsimp only
      rw [update_apply_eq invoked .recorded TaskPhase.hasInvoked rfl]
      exact inv.invocations_eq j
  | fetchSub _ recorded =>
      dsimp only
      rw [update_apply_eq recorded _ TaskPhase.hasInvoked (by split <;> rfl)]
      exact inv.invocations_eq j
  | setValue _ signalling =>
      dsimp only
      rw [update_apply_eq signalling .finished TaskPhase.hasInvoked rfl]
      exact inv.invocations_eq j
  | wake => exact inv.invocations_eq j

/-- The membership of `indexed_responses` is unchanged by a step that neither pushes nor moves
a task across `push_back`. -/
theorem BatchInv.mem_indexed_update (inv : BatchInv reg requests s) {i : Nat}
    {old : TaskPhase} (current : s.tasks i = old) (new : TaskPhase)
    (same : old.hasRecorded = new.hasRecorded) (p : Nat × Response) :
    p ∈ s.indexed ↔ ∃ j request, requests[j]? = some request ∧ request.hasId ∧
      (Function.update s.tasks i new j).hasRecorded ∧ p = (j, reg.batchSlot request) := by
  simp only [update_apply_eq current new _ same, inv.mem_indexed]

theorem BatchStep.mem_indexed (step : BatchStep reg requests s t)
    (inv : BatchInv reg requests s) (p : Nat × Response) :
    p ∈ t.indexed ↔ ∃ j request, requests[j]? = some request ∧ request.hasId ∧
      (t.tasks j).hasRecorded ∧ p = (j, reg.batchSlot request) := by
  cases step with
  | post posting => exact inv.mem_indexed_update (inv.unposted_of_posting posting) .queued rfl p
  | start _ queued => exact inv.mem_indexed_update queued .started rfl p
  | invoke _ started => exact inv.mem_indexed_update started .invoked rfl p
  | @push i request entry invoked =>
      have kept : ∀ q ∈ s.indexed, ∃ j r, requests[j]? = some r ∧ r.hasId ∧
          (Function.update s.tasks i .recorded j).hasRecorded ∧ q = (j, reg.batchSlot r) :=
        fun q member => by
          obtain ⟨j, r, rentry, hasId, recorded, rfl⟩ := (inv.mem_indexed q).mp member
          have : j ≠ i := fun h => by subst h; simp [invoked, TaskPhase.hasRecorded] at recorded
          exact ⟨j, r, rentry, hasId, by simpa [Function.update_noteq this] using recorded, rfl⟩
      show p ∈ (if request.hasId then s.indexed ++ [(i, reg.batchSlot request)] else s.indexed) ↔ _
      constructor
      · intro member
        split at member
        · rcases List.mem_append.mp member with member | member
          · exact kept p member
          · obtain rfl := List.mem_singleton.mp member
            exact ⟨i, request, entry, by assumption, by simp [TaskPhase.hasRecorded], rfl⟩
        · exact kept p member
      · rintro ⟨j, r, rentry, hasId, recorded, rfl⟩
        by_cases h : j = i
        · subst h
          obtain rfl : r = request := Option.some.inj (rentry.symm.trans entry)
          simp [hasId]
        · have old := (inv.mem_indexed (j, reg.batchSlot r)).mpr
            ⟨j, r, rentry, hasId, by simpa [Function.update_noteq h] using recorded, rfl⟩
          split
          · exact List.mem_append_left _ old
          · exact old
  | fetchSub _ recorded => exact inv.mem_indexed_update recorded _ (by split <;> rfl) p
  | setValue _ signalling => exact inv.mem_indexed_update signalling .finished rfl p
  | wake => exact inv.mem_indexed p

theorem BatchStep.indexed_nodup (step : BatchStep reg requests s t)
    (inv : BatchInv reg requests s) : (t.indexed.map Prod.fst).Nodup := by
  cases step with
  | @push i request entry invoked =>
      show ((if request.hasId then s.indexed ++ [(i, reg.batchSlot request)]
        else s.indexed).map Prod.fst).Nodup
      split
      · rw [List.map_append, List.nodup_append]
        refine ⟨inv.indexed_nodup, List.nodup_singleton _, ?_⟩
        intro _ member pushed
        obtain rfl : _ = i := by simpa using pushed
        obtain ⟨⟨j, x⟩, old, rfl⟩ := List.mem_map.mp member
        obtain ⟨j, r, _, _, recorded, eq⟩ := (inv.mem_indexed _).mp old
        obtain ⟨rfl, -⟩ := Prod.mk.inj eq
        simp [invoked, TaskPhase.hasRecorded] at recorded
      · exact inv.indexed_nodup
  | _ => exact inv.indexed_nodup

theorem BatchStep.posting_lt (step : BatchStep reg requests s t)
    (inv : BatchInv reg requests s) (next : Nat) (posting : t.caller = .posting next) :
    next < requests.length := by
  cases step with
  | @post k _ bound =>
      by_cases more : k + 1 < requests.length
      · simp only [more, if_true, CallerPhase.posting.injEq] at posting; omega
      · simp [more] at posting
  | wake => cases posting
  | _ => exact inv.posting_lt next posting

theorem BatchStep.waiting_pos (step : BatchStep reg requests s t)
    (inv : BatchInv reg requests s) (waiting : t.caller = .waiting) : 0 < requests.length := by
  cases step with
  | post _ bound => omega
  | wake => cases waiting
  | _ => exact inv.waiting_pos waiting

theorem BatchStep.empty_setValues (step : BatchStep reg requests s t)
    (inv : BatchInv reg requests s) (empty : requests = []) : t.setValues = 0 := by
  cases step with
  | setValue bound => simp [empty] at bound
  | _ => exact inv.empty_setValues empty

theorem TaskPhase.eq_finished {phase : TaskPhase} (fetched : phase.beforeFetch = false)
    (quiet : phase.isSignalling = false) : phase = .finished := by
  cases phase <;> simp_all [TaskPhase.beforeFetch, TaskPhase.isSignalling]

/-- Once `set_value` has run, every task has finished. -/
theorem BatchInv.finished_of_ready (inv : BatchInv reg requests s)
    (waiting : s.caller = .waiting) (ready : 0 < s.setValues) :
    ∀ i < requests.length, s.tasks i = .finished := by
  have signals := inv.signals (inv.waiting_pos waiting)
  have drained : s.remaining = 0 := by
    by_contra busy
    rw [if_neg busy] at signals
    omega
  rw [if_pos drained] at signals
  have quiet := (countTasks_eq_zero_iff _ _ _).mp (show countTasks s.tasks requests.length
    TaskPhase.isSignalling = 0 by omega)
  rw [inv.remaining_eq, countTasks_eq_zero_iff] at drained
  exact fun i hi => TaskPhase.eq_finished (drained i hi) (quiet i hi)

/-- When every task has finished, `indexed_responses` holds exactly the expected slots. -/
theorem BatchInv.mem_indexed_of_finished (inv : BatchInv reg requests s)
    (finished : ∀ i < requests.length, s.tasks i = .finished) (p : Nat × Response) :
    p ∈ s.indexed ↔ p ∈ expectedIndexed reg requests := by
  rw [inv.mem_indexed, mem_expectedIndexed]
  constructor
  · rintro ⟨i, request, entry, hasId, -, rfl⟩
    exact ⟨i, request, entry, hasId, rfl⟩
  · rintro ⟨i, request, entry, hasId, rfl⟩
    have done := finished i (List.getElem?_eq_some_iff.mp entry).1
    exact ⟨i, request, entry, hasId, by simp [done, TaskPhase.hasRecorded], rfl⟩

/-- No thread of the batch moves once the caller has returned. -/
theorem BatchInv.no_step_of_returned {b c : BatchState}
    (inv : BatchInv reg requests b) {responses : List Response}
    (returned : b.caller = .returned responses) (step : BatchStep reg requests b c) : False := by
  have finished := (inv.returned responses returned).2
  cases step with
  | post posting => simp [posting] at returned
  | start bound queued => simp [finished _ bound] at queued
  | invoke bound started => simp [finished _ bound] at started
  | push entry invoked =>
      simp [finished _ (List.getElem?_eq_some_iff.mp entry).1] at invoked
  | fetchSub bound recorded => simp [finished _ bound] at recorded
  | setValue bound signalling => simp [finished _ bound] at signalling
  | wake waiting => simp [waiting] at returned

theorem BatchStep.returned (step : BatchStep reg requests s t)
    (inv : BatchInv reg requests s) (responses : List Response)
    (returned : t.caller = .returned responses) :
    responses = reg.batchResponses requests ∧ ∀ i < requests.length, t.tasks i = .finished := by
  by_cases before : s.caller = .returned responses
  · exact (inv.no_step_of_returned before step).elim
  cases step with
  | post => dsimp only at returned; split at returned <;> cases returned
  | wake waiting ready =>
      cases returned
      have finished := inv.finished_of_ready waiting ready
      exact ⟨sortedResponses_eq reg requests s.indexed inv.indexed_nodup
        (inv.mem_indexed_of_finished finished), finished⟩
  | _ => exact absurd returned before

/-- One step of any thread keeps the invariant. -/
theorem BatchInv.step (inv : BatchInv reg requests s) (step : BatchStep reg requests s t) :
    BatchInv reg requests t where
  unposted_iff := step.unposted_iff inv
  posting_lt := step.posting_lt inv
  waiting_pos := step.waiting_pos inv
  remaining_eq := step.remaining_eq inv
  signals := step.signals inv
  empty_setValues := step.empty_setValues inv
  invocations_eq := step.invocations_eq inv
  mem_indexed := step.mem_indexed inv
  indexed_nodup := step.indexed_nodup inv
  returned := step.returned inv

theorem countTasks_const (phase : TaskPhase) (n : Nat) (p : TaskPhase → Bool) :
    countTasks (fun _ => phase) n p = if p phase then n else 0 := by
  by_cases h : p phase <;> simp [countTasks, h]

theorem BatchInv.init (reg : MethodRegistry) (requests : List Request) :
    BatchInv reg requests (BatchState.init requests) where
  unposted_iff i := by cases requests <;> simp [BatchState.init, CallerPhase.posted]
  posting_lt next posting := by
    cases requests with
    | nil => simp [BatchState.init] at posting
    | cons =>
        simp only [BatchState.init, reduceCtorEq, if_false, CallerPhase.posting.injEq] at posting
        simp [← posting]
  waiting_pos waiting := by cases requests <;> simp [BatchState.init] at waiting
  remaining_eq := by simp [BatchState.init, countTasks_const, TaskPhase.beforeFetch]
  signals pos := by
    simp [BatchState.init, countTasks_const, TaskPhase.isSignalling, Nat.pos_iff_ne_zero.mp pos]
  empty_setValues _ := rfl
  invocations_eq _ := rfl
  mem_indexed p := by simp [BatchState.init, TaskPhase.hasRecorded]
  indexed_nodup := List.nodup_nil
  returned responses returned := by
    cases requests with
    | nil => cases returned; exact ⟨rfl, by simp⟩
    | cons => cases returned

/-- The states a call of `invoke_batch` can reach, under any interleaving of its threads. -/
def BatchReachable (reg : MethodRegistry) (requests : List Request) (s : BatchState) : Prop :=
  Relation.ReflTransGen (BatchStep reg requests) (BatchState.init requests) s

theorem BatchInv.of_reachable (reachable : BatchReachable reg requests s) :
    BatchInv reg requests s := by
  induction reachable with
  | refl => exact BatchInv.init reg requests
  | tail _ step inv => exact inv.step step

/-! Termination: every step lowers the number of steps the tasks and the caller have left, and
a state where the caller has not returned always has a step, so every maximal interleaving is
finite and ends with `invoke_batch` returning. -/

/-- The caller has one step left until it returns. -/
def CallerPhase.rank : CallerPhase → Nat
  | .returned _ => 0
  | _ => 1

/-- The number of steps left in the first `n` tasks and in the caller. -/
def BatchState.potential (n : Nat) (s : BatchState) : Nat :=
  (∑ i ∈ Finset.range n, (s.tasks i).rank) + s.caller.rank

theorem rank_sum_update_lt {tasks : Nat → TaskPhase} {i n : Nat} {old : TaskPhase}
    (hi : i < n) (current : tasks i = old) (new : TaskPhase) (lower : new.rank < old.rank) :
    ∑ j ∈ Finset.range n, (Function.update tasks i new j).rank <
      ∑ j ∈ Finset.range n, (tasks j).rank := by
  have := sum_range_update tasks TaskPhase.rank hi new
  rw [current] at this
  omega

theorem BatchStep.potential_lt (step : BatchStep reg requests s t)
    (inv : BatchInv reg requests s) :
    t.potential requests.length < s.potential requests.length := by
  unfold BatchState.potential
  cases step with
  | @post next posting bound =>
      have lower := rank_sum_update_lt bound (inv.unposted_of_posting posting) .queued (by decide)
      have same : (if next + 1 < requests.length then CallerPhase.posting (next + 1)
          else .waiting).rank = s.caller.rank := by
        rw [posting]; split <;> rfl
      dsimp only
      omega
  | start bound queued =>
      have := rank_sum_update_lt bound queued .started (by decide)
      dsimp only; omega
  | invoke bound started =>
      have := rank_sum_update_lt bound started .invoked (by decide)
      dsimp only; omega
  | push entry invoked =>
      have := rank_sum_update_lt (List.getElem?_eq_some_iff.mp entry).1 invoked
        .recorded (by decide)
      dsimp only; omega
  | fetchSub bound recorded =>
      have := rank_sum_update_lt bound recorded
        (if s.remaining = 1 then .signalling else .finished) (by split <;> decide)
      dsimp only; omega
  | setValue bound signalling =>
      have := rank_sum_update_lt bound signalling .finished (by decide)
      dsimp only; omega
  | wake waiting => simp [waiting, CallerPhase.rank]

theorem exists_of_countTasks_pos {tasks : Nat → TaskPhase} {n : Nat} {p : TaskPhase → Bool}
    (h : 0 < countTasks tasks n p) : ∃ i < n, p (tasks i) = true := by
  by_contra none
  push_neg at none
  have := (countTasks_eq_zero_iff tasks n p).mpr fun i hi => by simpa using none i hi
  omega

/-- A running task can always take its next step. -/
theorem exists_step_of_isActive {i : Nat} (hi : i < requests.length)
    (active : (s.tasks i).isActive) : ∃ t, BatchStep reg requests s t := by
  cases h : s.tasks i with
  | started => exact ⟨_, .invoke hi h⟩
  | invoked => exact ⟨_, .push (List.getElem?_eq_getElem hi) h⟩
  | recorded => exact ⟨_, .fetchSub hi h⟩
  | signalling => exact ⟨_, .setValue hi h⟩
  | _ => simp [h, TaskPhase.isActive] at active

/-- A posted task that has not finished can step, or a pool thread is busy with a task that
can: with at least one pool thread, a queued task never waits for nothing. -/
theorem BatchInv.exists_step_of_pending (inv : BatchInv reg requests s)
    (waiting : s.caller = .waiting) {i : Nat} (hi : i < requests.length)
    (pending : s.tasks i ≠ .finished) : ∃ t, BatchStep reg requests s t := by
  by_cases free : countTasks s.tasks requests.length TaskPhase.isActive < reg.batchThreadCount
  · cases h : s.tasks i with
    | unposted =>
        have := (inv.unposted_iff i).mp h
        simp [waiting, CallerPhase.posted] at this
        omega
    | queued => exact ⟨_, .start hi h free⟩
    | finished => exact absurd h pending
    | _ => exact exists_step_of_isActive hi (by simp [h, TaskPhase.isActive])
  · have busy := reg.batchThreadCount_pos
    obtain ⟨j, hj, active⟩ := exists_of_countTasks_pos (show 0 < countTasks s.tasks
      requests.length TaskPhase.isActive by omega)
    exact exists_step_of_isActive hj active

/-- No deadlock: until the caller returns, some thread can take a step. -/
theorem BatchInv.progress (inv : BatchInv reg requests s)
    (running : ∀ responses, s.caller ≠ .returned responses) : ∃ t, BatchStep reg requests s t := by
  cases hc : s.caller with
  | posting next => exact ⟨_, .post hc (inv.posting_lt next hc)⟩
  | returned responses => exact absurd hc (running responses)
  | waiting =>
      by_cases ready : 0 < s.setValues
      · exact ⟨_, .wake hc ready⟩
      have signals := inv.signals (inv.waiting_pos hc)
      by_cases drained : s.remaining = 0
      · rw [if_pos drained] at signals
        obtain ⟨i, hi, signalling⟩ := exists_of_countTasks_pos (show 0 < countTasks s.tasks
          requests.length TaskPhase.isSignalling by omega)
        exact inv.exists_step_of_pending hc hi fun h => by
          simp [h, TaskPhase.isSignalling] at signalling
      · obtain ⟨i, hi, before⟩ := exists_of_countTasks_pos (show 0 < countTasks s.tasks
          requests.length TaskPhase.beforeFetch by rw [← inv.remaining_eq]; omega)
        exact inv.exists_step_of_pending hc hi fun h => by
          simp [h, TaskPhase.beforeFetch] at before

/-- Every maximal run from the state is finite and ends with the caller returned: the caller
has returned, or some step is possible and every possible step leads to such a state. -/
inductive Returns (reg : MethodRegistry) (requests : List Request) : BatchState → Prop
  | returned {s : BatchState} {responses : List Response}
      (returned : s.caller = .returned responses) : Returns reg requests s
  | next {s : BatchState} (progress : ∃ t, BatchStep reg requests s t)
      (after : ∀ t, BatchStep reg requests s t → Returns reg requests t) : Returns reg requests s

theorem BatchInv.returns {s : BatchState} (inv : BatchInv reg requests s) :
    Returns reg requests s := by
  by_cases done : ∃ responses, s.caller = .returned responses
  · obtain ⟨responses, returned⟩ := done
    exact .returned returned
  · push_neg at done
    exact .next (inv.progress done) fun t step => (inv.step step).returns
termination_by s.potential requests.length
decreasing_by exact step.potential_lt inv

/-- At every point of every interleaving, `set_value` has run at most once, so the promise
never throws `promise_already_satisfied`. -/
theorem BatchInv.setValues_le_one (inv : BatchInv reg requests s) : s.setValues ≤ 1 := by
  by_cases empty : requests = []
  · simp [inv.empty_setValues empty]
  · have := inv.signals (List.length_pos.mpr empty)
    split at this <;> omega

theorem BatchInv.invocations_le_one (inv : BatchInv reg requests s) (i : Nat) :
    s.invocations i ≤ 1 := by
  rw [inv.invocations_eq i]
  split <;> omega

/-- On return `set_value` has run once, unless the batch was empty and no promise was made. -/
theorem BatchInv.setValues_of_returned (inv : BatchInv reg requests s)
    {responses : List Response} (returned : s.caller = .returned responses) :
    s.setValues = if requests = [] then 0 else 1 := by
  split
  · exact inv.empty_setValues ‹_›
  · have finished := (inv.returned _ returned).2
    have signals := inv.signals (List.length_pos.mpr ‹_›)
    have drained : s.remaining = 0 := by
      rw [inv.remaining_eq, countTasks_eq_zero_iff]
      intro i hi
      simp [finished i hi, TaskPhase.beforeFetch]
    have quiet : countTasks s.tasks requests.length TaskPhase.isSignalling = 0 :=
      (countTasks_eq_zero_iff _ _ _).mpr fun i hi => by simp [finished i hi, TaskPhase.isSignalling]
    rw [if_pos drained, quiet] at signals
    omega

/-- `invoke_batch` under every interleaving of its pool threads: every run returns, `set_value`
and each `invoke` run at most once, and the call returns `batchResponses` once every task has
finished and invoked once. -/
theorem invokeBatch_interleavings (reg : MethodRegistry) (requests : List Request) :
    Returns reg requests (BatchState.init requests) ∧
    ∀ s, BatchReachable reg requests s →
      s.setValues ≤ 1 ∧ (∀ i, s.invocations i ≤ 1) ∧
      ∀ responses, s.caller = .returned responses →
        responses = reg.batchResponses requests ∧
        (∀ i < requests.length, s.tasks i = .finished ∧ s.invocations i = 1) ∧
        s.setValues = if requests = [] then 0 else 1 := by
  refine ⟨(BatchInv.init reg requests).returns, fun s reachable => ?_⟩
  have inv := BatchInv.of_reachable reachable
  refine ⟨inv.setValues_le_one, inv.invocations_le_one, fun responses returned =>
    ⟨(inv.returned _ returned).1, fun i hi => ?_, inv.setValues_of_returned returned⟩⟩
  have done := (inv.returned _ returned).2 i hi
  exact ⟨done, by simp [inv.invocations_eq, done, TaskPhase.hasInvoked]⟩

/-- An empty batch returns at once, with no task posted and no `set_value`. -/
theorem invokeBatch_empty_returns_without_setValue :
    BatchReachable (MethodRegistry.new 4) [] (BatchState.init []) ∧
      (BatchState.init []).caller = .returned [] ∧ (BatchState.init []).setValues = 0 :=
  ⟨.refl, rfl, rfl⟩

theorem countTasks_pos {tasks : Nat → TaskPhase} {n i : Nat} {p : TaskPhase → Bool}
    (hi : i < n) (h : p (tasks i) = true) : 0 < countTasks tasks n p := by
  have := (countTasks_eq_zero_iff tasks n p).not.mpr fun all => by simp [all i hi] at h
  omega

/-- While a task has not yet decremented `*remaining`, `set_value` has not run. -/
theorem BatchInv.setValues_eq_zero {b : BatchState} (inv : BatchInv reg requests b) {i : Nat}
    (hi : i < requests.length) (before : (b.tasks i).beforeFetch = true) : b.setValues = 0 := by
  have pending := countTasks_pos hi before
  rw [← inv.remaining_eq] at pending
  have := inv.signals (Nat.lt_of_le_of_lt (Nat.zero_le i) hi)
  rw [if_neg (by omega)] at this
  omega

/-- A caller waiting on a future that is not ready keeps waiting. -/
theorem BatchStep.caller_waiting {b c : BatchState} (step : BatchStep reg requests b c)
    (waiting : b.caller = .waiting) (idle : b.setValues = 0) : c.caller = .waiting := by
  cases step with
  | post posting => simp [posting] at waiting
  | wake _ ready => omega
  | _ => exact waiting

end MethodRegistry

end JsonRpc
