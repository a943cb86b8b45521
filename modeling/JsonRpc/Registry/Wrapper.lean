import JsonRpc.Converter
import JsonRpc.Registry.Registry

namespace JsonRpc

/-! `detail::extract_args` and `detail::MethodWrapperImpl`: how `register_method` wraps a typed
procedure, and what `MethodRegistry::invoke` does over any history of registrations. -/

/-- `std::tuple<T_1, ..., T_n>` over the converters of the decayed parameter types. -/
@[reducible] def Args : List JsonConverter → Type
  | [] => Unit
  | c :: cs => c.Denote × Args cs

namespace Args

/-- `std::get<k>`. -/
def get : {cs : List JsonConverter} → Args cs → (k : Fin cs.length) → (cs.get k).Denote
  | [], _, k => k.elim0
  | _ :: _, args, k => by
      cases k using Fin.cases with
      | zero => exact args.1
      | succ j => exact get args.2 j

@[simp] theorem get_zero {c : JsonConverter} {cs : List JsonConverter} (args : Args (c :: cs)) :
    args.get ⟨0, Nat.succ_pos _⟩ = args.1 := rfl

@[simp] theorem get_succ {c : JsonConverter} {cs : List JsonConverter} (args : Args (c :: cs))
    (j : Fin cs.length) : args.get j.succ = get args.2 j := rfl

end Args

/-! ## `index_sequence` -/

/-- `make_index_sequence_impl<N, Is...>`: each level puts `N - 1` in front of `Is...`, and
level `0` is `index_sequence<Is...>`. -/
def makeIndexSequenceImpl : Nat → List Nat → List Nat
  | 0, is => is
  | n + 1, is => makeIndexSequenceImpl n (n :: is)

/-- `make_index_sequence<N>`. -/
def makeIndexSequence (n : Nat) : List Nat := makeIndexSequenceImpl n []

theorem makeIndexSequenceImpl_eq :
    ∀ (n : Nat) (is : List Nat), makeIndexSequenceImpl n is = List.range n ++ is
  | 0, _ => rfl
  | n + 1, is => by
      rw [makeIndexSequenceImpl, makeIndexSequenceImpl_eq n, List.range_succ,
        List.append_assoc, List.singleton_append]

/-- `make_index_sequence<N>` is `index_sequence<0, ..., N - 1>`. -/
theorem makeIndexSequence_eq_range (n : Nat) : makeIndexSequence n = List.range n := by
  rw [makeIndexSequence, makeIndexSequenceImpl_eq, List.append_nil]

theorem length_makeIndexSequence (n : Nat) : (makeIndexSequence n).length = n := by
  rw [makeIndexSequence_eq_range, List.length_range]

/-! ## `extract_args` -/

open Converter (mismatch)

/-- The pack expansion of `extract_args_impl`,
`make_tuple(json_converter<tuple_element<Is, Tuple>>::from_json(arr[Is])...)`: the `k`-th
component is read from the element at the `k`-th index, with the `k`-th type, which is
`tuple_element<I_k, Tuple>` because `I_k = k` (`makeIndexSequence_eq_range`). Every index is
below `arr.size()` once the size is checked, so the default of `getD` is never read. C++ leaves
the order of the arguments unspecified; the model reads them from the left, which decides only
which mismatch is thrown when several elements mismatch. -/
def makeTuple (arr : List Value) :
    (cs : List JsonConverter) → (is : List Nat) → is.length = cs.length → Except Error (Args cs)
  | [], _, _ => pure ()
  | c :: cs, i :: is, h => do
      let x ← c.fromJson (arr.getD i .null)
      let rest ← makeTuple arr cs is (Nat.succ.inj h)
      pure (x, rest)
  | _ :: _, [], h => absurd h (Nat.succ_ne_zero _).symm

/-- `extract_args_impl<Tuple, Is...>`: `N` is the length of the index sequence. -/
def extractArgsImpl (cs : List JsonConverter) (arr : List Value) (is : List Nat)
    (h : is.length = cs.length) : Except Error (Args cs) :=
  if arr.length ≠ is.length then
    throw (mismatch ("参数数量不匹配：期望 " ++ toString is.length ++ " 个，实际 " ++
      toString arr.length ++ " 个"))
  else makeTuple arr cs is h

/-- `extract_args<>`, the specialization for a procedure without parameters. -/
def extractNoArgs (params : Value) : Except Error Unit :=
  if !params.isNull && !params.isArray then throw (mismatch "params 必须是 null 或 array")
  else
    match params with
    | .array (_ :: _) => throw (mismatch "期望无参数，但提供了参数")
    | _ => pure ()

/-- `extract_args<Args...>`; the empty pack takes its specialization. -/
def extractArgs : (cs : List JsonConverter) → Value → Except Error (Args cs)
  | [], params => extractNoArgs params
  | c :: cs, params =>
      match params with
      | .array arr =>
          extractArgsImpl (c :: cs) arr (makeIndexSequence (c :: cs).length)
            (length_makeIndexSequence _)
      | _ => throw (mismatch "params 必须是 array")

/-- What `params` the spec lets a procedure with parameter converters `cs` take: without
parameters, null or `[]`; otherwise an array with one element per parameter, each accepted by
the converter of its position. -/
def ParamsAccepted : List JsonConverter → Value → Prop
  | [], params => params = .null ∨ params = .array []
  | c :: cs, params => ∃ elems, params = .array elems ∧ elems.length = cs.length + 1 ∧
      ∀ k : Fin (c :: cs).length, ∃ x, ((c :: cs).get k).fromJson (elems.getD k .null) = .ok x

theorem bind_pair_eq_ok {α β : Type} {m : Except Error α} {n : Except Error β} {a : α} {b : β} :
    (do let x ← m; let y ← n; pure (x, y)) = Except.ok (a, b) ↔ m = .ok a ∧ n = .ok b := by
  cases m <;> cases n <;> simp [Prod.ext_iff]

section MakeTuple

variable (arr : List Value)

/-- Over the indices `s, s + 1, ...`, `make_tuple` gives `args` exactly when each component of
`args` is what its converter reads from its element. -/
theorem makeTuple_eq_ok : ∀ (cs : List JsonConverter) (s : Nat) (is : List Nat)
    (h : is.length = cs.length), is = List.range' s cs.length → ∀ args : Args cs,
      makeTuple arr cs is h = .ok args ↔
        ∀ k : Fin cs.length, (cs.get k).fromJson (arr.getD (s + k) .null) = .ok (args.get k)
  | [], _, _, _, _, () => by simp [makeTuple]
  | c :: cs, s, i :: is, h, range, (x, rest) => by
      obtain ⟨rfl, rfl⟩ := List.cons.inj range
      rw [makeTuple, bind_pair_eq_ok, makeTuple_eq_ok cs (i + 1) _ _ rfl rest]
      constructor
      · rintro ⟨head, tail⟩ k
        cases k using Fin.cases with
        | zero => simpa using head
        | succ j => simpa [Nat.add_right_comm i] using tail j
      · intro all
        exact ⟨by simpa using all ⟨0, Nat.succ_pos _⟩,
          fun j => by simpa [Nat.add_right_comm i] using all j.succ⟩
  | _ :: _, _, [], h, _, _ => absurd h (Nat.succ_ne_zero _).symm

/-- An error of `make_tuple` is the error of the converter of some position on its element. -/
theorem makeTuple_error : ∀ (cs : List JsonConverter) (s : Nat) (is : List Nat)
    (h : is.length = cs.length), is = List.range' s cs.length → ∀ e : Error,
      makeTuple arr cs is h = .error e →
        ∃ k : Fin cs.length, (cs.get k).fromJson (arr.getD (s + k) .null) = .error e
  | [], _, _, _, _, _, failed => by cases failed
  | c :: cs, s, i :: is, h, range, e, failed => by
      obtain ⟨rfl, rfl⟩ := List.cons.inj range
      rw [makeTuple, except_bind_eq_error] at failed
      rcases failed with head | ⟨_, -, failed⟩
      · exact ⟨⟨0, Nat.succ_pos _⟩, by simpa using head⟩
      · rw [except_bind_eq_error] at failed
        rcases failed with tail | ⟨_, -, failed⟩
        · obtain ⟨k, hk⟩ := makeTuple_error cs (i + 1) _ _ rfl e tail
          exact ⟨k.succ, by simpa [Nat.add_right_comm i] using hk⟩
        · cases failed
  | _ :: _, _, [], h, _, _, _ => absurd h (Nat.succ_ne_zero _).symm

end MakeTuple

theorem extractNoArgs_eq_ok (params : Value) :
    extractNoArgs params = .ok () ↔ params = .null ∨ params = .array [] := by
  cases params with
  | array elems => cases elems <;> simp [extractNoArgs, Value.isNull, Value.isArray]
  | _ => simp [extractNoArgs, Value.isNull, Value.isArray]

theorem extractNoArgs_error {params : Value} {e : Error}
    (failed : extractNoArgs params = .error e) :
    e.code = .invalidParams := by
  unfold extractNoArgs at failed
  split at failed
  · cases failed; rfl
  · split at failed <;> cases failed; rfl

/-- With parameters, an array is read by `extract_args_impl` over `0, ..., n - 1`. -/
theorem extractArgs_cons_array (c : JsonConverter) (cs : List JsonConverter) (arr : List Value) :
    extractArgs (c :: cs) (.array arr) =
      if arr.length ≠ cs.length + 1 then
        .error (mismatch ("参数数量不匹配：期望 " ++ toString (cs.length + 1) ++ " 个，实际 " ++
          toString arr.length ++ " 个"))
      else makeTuple arr (c :: cs) (makeIndexSequence (cs.length + 1))
        (length_makeIndexSequence _) := by
  simp only [extractArgs, extractArgsImpl, length_makeIndexSequence, List.length_cons]
  rfl

theorem makeIndexSequence_eq_range' (n : Nat) : makeIndexSequence n = List.range' 0 n := by
  rw [makeIndexSequence_eq_range, List.range_eq_range']

theorem extractArgs_cons_eq_ok (c : JsonConverter) (cs : List JsonConverter) (arr : List Value)
    (args : Args (c :: cs)) :
    extractArgs (c :: cs) (.array arr) = .ok args ↔ arr.length = cs.length + 1 ∧
      ∀ k : Fin (c :: cs).length,
        ((c :: cs).get k).fromJson (arr.getD k .null) = .ok (args.get k) := by
  rw [extractArgs_cons_array]
  by_cases size : arr.length = cs.length + 1
  · simp only [size, ne_eq, not_true_eq_false, if_false, true_and]
    rw [makeTuple_eq_ok arr (c :: cs) 0 (makeIndexSequence (cs.length + 1)) _
      (makeIndexSequence_eq_range' _)]
    simp only [Nat.zero_add]
  · simp [size]

/-- `extract_args` succeeds exactly on the `params` the spec accepts. -/
theorem extractArgs_ok_iff (cs : List JsonConverter) (params : Value) :
    (∃ args, extractArgs cs params = .ok args) ↔ ParamsAccepted cs params := by
  cases cs with
  | nil => exact ⟨fun ⟨(), ok⟩ => (extractNoArgs_eq_ok params).mp ok,
      fun accepted => ⟨(), (extractNoArgs_eq_ok params).mpr accepted⟩⟩
  | cons c cs =>
      cases params
      case array arr =>
        constructor
        · rintro ⟨args, ok⟩
          obtain ⟨size, each⟩ := (extractArgs_cons_eq_ok c cs arr args).mp ok
          exact ⟨arr, rfl, size, fun k => ⟨args.get k, each k⟩⟩
        · rintro ⟨_, ⟨⟩, size, each⟩
          cases built : makeTuple arr (c :: cs) (makeIndexSequence (cs.length + 1))
              (length_makeIndexSequence _) with
          | ok args =>
              exact ⟨args, by rw [extractArgs_cons_array, if_neg (by simpa using size), built]⟩
          | error e =>
              obtain ⟨k, failed⟩ := makeTuple_error arr (c :: cs) 0 _ _
                (makeIndexSequence_eq_range' _) e built
              obtain ⟨x, ok⟩ := each k
              rw [Nat.zero_add] at failed
              cases ok.symm.trans failed
      all_goals exact ⟨fun ⟨_, failed⟩ => (by cases failed),
        fun ⟨_, is_array, _⟩ => (by cases is_array)⟩

/-- On success, component `k` is what the converter of position `k` reads from element `k`. -/
theorem extractArgs_components (cs : List JsonConverter) (params : Value) (args : Args cs)
    (ok : extractArgs cs params = .ok args) (elems : List Value) (is_array : params = .array elems)
    (k : Fin cs.length) : (cs.get k).fromJson (elems.getD k .null) = .ok (args.get k) := by
  cases cs with
  | nil => exact k.elim0
  | cons c cs =>
      subst is_array
      exact ((extractArgs_cons_eq_ok c cs elems args).mp ok).2 k

/-- Every error `extract_args` throws is an `InvalidParams`. -/
theorem extractArgs_error (cs : List JsonConverter) (params : Value) {e : Error}
    (failed : extractArgs cs params = .error e) : e.code = .invalidParams := by
  cases cs with
  | nil => exact extractNoArgs_error failed
  | cons c cs =>
      cases params
      case array arr =>
        rw [extractArgs_cons_array] at failed
        split at failed
        · cases failed; rfl
        · obtain ⟨k, failed⟩ := makeTuple_error arr (c :: cs) 0 _ _
            (makeIndexSequence_eq_range' _) e failed
          exact ((c :: cs).get k).fromJson_error failed
      all_goals cases failed; rfl

/-- `extract_args<T_1, ..., T_n>(params)`: when it succeeds, what component `k` of the tuple
then is, that every failure is an `InvalidParams`, and `make_index_sequence<n>`. -/
theorem extractArgs_spec (cs : List JsonConverter) (params : Value) :
    ((∃ args, extractArgs cs params = .ok args) ↔ ParamsAccepted cs params) ∧
      (∀ args, extractArgs cs params = .ok args → ∀ elems, params = .array elems →
        ∀ k : Fin cs.length, (cs.get k).fromJson (elems.getD k .null) = .ok (args.get k)) ∧
      (∀ e, extractArgs cs params = .error e → e.code = .invalidParams) ∧
      makeIndexSequence cs.length = List.range cs.length :=
  ⟨extractArgs_ok_iff cs params, extractArgs_components cs params,
    fun _ => extractArgs_error cs params, makeIndexSequence_eq_range _⟩

/-! ## `MethodWrapperImpl` -/

/-- The values a procedure with return converter `r` returns; `none` is `void`. -/
@[reducible] def ReturnValue : Option JsonConverter → Type
  | none => Unit
  | some c => c.Denote

/-- The conversion of `invoke_and_convert<R>`: `json_converter<R>::to_json`, or
`json_converter<void>::to_json()`, which is null. -/
def returnJson : (r : Option JsonConverter) → ReturnValue r → Value
  | none, _ => .null
  | some c, x => c.toJson x

/-- A callable handed to `register_method`, as `function_traits` sees it: the converters of its
decayed parameter types and of its return type, and what calling `func_` does: it returns, or
it throws. -/
structure Procedure where
  params : List JsonConverter
  result : Option JsonConverter
  func : Args params → Except Exception (ReturnValue result)

namespace Procedure

/-- `invoke_and_convert<R>(args_tuple)`. -/
def invokeAndConvert (p : Procedure) (args : Args p.params) : Except Exception Value :=
  (p.func args).map (returnJson p.result)

/-- The handlers of `invoke_impl`: a `jsonrpc::Error` is rethrown, another `std::exception`
becomes an `InternalError`, and anything else is not caught. -/
def catchStandard : Except Exception Value → Except Exception Value
  | .error (.standard what) =>
      throw (.error { code := .internalError, message := "方法执行失败: " ++ what })
  | outcome => outcome

/-- `MethodWrapperImpl<Func>::invoke`, through `invoke_impl`. -/
def wrap (p : Procedure) : MethodWrapper := fun params =>
  catchStandard do
    let args ← (extractArgs p.params params).mapError .error
    p.invokeAndConvert args

/-- What the wrapper of a procedure returns or throws, by what extraction and the call do. -/
theorem wrap_eq (p : Procedure) (params : Value) :
    p.wrap params =
      match extractArgs p.params params with
      | .error e => .error (.error e)
      | .ok args =>
          match p.func args with
          | .ok x => .ok (returnJson p.result x)
          | .error (.error e) => .error (.error e)
          | .error (.standard what) =>
              .error (.error { code := .internalError, message := "方法执行失败: " ++ what })
          | .error .other => .error .other := by
  unfold wrap invokeAndConvert
  cases extractArgs p.params params with
  | error e => rfl
  | ok args =>
      show catchStandard ((p.func args).map (returnJson p.result)) = _
      dsimp only
      cases p.func args with
      | ok x => rfl
      | error ex => cases ex <;> rfl

end Procedure

/-- `json_converter<int>` takes every `int64`: an `int` parameter bound to one outside the
range of `int` reaches the procedure as the value modulo `2^32`, which differs from it. -/
theorem int_param_receives_wrapped_value (i : Int64)
    (outside : i.toInt < -2147483648 ∨ 2147483648 ≤ i.toInt) (result : Option JsonConverter)
    (func : Args [Ty.int.converter] → Except Exception (ReturnValue result)) :
    Converter.fromJson .int (.int64 i) = .ok i.toInt32 ∧ i.toInt32.toInt ≠ i.toInt ∧
      Procedure.wrap ⟨[Ty.int.converter], result, func⟩ (.array [.int64 i]) =
        Procedure.catchStandard ((func (i.toInt32, ())).map (returnJson result)) := by
  refine ⟨rfl, fun same => ?_, rfl⟩
  have fits := (Int64.toInt32_toInt_eq_iff i).mp same
  omega

/-- The `int64` value `2^31` bound to an `int` parameter of a procedure that returns it: the
procedure gets and returns `-2^31`. -/
theorem int_param_receives_wrapped_value_at_two_pow_31 :
    let i : Int64 := ⟨2147483648, by omega, by omega⟩
    (i.toInt < -2147483648 ∨ 2147483648 ≤ i.toInt) ∧
      Procedure.wrap ⟨[Ty.int.converter], some Ty.int.converter, fun args => .ok args.1⟩
          (.array [.int64 i]) = .ok (.int64 ⟨-2147483648, by omega, by omega⟩) :=
  ⟨.inr (by decide), (int_param_receives_wrapped_value _ (.inr (by decide)) _ _).2.2⟩

/-! ## Registration histories -/

/-- `register_method(name, procedure)` for each registration in order: the procedure is wrapped
in a `MethodWrapperImpl` and stored under its name. -/
def MethodRegistry.registerAll (reg : MethodRegistry)
    (registrations : List (String × Procedure)) : MethodRegistry :=
  registrations.foldl (fun reg r => reg.registerMethod r.1 r.2.wrap) reg

/-- The procedure of the last registration under `name`. -/
def lastRegistration (registrations : List (String × Procedure)) (name : String) :
    Option Procedure :=
  (registrations.reverse.find? (·.1 = name)).map Prod.snd

/-- Last write wins: after a history of registrations, a name finds the wrapper of its last
registration, or what it found before if the history never registered it. -/
theorem find?_registerAll (reg : MethodRegistry) (registrations : List (String × Procedure))
    (name : String) :
    (reg.registerAll registrations).methods.find? name =
      ((lastRegistration registrations name).map Procedure.wrap).or (reg.methods.find? name) := by
  induction registrations generalizing reg with
  | nil => simp [MethodRegistry.registerAll, lastRegistration]
  | cons r rest ih =>
      obtain ⟨n, p⟩ := r
      rw [MethodRegistry.registerAll, List.foldl_cons, ← MethodRegistry.registerAll, ih]
      by_cases same : name = n
      · subst same
        cases h : rest.reverse.find? (·.1 = name) <;>
          simp [lastRegistration, List.find?_append, h, MethodRegistry.registerMethod,
            StdMap.find?_insert]
      · cases h : rest.reverse.find? (·.1 = name) <;>
          simp [lastRegistration, List.find?_append, h, same, Ne.symm same,
            MethodRegistry.registerMethod, StdMap.find?_insert]

theorem find?_new_registerAll (hardwareConcurrency : Nat)
    (registrations : List (String × Procedure)) (name : String) :
    ((MethodRegistry.new hardwareConcurrency).registerAll registrations).methods.find? name =
      (lastRegistration registrations name).map Procedure.wrap := by
  rw [find?_registerAll]
  cases lastRegistration registrations name <;> rfl

/-- `invoke` of a request whose method finds the wrapper of `p`: an extraction error, the
procedure's `jsonrpc::Error` and the `InternalError` made of another `std::exception` become
error responses, a result a success, and any other exception leaves `invoke`. -/
theorem invoke_of_find?_wrap (reg : MethodRegistry) (r : Request) (p : Procedure)
    (found : reg.methods.find? r.method = some p.wrap) :
    reg.invoke r =
      match extractArgs p.params r.params with
      | .error e => .ok (.ofError e r.id)
      | .ok args =>
          match p.func args with
          | .ok x => .ok (.ofResult (returnJson p.result x) r.id)
          | .error (.error e) => .ok (.ofError e r.id)
          | .error (.standard what) =>
              .ok (.ofError { code := .internalError, message := "方法执行失败: " ++ what } r.id)
          | .error .other => .error .other := by
  rw [MethodRegistry.invoke, found]
  dsimp only
  rw [Procedure.wrap_eq]
  cases extractArgs p.params r.params with
  | error e => rfl
  | ok args =>
      dsimp only
      cases p.func args with
      | ok x => rfl
      | error ex => cases ex <;> rfl

/-- A method that no registration of the history names is not found. -/
theorem invoke_of_not_registered (hardwareConcurrency : Nat)
    (registrations : List (String × Procedure)) (r : Request)
    (never : lastRegistration registrations r.method = none) :
    ((MethodRegistry.new hardwareConcurrency).registerAll registrations).invoke r =
      .ok (.ofError { code := .methodNotFound, message := "方法不存在: " ++ r.method } r.id) := by
  rw [MethodRegistry.invoke, find?_new_registerAll, never]
  rfl

/-- A history that registers `add` only, and a call of `sub`. -/
theorem invoke_of_not_registered_sub :
    let add : Procedure := ⟨[], some Ty.int.converter, fun _ => .ok ⟨3, by omega, by omega⟩⟩
    let r := Request.call "sub" .null (.int64 ⟨1, by omega, by omega⟩)
    lastRegistration [("add", add)] r.method = none ∧
      ((MethodRegistry.new 2).registerAll [("add", add)]).invoke r =
        .ok (.ofError { code := .methodNotFound, message := "方法不存在: " ++ r.method } r.id) := by
  intro add r
  exact ⟨rfl, invoke_of_not_registered 2 [("add", add)] r rfl⟩

/-- A procedure that, once its arguments are extracted, throws a value of a type derived from
neither `jsonrpc::Error` nor `std::exception`: the exception leaves `MethodRegistry::invoke`. -/
theorem invoke_lets_foreign_exception_escape (hardwareConcurrency : Nat)
    (registrations : List (String × Procedure)) (r : Request) (p : Procedure)
    (args : Args p.params) (last : lastRegistration registrations r.method = some p)
    (extracted : extractArgs p.params r.params = .ok args)
    (throws : p.func args = .error .other) :
    ((MethodRegistry.new hardwareConcurrency).registerAll registrations).invoke r =
      .error .other := by
  rw [invoke_of_find?_wrap _ r p (by rw [find?_new_registerAll, last]; rfl), extracted]
  dsimp only
  rw [throws]

/-- The failing input: a procedure `m` without parameters whose body is `throw 42`. -/
theorem invoke_lets_thrown_int_escape :
    let p : Procedure := ⟨[], none, fun _ => .error .other⟩
    let r : Request := .call "m" .null (.int64 ⟨1, by omega, by omega⟩)
    lastRegistration [("m", p)] r.method = some p ∧ extractArgs p.params r.params = .ok () ∧
      p.func () = .error .other ∧
      ((MethodRegistry.new 2).registerAll [("m", p)]).invoke r = .error .other := by
  intro p r
  exact ⟨rfl, rfl, rfl, invoke_lets_foreign_exception_escape 2 [("m", p)] r p () rfl rfl rfl⟩

end JsonRpc
