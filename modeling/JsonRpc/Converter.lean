import JsonRpc.Types
import JsonRpc.Data.StdMap

namespace JsonRpc

/-! `detail::json_converter` for the types generated by `int`, `int64_t`, `uint64_t`, `bool`,
`std::string`, `std::vector<T>` and `std::map<std::string, T>`, and what the JSON text layer
does to the values it carries. -/

/-- A C++ type built from the converters. -/
inductive Ty where
  | int
  | int64
  | uint64
  | bool
  | string
  | vector (elem : Ty)
  | map (elem : Ty)
  deriving DecidableEq, Repr

/-- The C++ values of a type. -/
@[reducible] def Ty.Denote : Ty → Type
  | .int => Int32
  | .int64 => Int64
  | .uint64 => UInt64
  | .bool => Bool
  | .string => String
  | .vector elem => List elem.Denote
  | .map elem => StdMap elem.Denote

namespace Converter

/-- The `InvalidParams` error a converter throws on a value of the wrong kind. -/
def mismatch (message : String) : Error := { code := .invalidParams, message }

/-- `json_converter<T>::to_json`. A map is written entry by entry with `obj[key] = value`. -/
def toJson : (t : Ty) → t.Denote → Value
  | .int, x => .int64 (Int32.toInt64 x)
  | .int64, x => .int64 x
  | .uint64, x => .uint64 x
  | .bool, x => .bool x
  | .string, x => .string x
  | .vector elem, xs => .array (List.map (toJson elem) xs)
  | .map elem, m =>
      .object ((StdMap.entries m).foldl (fun obj p => Object.set obj p.1 (toJson elem p.2)) [])

/-- `json_converter<T>::from_json`. A string is copied through `c_str()`; a map is filled with
`result[key] = value` in member order. -/
def fromJson : (t : Ty) → Value → Except Error t.Denote
  | .int, .int64 i => pure (Int64.toInt32 i)
  | .int, _ => throw (mismatch "期望 int 类型")
  | .int64, .int64 i => pure i
  | .int64, _ => throw (mismatch "期望 int64 类型")
  | .uint64, .uint64 n => pure n
  | .uint64, _ => throw (mismatch "期望 uint64 类型")
  | .bool, .bool b => pure b
  | .bool, _ => throw (mismatch "期望 bool 类型")
  | .string, .string s => pure (fromCStr s)
  | .string, _ => throw (mismatch "期望 string 类型")
  | .vector elem, .array elems => elems.mapM (fromJson elem)
  | .vector _, _ => throw (mismatch "期望 array 类型")
  | .map elem, .object members =>
      members.foldlM (fun result p => do
        let x ← fromJson elem p.2
        pure (StdMap.insert result p.1 x)) StdMap.empty
  | .map _, _ => throw (mismatch "期望 object 类型")

end Converter

namespace Value

mutual

/-- What `boost::json::parse` gives back for the text `boost::json::serialize` wrote, when it
accepts that text: an integer literal that fits in `int64` is stored as `int64`, so an unsigned
value up to `INT64_MAX` changes kind. -/
def reparse : Value → Value
  | .uint64 n =>
      if h : n.toNat < 9223372036854775808 then .int64 ⟨n.toNat, by omega, by omega⟩
      else .uint64 n
  | .array elems => .array (reparseElems elems)
  | .object members => .object (reparseMembers members)
  | v => v

def reparseElems : List Value → List Value
  | [] => []
  | v :: rest => reparse v :: reparseElems rest

def reparseMembers : List (String × Value) → List (String × Value)
  | [] => []
  | (k, v) :: rest => (k, reparse v) :: reparseMembers rest

end

theorem reparseElems_eq (elems : List Value) : reparseElems elems = elems.map reparse := by
  induction elems with
  | nil => rfl
  | cons v rest ih => simp [reparseElems, ih]

theorem reparseMembers_eq (members : List (String × Value)) :
    reparseMembers members = members.map fun p => (p.1, reparse p.2) := by
  induction members with
  | nil => rfl
  | cons p rest ih => simp [reparseMembers, ih]

end Value

/-- The text layer carries `v`: `parse` accepts what `serialize` wrote and gives `v.reparse`.
Boost's default `parse_options` accept at most 32 levels of nesting and only valid UTF-8, so a
deeper value is not carried. -/
def JsonWire.Carries (wire : JsonWire) (v : Value) : Prop :=
  wire.parse (wire.serialize v) = .ok v.reparse

namespace Ty

/-- Every string in the value, map keys aside, holds no `U+0000`. -/
def cStrSafe : (t : Ty) → t.Denote → Bool
  | .string, s => decide (nul ∉ String.data s)
  | .vector elem, xs => List.all xs (cStrSafe elem)
  | .map elem, m => (StdMap.entries m).all fun p => cStrSafe elem p.2
  | _, _ => true

/-- Every `uint64_t` in the value is above `INT64_MAX`, so the parser keeps it unsigned. -/
def wireSafe : (t : Ty) → t.Denote → Bool
  | .uint64, n => decide (9223372036854775808 ≤ UInt64.toNat n)
  | .vector elem, xs => List.all xs (wireSafe elem)
  | .map elem, m => (StdMap.entries m).all fun p => wireSafe elem p.2
  | _, _ => true

end Ty

namespace Converter

/-- Decoding an encoded list element by element gives the list back, or stops at the first
element that fails. -/
theorem mapM_map_of_each {α : Type} (decode : Value → Except Error α) (encode : α → Value)
    (ok : α → Bool) (e : Error) (xs : List α)
    (each : ∀ x ∈ xs, decode (encode x) = if ok x then .ok x else .error e) :
    (xs.map encode).mapM decode = if xs.all ok then .ok xs else .error e := by
  induction xs with
  | nil => rfl
  | cons x rest ih =>
      rw [List.map_cons, List.mapM_cons, each x (List.mem_cons_self _ _),
        ih fun y hy => each y (List.mem_cons_of_mem _ hy)]
      by_cases hx : ok x <;> by_cases hr : rest.all ok <;>
        simp [hx, hr, except_ok_bind, except_error_bind, except_pure]

/-- Writing entries with distinct keys, none already present, appends them in order. -/
theorem foldl_set_of_sorted {α : Type} (f : α → Value) :
    ∀ (acc : Object) (l : List (String × α)), (∀ p ∈ l, Object.at? acc p.1 = none) →
      l.Pairwise (fun a b => a.1 < b.1) →
      l.foldl (fun obj p => Object.set obj p.1 (f p.2)) acc = acc ++ l.map fun p => (p.1, f p.2)
  | acc, [], _, _ => by simp
  | acc, p :: rest, fresh, sorted => by
      rw [List.pairwise_cons] at sorted
      have fresh' : ∀ q ∈ rest, Object.at? (acc ++ [(p.1, f p.2)]) q.1 = none := fun q hq => by
        have ne : q.1 ≠ p.1 := ne_of_gt (sorted.1 q hq)
        simp [Object.at?_append, fresh q (List.mem_cons_of_mem _ hq), Object.at?_cons, ne]
      rw [List.foldl_cons, Object.set_of_at?_eq_none _ (fresh p (List.mem_cons_self _ _)),
        foldl_set_of_sorted f _ rest fresh' sorted.2]
      simp

/-- Filling a map with `result[key] = value` from members in ascending key order, all above
the keys already there, appends them, or stops at the first value that fails. -/
theorem foldlM_insert_of_each {α : Type} (decode : Value → Except Error α) (encode : α → Value)
    (ok : α → Bool) (e : Error) :
    ∀ (acc : StdMap α) (l : List (String × α)) (sorted : (acc.entries ++ l).Pairwise
      (fun a b => a.1 < b.1)),
      (∀ p ∈ l, decode (encode p.2) = if ok p.2 then .ok p.2 else .error e) →
      (l.map fun p => (p.1, encode p.2)).foldlM (fun result p => do
          let x ← decode p.2
          pure (StdMap.insert result p.1 x)) acc =
        if l.all fun p => ok p.2 then .ok ⟨acc.entries ++ l, sorted⟩ else .error e
  | acc, [], _, _ => by simp [StdMap.ext_iff]
  | acc, p :: rest, sorted, each => by
      have below : ∀ q ∈ acc.entries, q.1 < p.1 :=
        fun q hq => (List.pairwise_append.mp sorted).2.2 q hq p (List.mem_cons_self _ _)
      have sorted' : ((acc.entries ++ [p]) ++ rest).Pairwise (fun a b => a.1 < b.1) := by
        simpa using sorted
      let next : StdMap α := ⟨acc.entries ++ [p], sorted'.sublist (List.sublist_append_left _ _)⟩
      have inserted : StdMap.insert acc p.1 p.2 = next := by
        simp [next, StdMap.ext_iff, StdMap.insert, StdMap.insertEntry_of_lt _ _ below]
      rw [List.map_cons, List.foldlM_cons, each p (List.mem_cons_self _ _)]
      by_cases hp : ok p.2
      · simp only [hp, if_true, except_ok_bind, pure_bind, inserted]
        rw [foldlM_insert_of_each decode encode ok e next rest sorted'
          fun q hq => each q (List.mem_cons_of_mem _ hq)]
        by_cases hr : rest.all (fun q => ok q.2) <;> simp [hp, hr, next, StdMap.ext_iff]
      · simp [hp, except_error_bind]

/-- An error of `mapM` is the error of the function on some element. -/
theorem mapM_error_mem {α β : Type} {f : α → Except Error β} :
    ∀ {xs : List α} {e : Error}, xs.mapM f = .error e → ∃ x ∈ xs, f x = .error e
  | [], _, h => by cases h
  | x :: rest, e, h => by
      rw [List.mapM_cons, except_bind_eq_error] at h
      rcases h with head | ⟨_, -, h⟩
      · exact ⟨x, List.mem_cons_self _ _, head⟩
      · rw [except_bind_eq_error] at h
        rcases h with tail | ⟨_, -, h⟩
        · obtain ⟨z, member, hz⟩ := mapM_error_mem tail
          exact ⟨z, List.mem_cons_of_mem _ member, hz⟩
        · cases h

/-- An error of the `result[key] = value` loop is the error of the decoder on some member. -/
theorem foldlM_error_mem {α : Type} (decode : Value → Except Error α) :
    ∀ {l : List (String × Value)} {acc : StdMap α} {e : Error},
      l.foldlM (fun result p => do
          let x ← decode p.2
          pure (StdMap.insert result p.1 x)) acc = .error e → ∃ p ∈ l, decode p.2 = .error e
  | [], _, _, h => by cases h
  | p :: rest, acc, e, h => by
      rw [List.foldlM_cons, except_bind_eq_error] at h
      rcases h with step | ⟨_, -, h⟩
      · rw [except_bind_eq_error] at step
        rcases step with head | ⟨_, -, step⟩
        · exact ⟨p, List.mem_cons_self _ _, head⟩
        · cases step
      · obtain ⟨q, member, hq⟩ := foldlM_error_mem decode h
        exact ⟨q, List.mem_cons_of_mem _ member, hq⟩

/-- Every error a converter throws is an `InvalidParams`. -/
theorem fromJson_error_code (t : Ty) :
    ∀ {v : Value} {e : Error}, fromJson t v = .error e → e.code = .invalidParams := by
  induction t with
  | vector elem ih =>
      intro v e h
      cases v
      case array elems =>
        obtain ⟨_, _, hx⟩ := mapM_error_mem h
        exact ih hx
      all_goals cases h; rfl
  | map elem ih =>
      intro v e h
      cases v
      case object members =>
        obtain ⟨_, _, hp⟩ := foldlM_error_mem (fromJson elem) h
        exact ih hp
      all_goals cases h; rfl
  | _ => intro v e h; cases v <;> cases h <;> rfl

theorem fromJson_toJson_and_reparse (t : Ty) (x : t.Denote) (safe : t.cStrSafe x) :
    fromJson t (toJson t x) = .ok x ∧
      fromJson t (toJson t x).reparse =
        if t.wireSafe x then .ok x else .error (mismatch "期望 uint64 类型") := by
  induction t with
  | int => simp [toJson, fromJson, Value.reparse, Ty.wireSafe]
  | int64 => simp [toJson, fromJson, Value.reparse, Ty.wireSafe]
  | uint64 =>
      by_cases small : UInt64.toNat x < 9223372036854775808
      · simp [toJson, fromJson, Value.reparse, Ty.wireSafe, small, not_le.mpr small]
      · simp [toJson, fromJson, Value.reparse, Ty.wireSafe, small, le_of_not_lt small]
  | bool => simp [toJson, fromJson, Value.reparse, Ty.wireSafe]
  | string =>
      have : nul ∉ String.data x := by simpa [Ty.cStrSafe] using safe
      simp [toJson, fromJson, Value.reparse, Ty.wireSafe, fromCStr_of_nul_not_mem this]
  | vector elem ih =>
      have each : ∀ y ∈ x, elem.cStrSafe y := by
        simpa [Ty.cStrSafe] using safe
      constructor
      · simpa [toJson, fromJson] using mapM_map_of_each (fromJson elem) (toJson elem)
          (fun _ => true) (mismatch "期望 uint64 类型") x fun y hy => by simp [(ih y (each y hy)).1]
      · simpa [toJson, fromJson, Value.reparse, Value.reparseElems_eq, Ty.wireSafe] using
          mapM_map_of_each (fromJson elem) (fun y => (toJson elem y).reparse) (elem.wireSafe)
            (mismatch "期望 uint64 类型") x fun y hy => (ih y (each y hy)).2
  | map elem ih =>
      have each : ∀ p ∈ x.entries, elem.cStrSafe p.2 := by simpa [Ty.cStrSafe] using safe
      have written : toJson (.map elem) x =
          .object (x.entries.map fun p => (p.1, toJson elem p.2)) := by
        simp [toJson, foldl_set_of_sorted _ [] x.entries (fun _ _ => rfl) x.sorted]
      have memory := foldlM_insert_of_each (fromJson elem) (toJson elem) (fun _ => true)
        (mismatch "期望 uint64 类型") StdMap.empty x.entries x.sorted
        fun p hp => by simp [(ih p.2 (each p hp)).1]
      have wire := foldlM_insert_of_each (fromJson elem) (fun y => (toJson elem y).reparse)
        (elem.wireSafe) (mismatch "期望 uint64 类型") StdMap.empty x.entries x.sorted
        fun p hp => (ih p.2 (each p hp)).2
      rw [written]
      constructor
      · simpa [fromJson] using memory
      · simpa [fromJson, Value.reparse, Value.reparseMembers_eq, Ty.wireSafe] using wire

/-- The converters invert each other on every value whose strings hold no `U+0000`. Across a
text layer that carries the encoded value, they do so exactly when every `uint64_t` in it is
above `INT64_MAX`: a smaller one comes back as `int64` and is refused. -/
theorem fromJson_toJson_of_cStrSafe (t : Ty) (x : t.Denote) (safe : t.cStrSafe x)
    (wire : JsonWire) (carried : wire.Carries (toJson t x)) :
    fromJson t (toJson t x) = .ok x ∧
      ∃ v, wire.parse (wire.serialize (toJson t x)) = .ok v ∧
        fromJson t v = if t.wireSafe x then .ok x else .error (mismatch "期望 uint64 类型") :=
  have roundTrip := fromJson_toJson_and_reparse t x safe
  ⟨roundTrip.1, _, carried, roundTrip.2⟩

theorem fromJson_toJson_strings :
    let wire : JsonWire :=
      ⟨fun _ => .ok (.array [.string "a", .string ""]), fun _ => "[\"a\",\"\"]"⟩
    Ty.cStrSafe (.vector .string) ["a", ""] = true ∧
      wire.Carries (toJson (.vector .string) ["a", ""]) ∧
      (fromJson (.vector .string) (toJson (.vector .string) ["a", ""]) = .ok ["a", ""] ∧
        ∃ v, wire.parse (wire.serialize (toJson (.vector .string) ["a", ""])) = .ok v ∧
          fromJson (.vector .string) v =
            if Ty.wireSafe (.vector .string) ["a", ""] then .ok ["a", ""]
            else .error (mismatch "期望 uint64 类型")) := by
  intro wire
  exact ⟨rfl, rfl, fromJson_toJson_of_cStrSafe (.vector .string) ["a", ""] rfl wire rfl⟩

/-- The `uint64_t` value 5 does not survive the JSON text: `serialize` writes the literal `5`,
`parse` reads it back as an `int64`, and `json_converter<uint64_t>` refuses it. -/
theorem fromJson_reparse_small_uint64 :
    let five : Int64 := ⟨5, by decide, by decide⟩
    let wire : JsonWire :=
      ⟨fun text => if text = "5" then .ok (.int64 five) else .error "syntax error", fun _ => "5"⟩
    wire.Carries (toJson .uint64 (5 : UInt64)) ∧
      wire.parse (wire.serialize (toJson .uint64 (5 : UInt64))) = .ok (.int64 five) ∧
      fromJson .uint64 (.int64 five) = .error (mismatch "期望 uint64 类型") :=
  ⟨rfl, rfl, rfl⟩

end Converter

/-- A `json_converter<T>` specialization of the library, as `extract_args` and the method
wrappers use it: the C++ values of `T`, both directions, and the fact that `from_json` throws
only `InvalidParams`. -/
structure JsonConverter where
  Denote : Type
  fromJson : Value → Except Error Denote
  toJson : Denote → Value
  fromJson_error : ∀ {v : Value} {e : Error}, fromJson v = .error e → e.code = .invalidParams

/-- The converter of a modelled type. -/
def Ty.converter (t : Ty) : JsonConverter :=
  ⟨t.Denote, Converter.fromJson t, Converter.toJson t, Converter.fromJson_error_code t⟩

end JsonRpc
