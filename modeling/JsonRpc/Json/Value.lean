import Mathlib.Data.String.Basic

namespace JsonRpc

/-! The values `boost::json` stores, and the fixed-width integers of C++ that the library
converts to and from them. -/

/-- A C++ `int`: a 32-bit two's complement integer. -/
structure Int32 where
  toInt : Int
  min_le : -2147483648 ≤ toInt
  lt_max : toInt < 2147483648
  deriving DecidableEq, Repr

/-- A C++ `std::int64_t`. -/
structure Int64 where
  toInt : Int
  min_le : -9223372036854775808 ≤ toInt
  lt_max : toInt < 9223372036854775808
  deriving DecidableEq, Repr

/-- An IEEE-754 binary64 value, kept as its bit pattern: no modelled code computes with it. -/
structure Double where
  bits : UInt64
  deriving DecidableEq, Repr

namespace Int32

/-- The implicit widening of an `int` to `std::int64_t`. -/
def toInt64 (x : Int32) : Int64 :=
  ⟨x.toInt, by have := x.min_le; omega, by have := x.lt_max; omega⟩

@[simp] theorem toInt_toInt64 (x : Int32) : x.toInt64.toInt = x.toInt := rfl

@[ext] theorem ext {x y : Int32} (h : x.toInt = y.toInt) : x = y := by
  cases x; cases y; cases h; rfl

end Int32

namespace Int64

@[ext] theorem ext {x y : Int64} (h : x.toInt = y.toInt) : x = y := by
  cases x; cases y; cases h; rfl

/-- `static_cast<int>` of a `std::int64_t`: the value modulo `2^32`, read as two's
complement. -/
def toInt32 (x : Int64) : Int32 :=
  ⟨x.toInt.bmod 4294967296,
    by have := Int.le_bmod (x := x.toInt) (m := 4294967296) (by decide); omega,
    by have := Int.bmod_lt (x := x.toInt) (m := 4294967296) (by decide); omega⟩

@[simp] theorem toInt_toInt32 (x : Int64) : x.toInt32.toInt = x.toInt.bmod 4294967296 := rfl

theorem toInt32_toInt_of_fits (x : Int64) (low : -2147483648 ≤ x.toInt)
    (high : x.toInt < 2147483648) : x.toInt32.toInt = x.toInt := by
  simp only [toInt_toInt32, Int.bmod, Int.emod_emod_of_dvd]
  split <;> omega

/-- `static_cast<int>` keeps the value exactly when it fits in an `int`. -/
theorem toInt32_toInt_eq_iff (x : Int64) :
    x.toInt32.toInt = x.toInt ↔ -2147483648 ≤ x.toInt ∧ x.toInt < 2147483648 :=
  ⟨fun same => same ▸ ⟨x.toInt32.min_le, x.toInt32.lt_max⟩,
    fun fits => x.toInt32_toInt_of_fits fits.1 fits.2⟩

end Int64

/-- Narrowing after widening gives the `int` back. -/
@[simp] theorem Int32.toInt64_toInt32 (x : Int32) : x.toInt64.toInt32 = x :=
  Int32.ext (x.toInt64.toInt32_toInt_of_fits x.min_le x.lt_max)

/-- A `boost::json::value`, one constructor per `boost::json::kind`. An object is the list
of its members in insertion order. -/
inductive Value where
  | null
  | bool (b : Bool)
  | int64 (i : Int64)
  | uint64 (n : UInt64)
  | double (d : Double)
  | string (s : String)
  | array (elems : List Value)
  | object (members : List (String × Value))
  deriving Repr

namespace Value

mutual

/-- Structural equality of values, decided member by member. -/
def decEq (a b : Value) : Decidable (a = b) := by
  cases a <;> cases b
  all_goals first
    | exact isTrue rfl
    | exact isFalse (fun h => Value.noConfusion h)
    | skip
  case bool.bool x y => exact decidable_of_iff (x = y) (by simp)
  case int64.int64 x y => exact decidable_of_iff (x = y) (by simp)
  case uint64.uint64 x y => exact decidable_of_iff (x = y) (by simp)
  case double.double x y => exact decidable_of_iff (x = y) (by simp)
  case string.string x y => exact decidable_of_iff (x = y) (by simp)
  case array.array xs ys => exact @decidable_of_iff _ _ (by simp) (decEqElems xs ys)
  case object.object xs ys => exact @decidable_of_iff _ _ (by simp) (decEqMembers xs ys)

def decEqElems : (xs ys : List Value) → Decidable (xs = ys)
  | [], [] => isTrue rfl
  | [], _ :: _ => isFalse (by rintro ⟨⟩)
  | _ :: _, [] => isFalse (by rintro ⟨⟩)
  | x :: xs, y :: ys =>
      match decEq x y, decEqElems xs ys with
      | isTrue head, isTrue tail => isTrue (head ▸ tail ▸ rfl)
      | isFalse head, _ => isFalse (by rintro ⟨⟩; exact head rfl)
      | _, isFalse tail => isFalse (by rintro ⟨⟩; exact tail rfl)

def decEqMembers : (xs ys : List (String × Value)) → Decidable (xs = ys)
  | [], [] => isTrue rfl
  | [], _ :: _ => isFalse (by rintro ⟨⟩)
  | _ :: _, [] => isFalse (by rintro ⟨⟩)
  | (k, x) :: xs, (l, y) :: ys =>
      if key : k = l then
        match decEq x y, decEqMembers xs ys with
        | isTrue head, isTrue tail => isTrue (key ▸ head ▸ tail ▸ rfl)
        | isFalse head, _ => isFalse (by rintro ⟨⟩; exact head rfl)
        | _, isFalse tail => isFalse (by rintro ⟨⟩; exact tail rfl)
      else isFalse (by rintro ⟨⟩; exact key rfl)

end

instance : DecidableEq Value := decEq

/-! The kind tests of `boost::json::value`. -/

def isNull : Value → Bool
  | .null => true
  | _ => false

def isInt64 : Value → Bool
  | .int64 _ => true
  | _ => false

def isString : Value → Bool
  | .string _ => true
  | _ => false

def isArray : Value → Bool
  | .array _ => true
  | _ => false

def isObject : Value → Bool
  | .object _ => true
  | _ => false

/-- `is_number`: an `int64`, a `uint64` or a `double`. -/
def isNumber : Value → Bool
  | .int64 _ | .uint64 _ | .double _ => true
  | _ => false

@[simp] theorem isNull_null : Value.null.isNull = true := rfl

theorem isNull_iff (v : Value) : v.isNull = true ↔ v = .null := by
  cases v <;> simp [isNull]

end Value

/-- A `boost::json::object`: its members in insertion order. -/
abbrev Object := List (String × Value)

namespace Object

/-- `obj.at(key)` guarded by `obj.contains(key)`: the first member named `key`. -/
def at? : Object → String → Option Value
  | [], _ => none
  | (k, v) :: rest, key => if key = k then some v else at? rest key

/-- `obj[key] = v`: overwrites the member named `key`, or appends one. -/
def set : Object → String → Value → Object
  | [], key, v => [(key, v)]
  | (k, w) :: rest, key, v => if k = key then (key, v) :: rest else (k, w) :: set rest key v

@[simp] theorem at?_nil (key : String) : at? [] key = none := rfl

theorem at?_cons (k key : String) (v : Value) (rest : Object) :
    at? ((k, v) :: rest) key = if key = k then some v else at? rest key := rfl

theorem at?_append (first second : Object) (key : String) :
    at? (first ++ second) key = (at? first key).or (at? second key) := by
  induction first with
  | nil => rfl
  | cons member rest ih =>
      obtain ⟨k, v⟩ := member
      simp only [List.cons_append, at?_cons, ih]
      split <;> rfl

/-- Setting a key the object does not hold appends the member. -/
theorem set_of_at?_eq_none {obj : Object} {key : String} (v : Value)
    (absent : obj.at? key = none) : obj.set key v = obj ++ [(key, v)] := by
  induction obj with
  | nil => rfl
  | cons member rest ih =>
      obtain ⟨k, w⟩ := member
      rw [at?_cons] at absent
      by_cases h : key = k
      · simp [h] at absent
      · simp only [set, Ne.symm h, if_false, ih (by simpa [h] using absent),
          List.cons_append]

end Object

/-- The character `U+0000`, which ends a C string. -/
def nul : Char := Char.ofNat 0

/-- `std::string(s.c_str())`: the copy stops at the first `U+0000`. -/
def fromCStr (s : String) : String :=
  ⟨s.data.takeWhile (· ≠ nul)⟩

theorem fromCStr_of_nul_not_mem {s : String} (h : nul ∉ s.data) : fromCStr s = s := by
  obtain ⟨data⟩ := s
  exact congrArg String.mk (List.takeWhile_eq_self_iff.mpr
    (fun c member => decide_eq_true (fun eq => h (eq ▸ member))))

/-! Exceptions are modelled in `Except`; these rewrite its operations to constructors. -/

@[simp] theorem except_pure (a : α) : (pure a : Except ε α) = .ok a := rfl

@[simp] theorem except_throw (e : ε) : (throw e : Except ε α) = .error e := rfl

@[simp] theorem except_ok_bind (a : α) (f : α → Except ε β) : (Except.ok a >>= f) = f a := rfl

@[simp] theorem except_error_bind (e : ε) (f : α → Except ε β) :
    (Except.error e >>= f) = .error e := rfl

/-- A bind fails when its first step fails, or when that step succeeds and the rest fails. -/
theorem except_bind_eq_error {m : Except ε α} {f : α → Except ε β} {e : ε} :
    (m >>= f) = .error e ↔ m = .error e ∨ ∃ a, m = .ok a ∧ f a = .error e := by
  cases m <;> simp

/-- The two functions of `boost::json` the library calls on the wire: `parse`, which throws
an exception with a message on malformed text, and `serialize`. -/
structure JsonWire where
  parse : String → Except String Value
  serialize : Value → String

end JsonRpc
