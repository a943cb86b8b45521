import Mathlib.Data.String.Basic

namespace JsonRpc

/-- A `std::map<std::string, α>`: its entries in ascending key order, which also makes the
keys distinct. -/
structure StdMap (α : Type) where
  entries : List (String × α)
  sorted : entries.Pairwise (fun a b => a.1 < b.1)

namespace StdMap

variable {α : Type}

@[ext] theorem ext {m n : StdMap α} (h : m.entries = n.entries) : m = n := by
  cases m; cases n; cases h; rfl

/-- An empty map. -/
def empty : StdMap α := ⟨[], .nil⟩

/-- `m.find(key)`: the value under `key`, if any. -/
def find? (m : StdMap α) (key : String) : Option α :=
  (m.entries.find? (·.1 = key)).map Prod.snd

/-- The entry list after `m[key] = v`: the entry is put at its place in key order, or
replaces the entry with the same key. -/
def insertEntry (key : String) (v : α) : List (String × α) → List (String × α)
  | [] => [(key, v)]
  | (k, w) :: rest =>
      if key < k then (key, v) :: (k, w) :: rest
      else if key = k then (key, v) :: rest
      else (k, w) :: insertEntry key v rest

theorem mem_insertEntry {key : String} {v : α} {p : String × α} :
    ∀ {l : List (String × α)}, p ∈ insertEntry key v l → p = (key, v) ∨ p ∈ l
  | [], h => by simpa [insertEntry] using h
  | (k, w) :: rest, h => by
      unfold insertEntry at h
      split at h
      · simpa using h
      · split at h
        · simp only [List.mem_cons] at h
          rcases h with h | h
          · exact .inl h
          · exact .inr (List.mem_cons_of_mem _ h)
        · simp only [List.mem_cons] at h
          rcases h with h | h
          · exact .inr (h ▸ List.mem_cons_self _ _)
          · rcases mem_insertEntry h with h | h
            · exact .inl h
            · exact .inr (List.mem_cons_of_mem _ h)

theorem insertEntry_sorted (key : String) (v : α) :
    ∀ {l : List (String × α)}, l.Pairwise (fun a b => a.1 < b.1) →
      (insertEntry key v l).Pairwise (fun a b => a.1 < b.1)
  | [], _ => List.pairwise_singleton _ _
  | (k, w) :: rest, h => by
      rw [List.pairwise_cons] at h
      unfold insertEntry
      split
      · rename_i lt
        refine List.Pairwise.cons (fun p member => ?_) (List.Pairwise.cons h.1 h.2)
        rcases List.mem_cons.mp member with rfl | member
        · exact lt
        · exact lt_trans lt (h.1 p member)
      · split
        · rename_i _ eq
          subst eq
          exact List.Pairwise.cons h.1 h.2
        · rename_i notLt notEq
          have gt : k < key := lt_of_le_of_ne (not_lt.mp notLt) (Ne.symm notEq)
          refine List.Pairwise.cons (fun p member => ?_) (insertEntry_sorted key v h.2)
          rcases mem_insertEntry member with rfl | member
          · exact gt
          · exact h.1 p member

/-- A key above every key of the map goes at the end. -/
theorem insertEntry_of_lt (key : String) (v : α) :
    ∀ {l : List (String × α)}, (∀ p ∈ l, p.1 < key) → insertEntry key v l = l ++ [(key, v)]
  | [], _ => rfl
  | (k, w) :: rest, below => by
      have lt : k < key := below (k, w) (List.mem_cons_self _ _)
      have tail := insertEntry_of_lt key v fun p h => below p (List.mem_cons_of_mem _ h)
      simp [insertEntry, not_lt.mpr lt.le, ne_of_gt lt, tail]

/-- `m[key] = v`. -/
def insert (m : StdMap α) (key : String) (v : α) : StdMap α :=
  ⟨insertEntry key v m.entries, insertEntry_sorted key v m.sorted⟩

theorem find?_insertEntry (key key' : String) (v : α) :
    ∀ l : List (String × α), ((insertEntry key v l).find? (·.1 = key')).map Prod.snd =
      if key' = key then some v else (l.find? (·.1 = key')).map Prod.snd
  | [] => by by_cases h : key' = key <;> simp [insertEntry, h, eq_comm]
  | (k, w) :: rest => by
      unfold insertEntry
      split
      · by_cases h : key' = key <;> simp [h, eq_comm]
      · split
        · rename_i _ eq
          subst eq
          by_cases h : key' = key <;> simp [h, eq_comm]
        · rename_i _ notEq
          by_cases h : k = key'
          · subst h
            simp [Ne.symm notEq]
          · simp [h, find?_insertEntry key key' v rest]

/-- Last write wins: after `m[key] = v`, `key` finds `v`, and every other key finds what it
found before. -/
theorem find?_insert (m : StdMap α) (key key' : String) (v : α) :
    (m.insert key v).find? key' = if key' = key then some v else m.find? key' :=
  find?_insertEntry key key' v m.entries

end StdMap

end JsonRpc
