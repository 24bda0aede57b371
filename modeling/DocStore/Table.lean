/-
  Tables: entries in key order, each key once.

  The order is part of the type, so two tables with the same entries are the same table and
  walking a table meets its keys in increasing order.
-/
import DocStore.Entries

namespace DocStore

/-- Entries in key order, each key once. -/
structure Table (α : Type) where
  entries : Entries α
  ordered : entries.Ordered

namespace Table

variable {α : Type}

/-- A table is its entries: two proofs that they are in order are the same. -/
theorem ext {s t : Table α} (h : s.entries = t.entries) : s = t := by
  cases s; cases t; cases h; rfl

def empty : Table α := ⟨[], Entries.Ordered.nil⟩

instance : Inhabited (Table α) := ⟨empty⟩

/-- What stands under a key. -/
def get? (table : Table α) (key : String) : Option α :=
  table.entries.get? key

/-- Whether something stands under a key. -/
def contains (table : Table α) (key : String) : Bool :=
  table.entries.contains key

/-- The keys in increasing order. -/
def keys (table : Table α) : List String :=
  table.entries.keys

/-- Puts a value under a key, in place of what stands there. -/
def insert (table : Table α) (key : String) (value : α) : Table α :=
  ⟨table.entries.place key value, table.ordered.place key value⟩

/-- Drops what stands under a key. -/
def erase (table : Table α) (key : String) : Table α :=
  ⟨table.entries.erase key, table.ordered.erase key⟩

/-! ## What a later look-up sees -/

@[simp] theorem get?_empty (key : String) : (empty : Table α).get? key = none := rfl

/-- What was filed last under a key is found. -/
@[simp] theorem get?_insert_self (table : Table α) (key : String) (value : α) :
    (table.insert key value).get? key = some value :=
  Entries.get?_place_self table.entries key value

/-- Filing touches one key. -/
theorem get?_insert_of_ne (table : Table α) {key other : String} (value : α) (h : key ≠ other) :
    (table.insert key value).get? other = table.get? other :=
  Entries.get?_place_of_ne table.entries value h

@[simp] theorem get?_erase_self (table : Table α) (key : String) :
    (table.erase key).get? key = none :=
  Entries.get?_erase_self table.entries key

/-- So does erasing. -/
theorem get?_erase_of_ne (table : Table α) {key other : String} (h : key ≠ other) :
    (table.erase key).get? other = table.get? other :=
  Entries.get?_erase_of_ne table.entries h

/-- Both in one, for any key. -/
theorem get?_insert (table : Table α) (key other : String) (value : α) :
    (table.insert key value).get? other = if other = key then some value else table.get? other := by
  by_cases h : other = key
  · rw [if_pos h, h, get?_insert_self]
  · rw [if_neg h, get?_insert_of_ne table value (Ne.symm h)]

/-- What is found after erasing, for any key. -/
theorem get?_erase (table : Table α) (key other : String) :
    (table.erase key).get? other = if other = key then none else table.get? other := by
  by_cases h : other = key
  · rw [if_pos h, h, get?_erase_self]
  · rw [if_neg h, get?_erase_of_ne table (Ne.symm h)]

/-! ## Tables as their look-ups -/

/-- Tables with the same look-ups are the same table. -/
theorem ext_get? {s t : Table α} (h : ∀ key, s.get? key = t.get? key) : s = t :=
  ext (Entries.Ordered.ext s.ordered t.ordered h)

/-- A value put in place of itself changes nothing, whatever stood there in between. -/
theorem insert_insert_self {table : Table α} {key : String} {value : α} (other : α)
    (h : table.get? key = some value) : (table.insert key other).insert key value = table := by
  refine ext_get? fun k => ?_
  by_cases hk : k = key
  · rw [get?_insert, if_pos hk, hk, h]
  · rw [get?_insert, if_neg hk, get?_insert, if_neg hk]

/-- Dropping what was put under a free key changes nothing. -/
theorem erase_insert_self {table : Table α} {key : String} (value : α)
    (h : table.get? key = none) : (table.insert key value).erase key = table := by
  refine ext_get? fun k => ?_
  by_cases hk : k = key
  · rw [get?_erase, if_pos hk, hk, h]
  · rw [get?_erase, if_neg hk, get?_insert, if_neg hk]

/-- As no key stands twice, the entries are exactly what is found. -/
theorem mem_entries_iff (table : Table α) (key : String) (value : α) :
    (key, value) ∈ table.entries ↔ table.get? key = some value :=
  ⟨Entries.Ordered.get?_of_mem table.ordered, Entries.mem_of_get?⟩

end Table

end DocStore
