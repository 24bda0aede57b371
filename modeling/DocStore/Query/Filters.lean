/-
  What a find asks for beside its predicate, and how a raw query carries it.

  A raw query may hold `$limit`, `$skip`, `$sort`, `$select` and `q` among its fields.  `ofRaw`
  takes them out and leaves the rest as the query.  A filter that cannot be read counts as absent.
-/
import DocStore.Document
import DocStore.Text.Whole

namespace DocStore

/-- The greatest count: limits, skips and totals are unsigned and sixty-four bits wide. -/
def maxCount : Nat := 0xFFFFFFFFFFFFFFFF

inductive Direction where
  | ascending
  | descending
deriving DecidableEq, Inhabited, Repr

/-- An order of results: by the values at a path. -/
structure SortOrder where
  path : String
  direction : Direction
deriving DecidableEq, Repr

structure Filters where
  /-- The number of documents asked for; the settings may allow fewer. -/
  limit : Option Nat := none
  /-- The number of matches to pass over. -/
  skip : Option Nat := none
  /-- The order of the page. -/
  sort : Option SortOrder := none
  /-- The fields to return. -/
  select : Option (List String) := none
  /-- The name of a stored view that replaces the query. -/
  view : Option String := none
deriving DecidableEq, Inhabited, Repr

namespace Filters

/-- A count: a number that is not negative, its decimals cut off, or text of an unsigned number. -/
def count? : Value → Option Nat
  | .int32 n => if 0 ≤ n.toInt then some n.toInt.toNat else none
  | .int64 n => if 0 ≤ n.toInt then some n.toInt.toNat else none
  | .double x => x.toCount? maxCount
  | .string s => Text.unsigned? maxCount s
  | _ => none

/-- Whether a value asks for descending order: a negative number, `-1` or `desc` in either case. -/
def descends : Value → Bool
  | .int32 n => n.toInt < 0
  | .int64 n => n.toInt < 0
  | .double x => x.compare? (.ofInt 0) == some .lt
  | .string s => s == "-1" || s.toList.map Char.toLower == "desc".toList
  | _ => false

/-- An order, given as a document whose first field names the path and the direction. -/
def sort? (value : Value) : Option SortOrder :=
  match value with
  | .document ((path, direction) :: _) =>
      some ⟨path, if descends direction then .descending else .ascending⟩
  | _ => none

/-- A list of field names, of which other values are passed over, or a single name. -/
def select? : Value → Option (List String)
  | .array items => some (items.filterMap Value.asString?)
  | .string name => some [name]
  | _ => none

/-- The name of a view, unless it is empty. -/
def view? : Value → Option String
  | .string name => if name.isEmpty then none else some name
  | _ => none

/-- The keys of a raw query that hold filters. -/
def reservedKeys : List String := ["$limit", "$skip", "$sort", "$select", "q"]

/-- The filters that a raw query carries. -/
def read (raw : Document) : Filters where
  limit := (raw.get? "$limit").bind count?
  skip := (raw.get? "$skip").bind count?
  sort := (raw.get? "$sort").bind sort?
  select := (raw.get? "$select").bind select?
  view := (raw.get? "q").bind view?

/-- Splits a raw query into the query proper and its filters. -/
def ofRaw (raw : Document) : Document × Filters :=
  (reservedKeys.foldl (fun doc key => doc.erase key) raw, read raw)

end Filters

end DocStore
