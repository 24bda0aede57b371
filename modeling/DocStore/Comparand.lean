/-
  What a comparison sees of a value.

  Comparisons look through representation: the two widths of integers are one kind, documents are
  maps without an order, and every kind that has no comparison of its own counts as null.  A
  `Comparand` is a value with exactly that forgotten.  Maps are kept as entries in key order, so
  that two documents with the same fields have the same comparand whatever their order.

  Integers compare exactly with each other; against a double an integer is first rounded to a
  double.  Equality is told of all kinds, order only of booleans, numbers, dates and strings of
  one kind.
-/
import DocStore.Document

namespace DocStore

inductive Comparand where
  | null
  | bool (b : Bool)
  | integer (n : Int)
  | double (x : Double)
  | dateTime (milliseconds : Int)
  | string (s : String)
  | array (items : List Comparand)
  | map (entries : List (String × Comparand))
deriving Inhabited

mutual

/-- What a comparison sees of a value. -/
def Value.comparand : Value → Comparand
  | .null => .null
  | .bool b => .bool b
  | .int32 n => .integer n.toInt
  | .int64 n => .integer n.toInt
  | .double x => .double x
  | .dateTime ms => .dateTime ms.toInt
  | .string s => .string s
  | .array items => .array (Value.comparandItems items)
  | .document fields => .map (Value.comparandFields fields)
  | _ => .null

def Value.comparandItems : List Value → List Comparand
  | [] => []
  | item :: rest => item.comparand :: Value.comparandItems rest

/-- The entries of a document in key order; of fields with one key the first counts. -/
def Value.comparandFields : List (String × Value) → Entries Comparand
  | [] => []
  | (key, value) :: rest => (Value.comparandFields rest).place key value.comparand

end

namespace Comparand

mutual

/-- Whether two comparands are equal. -/
def equal : Comparand → Comparand → Bool
  | null, null => true
  | bool a, bool b => a == b
  | integer a, integer b => a == b
  | double a, double b => a.equal b
  | integer a, double b => (Double.ofInt a).equal b
  | double a, integer b => a.equal (Double.ofInt b)
  | dateTime a, dateTime b => a == b
  | string a, string b => a == b
  | array a, array b => equalItems a b
  | map a, map b => equalEntries a b
  | _, _ => false

def equalItems : List Comparand → List Comparand → Bool
  | [], [] => true
  | a :: as, b :: bs => equal a b && equalItems as bs
  | _, _ => false

def equalEntries : List (String × Comparand) → List (String × Comparand) → Bool
  | [], [] => true
  | (k, a) :: as, (l, b) :: bs => k == l && equal a b && equalEntries as bs
  | _, _ => false

end

/-- The order of two comparands, where there is one. -/
def compare? : Comparand → Comparand → Option Ordering
  | bool a, bool b => some (compare a b)
  | integer a, integer b => some (compare a b)
  | double a, double b => a.compare? b
  | integer a, double b => (Double.ofInt a).compare? b
  | double a, integer b => a.compare? (Double.ofInt b)
  | dateTime a, dateTime b => some (compare a b)
  | string a, string b => some (compare a b)
  | _, _ => none

end Comparand

/-- Whether two values are equal to a query. -/
def Value.equals (x y : Value) : Bool :=
  x.comparand.equal y.comparand

/-- The order of two optional values for sorting: what is missing counts as null, and values without
    an order count as equal. -/
def compareValues (x y : Option Value) : Ordering :=
  let left := (x.map Value.comparand).getD .null
  let right := (y.map Value.comparand).getD .null
  (left.compare? right).getD .eq

end DocStore
