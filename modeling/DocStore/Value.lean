/-
  Values and documents.

  A value is what a field of a document can hold: the scalars, arrays of values, and documents,
  whose fields keep the order in which they were written.  Integers come in two widths and stay in
  the width they were given.  Doubles and decimals are held by their bits, so `=` on values is
  identity to the last bit; the ways in which queries and callers compare values are functions of
  their own.

  Documents are lists of fields.  Every operation of `Entries` on them keeps the keys distinct,
  and the documents that callers hand in have distinct keys; `Value.Distinct` says so at every
  depth.
-/
import DocStore.Entries
import DocStore.Number.Decimal
import DocStore.Number.Double
import DocStore.Text.NulFree

namespace DocStore

/-- An object identifier: twelve bytes, read as one number, most significant byte first. -/
abbrev ObjectId := BitVec 96

inductive Value where
  | null
  | bool (b : Bool)
  | int32 (n : Int32)
  | int64 (n : Int64)
  | double (x : Double)
  /-- Milliseconds since the beginning of 1970. -/
  | dateTime (milliseconds : Int64)
  | string (s : String)
  | array (items : List Value)
  | document (fields : List (String × Value))
  | objectId (id : ObjectId)
  | undefined
  | minKey
  | maxKey
  | regex (pattern options : Text.NulFree)
  | timestamp (time increment : UInt32)
  | binary (subtype : UInt8) (bytes : List UInt8)
  | symbol (s : String)
  | code (s : String)
  /-- Code with the values of the names that it uses. -/
  | codeWithScope (s : String) (scope : List (String × Value))
  | decimal (x : Decimal)
  /-- A reference to a document in a collection. -/
  | pointer (collection : String) (id : ObjectId)
deriving Inhabited

/-- A document: fields in the order in which they were first written. -/
abbrev Document := Entries Value

namespace Value

/-- The fields, if the value is a document. -/
def asDocument? : Value → Option Document
  | document fields => some fields
  | _ => none

/-- The text, if the value is a string. -/
def asString? : Value → Option String
  | string s => some s
  | _ => none

mutual

/-- No document inside the value repeats a key. -/
def Distinct : Value → Prop
  | array items => DistinctItems items
  | document fields => (fields.map Prod.fst).Nodup ∧ DistinctFields fields
  | codeWithScope _ scope => (scope.map Prod.fst).Nodup ∧ DistinctFields scope
  | _ => True

/-- No document inside the items repeats a key. -/
def DistinctItems : List Value → Prop
  | [] => True
  | item :: rest => Distinct item ∧ DistinctItems rest

/-- No document inside what the fields hold repeats a key. -/
def DistinctFields : List (String × Value) → Prop
  | [] => True
  | (_, value) :: rest => Distinct value ∧ DistinctFields rest

end

end Value

end DocStore
