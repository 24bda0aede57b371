/-
  Tags: the special keys under which documents stand for other values.

  A format without dates or object identifiers writes them as documents such as `$oid` with
  twenty-four hexadecimal digits.  Here are the tags, what a text under each of them stands for,
  and the values that are put together from two parts.  What reading and writing share is here;
  in which forms a payload is accepted is for `Extended.Interpret` and `Extended.Condense` to say.
-/
import DocStore.Number.Reading
import DocStore.Text.Base64
import DocStore.Text.Uuid
import DocStore.Value
import DocStore.Value.Calendar.Reading

namespace DocStore.Extended

/-- The keys that turn a document into another value. -/
inductive Tag where
  | oid
  | symbol
  | numberInt
  | numberLong
  | numberDouble
  | numberDecimal
  | numberDecimalBytes
  | binary
  | uuid
  | code
  | scope
  | timestamp
  | regularExpression
  | pointer
  | date
  | minKey
  | maxKey
  | undefined
deriving DecidableEq, Inhabited, Repr

/-- The tag that a key names. -/
def Tag.ofKey? : String → Option Tag
  | "$oid" => some .oid
  | "$symbol" => some .symbol
  | "$numberInt" => some .numberInt
  | "$numberLong" => some .numberLong
  | "$numberDouble" => some .numberDouble
  | "$numberDecimal" => some .numberDecimal
  | "$numberDecimalBytes" => some .numberDecimalBytes
  | "$binary" => some .binary
  | "$uuid" => some .uuid
  | "$code" => some .code
  | "$scope" => some .scope
  | "$timestamp" => some .timestamp
  | "$regularExpression" => some .regularExpression
  | "$dbPointer" => some .pointer
  | "$date" => some .date
  | "$minKey" => some .minKey
  | "$maxKey" => some .maxKey
  | "$undefined" => some .undefined
  | _ => none

/-- The integer that a value holds in either width. -/
def integer? : Value → Option Int
  | .int32 n => some n.toInt
  | .int64 n => some n.toInt
  | _ => none

/-- A 32-bit unsigned integer. -/
def unsigned32? (value : Value) : Option UInt32 :=
  (integer? value).bind fun n =>
    if 0 ≤ n ∧ n < UInt32.size then some (UInt32.ofNat n.toNat) else none

/-- A 32-bit integer from decimal text. -/
def int? (text : String) : Option Int32 :=
  (Text.signed? Int32.minValue.toInt Int32.maxValue.toInt text).map Int32.ofInt

/-- A 64-bit integer from decimal text. -/
def long? (text : String) : Option Int64 :=
  (Text.signed? Int64.minValue.toInt Int64.maxValue.toInt text).map Int64.ofInt

/-- An object identifier from hexadecimal digits. -/
def objectIdOfHex? (text : String) : Option ObjectId :=
  (Text.hex? 24 text).map (BitVec.ofNat 96)

/-- The value that a tag and a text under it stand for; none for a tag that takes no text. -/
def Tag.ofText? : Tag → String → Option Value
  | .oid, s => (objectIdOfHex? s).map .objectId
  | .symbol, s => some (.symbol s)
  | .numberInt, s => (int? s).map .int32
  | .numberLong, s => (long? s).map .int64
  | .numberDouble, s => (Double.ofText? s).map .double
  | .numberDecimal, s => (Decimal.ofText? s).map .decimal
  | .code, s => some (.code s)
  | .date, s => (Calendar.ofText? s).map fun ms => .dateTime (Int64.ofInt ms)
  | _, _ => none

/-! ## Values of two parts -/

/-- A regular expression with its options in order, if neither part holds NUL. -/
def regex? (pattern options : String) : Option Value := do
  return .regex (← Text.NulFree.ofText? pattern) (← Text.NulFree.ofText? options).sorted

/-- Bytes from base 64, with their subtype from two hexadecimal digits. -/
def binary? (base64 subtype : String) : Option Value :=
  match Text.ofBase64? base64, Text.hexBytes? subtype.toList with
  | some bytes, some [kind] => some (.binary kind bytes)
  | _, _ => none

end DocStore.Extended
