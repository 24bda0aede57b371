/-
  Documents as JSON and JSON as documents.

  `Document.toJson` always succeeds: kinds that JSON lacks become tagged objects, doubles that are
  not finite become null.  `Document.ofJson` takes objects only, picks a width for each integer
  and reads tagged objects back; a field behind a tag is an error, and so is a tagged object in
  place of the whole document.  Integers that are not negative are 32 bits wide where they fit,
  negative ones are always 64 bits wide.
-/
import DocStore.Extended.Interpret
import DocStore.Json

namespace DocStore

namespace Value

/-- A tagged object. -/
def tagged (tag : String) (payload : Json) : Json :=
  .object [(tag, payload)]

mutual

/-- A value as JSON. -/
def toJson : Value → Json
  | null => .null
  | bool b => .bool b
  | int32 n => .integer n.toInt
  | int64 n => .integer n.toInt
  | double x => if x.isFinite then .double x else .null
  | dateTime ms => tagged "$date" (tagged "$numberLong" (.string (toString ms.toInt)))
  | string s => .string s
  | array items => .array (toJsonItems items)
  | document fields => .object (toJsonFields fields)
  | objectId id => tagged "$oid" (.string (Text.hex 24 id.toNat))
  | undefined => tagged "$undefined" (.bool true)
  | minKey => tagged "$minKey" (.integer 1)
  | maxKey => tagged "$maxKey" (.integer 1)
  | regex pattern options =>
      tagged "$regularExpression"
        (.ofMembers [("pattern", .string pattern.text), ("options", .string options.text)])
  | timestamp time increment =>
      tagged "$timestamp"
        (.ofMembers [("t", .integer time.toNat), ("i", .integer increment.toNat)])
  | binary subtype bytes =>
      if subtype = 0 then .array (bytes.map fun b => .integer b.toNat)
      else tagged "$binary"
        (.ofMembers [("base64", .string (Text.base64 bytes)),
          ("subType", .string (Text.hex 2 subtype.toNat))])
  | symbol s => tagged "$symbol" (.string s)
  | code s => tagged "$code" (.string s)
  | codeWithScope s scope =>
      .ofMembers [("$code", .string s), ("$scope", .object (toJsonFields scope))]
  | decimal x => tagged "$numberDecimalBytes" (.array (x.bytes.map fun b => .integer b.toNat))
  | pointer collection id =>
      tagged "$dbPointer"
        (.ofMembers [("$ref", .string collection),
          ("$id", tagged "$oid" (.string (Text.hex 24 id.toNat)))])

def toJsonItems : List Value → List Json
  | [] => []
  | item :: rest => toJson item :: toJsonItems rest

/-- The members of an object in key order. -/
def toJsonFields : List (String × Value) → Entries Json
  | [] => []
  | (key, value) :: rest => (toJsonFields rest).place key (toJson value)

end

/-- An integer in the width that JSON integers are given. -/
def ofInteger (n : Int) : Except DecodeError Value :=
  if 0 ≤ n then
    if n ≤ Int32.maxValue.toInt then .ok (.int32 (Int32.ofInt n))
    else if n ≤ Int64.maxValue.toInt then .ok (.int64 (Int64.ofInt n))
    else .error (.integerTooGreat n)
  else .ok (.int64 (Int64.ofInt n))

mutual

/-- JSON as a value, objects as documents whatever their keys. -/
def ofPlain : Json → Except DecodeError Value
  | .null => return .null
  | .bool b => return .bool b
  | .integer n => ofInteger n
  | .double x => return .double x
  | .string s => return .string s
  | .array items => return .array (← ofPlainItems items)
  | .object members => return .document (← ofPlainMembers members)

def ofPlainItems : List Json → Except DecodeError (List Value)
  | [] => return []
  | item :: rest => return (← ofPlain item) :: (← ofPlainItems rest)

def ofPlainMembers : List (String × Json) → Except DecodeError (List (String × Value))
  | [] => return []
  | (key, value) :: rest => return (key, ← ofPlain value) :: (← ofPlainMembers rest)

end

end Value

namespace Document

/-- A document as a JSON object. -/
def toJson (doc : Document) : Json :=
  Value.toJson (.document doc)

/-- The document that a JSON object stands for. -/
def ofObject (members : List (String × Json)) : Except DecodeError Document := do
  match ← Extended.interpretFields .refused (← Value.ofPlainMembers members) with
  | .ordinary fields => return fields
  | .tagged _ => throw .notADocument

/-- A document from JSON. -/
def ofJson : Json → Except StoreError Document
  | .object members => (ofObject members).mapError StoreError.ofDecode
  | _ => .error (.invalidDocument "Expected a JSON object")

end Document

end DocStore
