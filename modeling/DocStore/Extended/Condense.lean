/-
  Writing values that are spelled as tagged documents as the values themselves.

  `condense` works from the inside out.  A document whose fields are exactly those of a tagged
  value becomes that value; any other document stays as it is, also one with a tag whose payload
  makes no sense.  Payloads have been condensed before, so an integer may stand under a tag either
  plainly or as a tagged document of its own.  The options of regular expressions are put in order.

  It knows fewer forms than reading: bytes do not count as text, arrays do not count as payloads,
  and two integers have to be of one width.
-/
import DocStore.Extended.Tag

namespace DocStore.Extended

/-- Bytes under their subtype: in base 64, or as generic bytes with the subtype as a number. -/
def condensedBinary? (fields : Document) : Option Value :=
  match fields.get? "base64", fields.get? "bytes", fields.get? "subType" with
  | some (.string base64), _, some (.string subtype) => binary? base64 subtype
  | some (.string _), _, _ => none
  | _, some (.binary subtype bytes), some (.int32 kind) =>
      if subtype = 0 ∧ 0 ≤ kind.toInt ∧ kind.toInt < UInt8.size then
        some (.binary (UInt8.ofNat kind.toInt.toNat) bytes)
      else none
  | _, _, _ => none

/-- A timestamp from two integers of one width.  Negative ones of 32 bits are read as the unsigned
    integers with the same bits. -/
def condensedTimestamp? (fields : Document) : Option Value :=
  match fields.get? "t", fields.get? "i" with
  | some (.int32 time), some (.int32 increment) =>
      some (.timestamp time.toUInt32 increment.toUInt32)
  | some (.int64 time), some (.int64 increment) => do
      return .timestamp (← unsigned32? (.int64 time)) (← unsigned32? (.int64 increment))
  | _, _ => none

def condensedRegex? (fields : Document) : Option Value :=
  match fields.get? "pattern", fields.get? "options" with
  | some (.string pattern), some (.string options) => regex? pattern options
  | _, _ => none

def condensedPointer? (fields : Document) : Option Value :=
  match fields.get? "$ref", fields.get? "$id" with
  | some (.string collection), some (.objectId id) => some (.pointer collection id)
  | _, _ => none

/-- The value that a tag and what stands under it, already condensed, stand for. -/
def condensed? : Tag → Value → Option Value
  | .binary, .document fields => condensedBinary? fields
  | .timestamp, .document fields => condensedTimestamp? fields
  | .regularExpression, .document fields => condensedRegex? fields
  | .pointer, .document fields => condensedPointer? fields
  | .numberDecimalBytes, .binary subtype bytes =>
      if subtype = 0 then (Decimal.ofBytes? bytes).map .decimal else none
  | .date, .int64 ms => some (.dateTime ms)
  | .minKey, value => if integer? value = some 1 then some .minKey else none
  | .maxKey, value => if integer? value = some 1 then some .maxKey else none
  | .undefined, .bool true => some .undefined
  | tag, .string s => tag.ofText? s
  | _, _ => none

/-- The value that fields, already condensed, stand for, if they are those of a tagged value. -/
def special? : List (String × Value) → Option Value
  | [(key, payload)] => (Tag.ofKey? key).bind fun tag => condensed? tag payload
  | [("$code", .string code), ("$scope", .document scope)] => some (.codeWithScope code scope)
  | [("$scope", .document scope), ("$code", .string code)] => some (.codeWithScope code scope)
  | _ => none

/-- The value of a document whose fields are already condensed. -/
def whole (fields : List (String × Value)) : Value :=
  (special? fields).getD (.document fields)

mutual

/-- Puts values in the place of the tagged documents that spell them, at every depth. -/
def condense : Value → Value
  | .array items => .array (condenseItems items)
  | .document fields => whole (condenseFields fields)
  | .codeWithScope code scope =>
      whole [("$code", .string code), ("$scope", whole (condenseFields scope))]
  | .regex pattern options => .regex pattern options.sorted
  | value => value

def condenseItems : List Value → List Value
  | [] => []
  | item :: rest => condense item :: condenseItems rest

def condenseFields : List (String × Value) → List (String × Value)
  | [] => []
  | (key, value) :: rest => (key, condense value) :: condenseFields rest

end

end DocStore.Extended
