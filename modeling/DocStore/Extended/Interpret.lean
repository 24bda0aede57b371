/-
  Reading tagged documents as the values that they stand for.

  The fields of a document are read in order, and the first that is a tag turns the whole document
  into the value that it stands for.  What stands before the tag is read and dropped.  What stands
  behind it is refused or passed over, as the place where the document stands decides, and so are
  surplus items of payloads that are arrays.  Code and its scope are one value of two tags, in
  either order, and right behind the first of them nothing else may stand.  All other keys are
  ordinary.

  Values that need no tag are read as they are, but for two: the options of regular expressions are
  put in order, and dates behind the last of the calendar become that last one.
-/
import DocStore.Error
import DocStore.Extended.Tag

namespace DocStore.Extended

/-- What happens to what is left over behind the parts that were asked for. -/
inductive Trailing where
  | refused
  | ignored
deriving DecidableEq, Inhabited, Repr

/-- Whether this may be left over. -/
def Trailing.admits {α : Type} : Trailing → List α → Bool
  | ignored, _ => true
  | refused, rest => rest.isEmpty

/-! ## Payloads -/

/-- The text of a value: a string, or generic bytes that spell one. -/
def text? : Value → Option String
  | .string s => some s
  | .binary subtype bytes => if subtype = 0 then String.fromUTF8? ⟨bytes.toArray⟩ else none
  | _ => none

/-- A byte from an integer. -/
def byte? (value : Value) : Option UInt8 :=
  (integer? value).bind fun n =>
    if 0 ≤ n ∧ n < UInt8.size then some (UInt8.ofNat n.toNat) else none

/-- The bytes of a value: generic ones, those of a string, or a list of integers. -/
def bytes? : Value → Option (List UInt8)
  | .binary subtype bytes => if subtype = 0 then some bytes else none
  | .string s => some s.toUTF8.data.toList
  | .array items => items.mapM byte?
  | _ => none

/-- What stands under a key, if a value is a document with this field alone or an array that begins
    with it. -/
def part? (trailing : Trailing) (key : String) : Value → Option Value
  | .document [(k, x)] => if k = key then some x else none
  | .array (x :: rest) => if trailing.admits rest then some x else none
  | _ => none

/-- What stands under two keys, if a value is a document with these two fields and no other or an
    array that begins with them. -/
def parts? (trailing : Trailing) (first second : String) : Value → Option (Value × Value)
  | .document [(k, x), (l, y)] =>
      if k = first ∧ l = second then some (x, y)
      else if k = second ∧ l = first then some (y, x)
      else none
  | .array (x :: y :: rest) => if trailing.admits rest then some (x, y) else none
  | _ => none

/-- An object identifier: hexadecimal text, or twelve generic bytes. -/
def objectId? : Value → Option ObjectId
  | .string s => objectIdOfHex? s
  | .binary subtype bytes =>
      if subtype = 0 ∧ bytes.length = 12 then
        some (BitVec.ofNat 96 (bytes.foldl (fun n b => 256 * n + b.toNat) 0))
      else none
  | _ => none

/-- The object identifier that a pointer holds: itself, or under a tag of its own. -/
def pointedId? (trailing : Trailing) : Value → Option ObjectId
  | .objectId id => some id
  | value => ((part? trailing "$oid" value).bind text?).bind objectIdOfHex?

/-- A date: milliseconds as an integer or as decimal text under `$numberLong`, or a date written
    out. -/
def date? (value : Value) : Option Value :=
  match integer? value, text? value with
  | some n, _ => some (.dateTime (Int64.ofInt n))
  | none, some s => Tag.date.ofText? s
  | none, none =>
      (((part? .refused "$numberLong" value).bind text?).bind long?).map .dateTime

/-- The value that a tag and what stands under it stand for. -/
def payload? (trailing : Trailing) : Tag → Value → Option Value
  | .oid, value => (objectId? value).map .objectId
  | .numberDecimalBytes, value => ((bytes? value).bind Decimal.ofBytes?).map .decimal
  | .binary, value => do
      let (base64, subtype) ← parts? trailing "base64" "subType" value
      binary? (← text? base64) (← text? subtype)
  | .uuid, value => ((text? value).bind Text.uuid?).map (.binary 4)
  | .timestamp, value => do
      let (time, increment) ← parts? trailing "t" "i" value
      return .timestamp (← unsigned32? time) (← unsigned32? increment)
  | .regularExpression, value => do
      let (pattern, options) ← parts? trailing "pattern" "options" value
      regex? (← text? pattern) (← text? options)
  | .pointer, value => do
      let (collection, id) ← parts? trailing "$ref" "$id" value
      return .pointer (← text? collection) (← pointedId? trailing id)
  | .date, value => date? value
  | .minKey, value => if integer? value = some 1 then some .minKey else none
  | .maxKey, value => if integer? value = some 1 then some .maxKey else none
  | .undefined, .bool true => some .undefined
  | tag, value => (text? value).bind tag.ofText?

/-! ## Documents -/

/-- What a run of fields is read as: the fields of an ordinary document, or one tagged value. -/
inductive Outcome where
  | ordinary (fields : List (String × Value))
  | tagged (value : Value)
deriving Inhabited

/-- The value of the whole document. -/
def Outcome.value : Outcome → Value
  | .ordinary fields => .document fields
  | .tagged value => value

/-- Puts a field in front of an ordinary document; a tagged value drops it. -/
def Outcome.cons (key : String) (value : Value) : Outcome → Outcome
  | .ordinary fields => .ordinary ((key, value) :: fields)
  | .tagged whole => .tagged whole

/-- A tagged value, if the fields behind it may be left over. -/
def finish (trailing : Trailing) (value : Value) (rest : List (String × Value)) :
    Except DecodeError Outcome :=
  match rest with
  | [] => .ok (.tagged value)
  | (key, _) :: _ =>
      if trailing = .ignored then .ok (.tagged value) else .error (.fieldAfterTag key)

/-- Code with a scope that has been read. -/
def withScope (code scope : Value) : Except DecodeError Value :=
  match text? code, scope with
  | none, _ => .error (.badPayload "$code")
  | some s, .document fields => .ok (.codeWithScope s fields)
  | some _, _ => .error (.badPayload "$scope")

/-- The calendar's last date for all dates behind it. -/
def withinCalendar (milliseconds : Int64) : Int64 :=
  if Calendar.lastMoment < milliseconds.toInt then Int64.ofInt Calendar.lastMoment
  else milliseconds

mutual

/-- Reads the tagged documents inside a value, at every depth. -/
def interpret (trailing : Trailing) : Value → Except DecodeError Value
  | .array items => return .array (← interpretItems trailing items)
  | .document fields => return (← interpretFields trailing fields).value
  | .codeWithScope code scope => do
      withScope (.string code) (← interpretFields trailing scope).value
  | .dateTime ms => return .dateTime (withinCalendar ms)
  | .regex pattern options => return .regex pattern options.sorted
  | value => return value

def interpretItems (trailing : Trailing) : List Value → Except DecodeError (List Value)
  | [] => return []
  | item :: rest => return (← interpret trailing item) :: (← interpretItems trailing rest)

def interpretFields (trailing : Trailing) : List (String × Value) → Except DecodeError Outcome
  | [] => return .ordinary []
  | (key, value) :: rest =>
      match Tag.ofKey? key, rest with
      | none, rest => do
          let value ← interpret trailing value
          return (← interpretFields trailing rest).cons key value
      | some .code, (next, scope) :: rest =>
          if next = "$scope" then do
            finish trailing (← withScope value (← interpret trailing scope)) rest
          else throw (.fieldAfterTag next)
      | some .scope, (next, code) :: rest =>
          if next = "$code" then do
            finish trailing (← withScope code (← interpret trailing value)) rest
          else throw (.fieldAfterTag next)
      | some tag, rest =>
          match payload? trailing tag value with
          | some tagged => finish trailing tagged rest
          | none => throw (.badPayload key)

end

end DocStore.Extended
