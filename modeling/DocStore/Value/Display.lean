/-
  Values as text for people.

  Numbers and booleans are written plainly, strings between quotes without any escaping, arrays
  and documents with their parts separated by commas.  An identifier that a caller gives as some
  other value than text becomes this text.
-/
import DocStore.Number.Shortest
import DocStore.Text.Base64
import DocStore.Text.Hex
import DocStore.Value
import DocStore.Value.Calendar

namespace DocStore.Value

/-- A text between quotes, as it stands. -/
def quoted (s : String) : String := "\"" ++ s ++ "\""

/-- A byte in hexadecimal, without leading zeros. -/
def shortHex (n : Nat) : String :=
  if n < 16 then Text.hex 1 n else Text.hex 2 n

mutual

/-- The text of a value. -/
def display : Value → String
  | null => "null"
  | bool b => if b then "true" else "false"
  | int32 n => toString n.toInt
  | int64 n => toString n.toInt
  | double x => x.plain
  | dateTime ms => "DateTime(" ++ quoted (Calendar.text ms.toInt) ++ ")"
  | string s => quoted s
  | array items => "[" ++ displayItems items ++ "]"
  | document [] => "\x7b\x7d"
  | document (field :: rest) => "\x7b " ++ displayFields (field :: rest) ++ " \x7d"
  | objectId id => "ObjectId(" ++ quoted (Text.hex 24 id.toNat) ++ ")"
  | undefined => "undefined"
  | minKey => "MinKey"
  | maxKey => "MaxKey"
  | regex pattern options => "/" ++ pattern.text ++ "/" ++ options.text
  | timestamp time increment =>
      "Timestamp(" ++ toString time.toNat ++ ", " ++ toString increment.toNat ++ ")"
  | binary subtype bytes =>
      "Binary(0x" ++ shortHex subtype.toNat ++ ", " ++ Text.base64 bytes ++ ")"
  | symbol s => "Symbol(" ++ quoted s ++ ")"
  | code s => s
  | codeWithScope s _ => s
  | decimal x => x.text
  | pointer collection id =>
      "DbPointer(" ++ collection ++ ", " ++ Text.hex 24 id.toNat ++ ")"

/-- The texts of the items with commas between them. -/
def displayItems : List Value → String
  | [] => ""
  | item :: rest =>
      display item ++ (if rest.isEmpty then "" else ", ") ++ displayItems rest

/-- The texts of the fields with commas between them. -/
def displayFields : List (String × Value) → String
  | [] => ""
  | (key, value) :: rest =>
      quoted key ++ ": " ++ display value ++ (if rest.isEmpty then "" else ", ")
        ++ displayFields rest

end

end DocStore.Value
