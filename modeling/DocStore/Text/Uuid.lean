/-
  Universally unique identifiers as text.

  Sixteen bytes are written with thirty-two hexadecimal digits, either in one run or in five groups
  with hyphens between them.  The grouped form may stand in braces or behind `urn:uuid:`.  Digits
  and words are read in either case.
-/
import DocStore.Text.Hex

namespace DocStore.Text

/-- The digits of groups of these sizes without the hyphens between them. -/
def joinGroups? : List Nat → List Char → Option (List Char)
  | [], cs => if cs.isEmpty then some [] else none
  | [size], cs => if cs.length = size then some cs else none
  | size :: sizes, cs =>
      match cs.drop size with
      | '-' :: rest => (joinGroups? sizes rest).map (cs.take size ++ ·)
      | _ => none

/-- The sizes of the groups of the form with hyphens. -/
def uuidGroups : List Nat := [8, 4, 4, 4, 12]

/-- What stands between braces, if the text begins and ends with them. -/
def betweenBraces? : List Char → Option (List Char)
  | '\x7b' :: rest => if rest.getLast? = some '\x7d' then some rest.dropLast else none
  | _ => none

/-- The letters in front of an identifier that is a name among others. -/
def uuidName : List Char := "urn:uuid:".toList

/-- What stands behind the letters of a name, which may be capitals. -/
def behindName? (cs : List Char) : Option (List Char) :=
  if (cs.take uuidName.length).map Char.toLower = uuidName then some (cs.drop uuidName.length)
  else none

/-- The digits of an identifier in any of its forms. -/
def uuidDigits? (cs : List Char) : Option (List Char) :=
  if cs.length = 32 then some cs
  else joinGroups? uuidGroups ((betweenBraces? cs <|> behindName? cs).getD cs)

/-- The sixteen bytes of an identifier. -/
def uuid? (text : String) : Option (List UInt8) :=
  (uuidDigits? text.toList).bind hexBytes?

end DocStore.Text
