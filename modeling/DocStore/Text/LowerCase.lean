/-
  Lower-casing of text.

  Every character is replaced by its lower-case form.  Two characters need more than the table:
  `İ` becomes `i` with a dot above, and a capital sigma becomes `ς` at the end of a word and `σ`
  elsewhere.  The end of a word is told from the neighbours: a cased letter stands before the
  sigma and none after it, where ignorable characters on either side are passed over.
-/
import DocStore.Text.CaseTable

namespace DocStore.Text

/-- Whether the nearest character that is not ignorable is a cased letter. -/
def meetsCased (cs : List Char) : Bool :=
  match cs.dropWhile fun c => ignorableRanges.any (·.covers c.toNat) with
  | [] => false
  | c :: _ => casedRanges.any (·.covers c.toNat)

/-- The lower-case form of one character, a capital sigma taken as inside a word. -/
def lowerChar (c : Char) : List Char :=
  if c = 'İ' then ['i', '\u0307']
  else match lowerSpans.findSome? (·.image? c.toNat) with
    | some n => [Char.ofNat n]
    | none => [c]

/-- Lower-cases what follows the characters `before`, nearest first. -/
def lowerFrom (before : List Char) : List Char → List Char
  | [] => []
  | c :: rest =>
      (if c = 'Σ' then
        if meetsCased before && !meetsCased rest then ['ς'] else ['σ']
      else lowerChar c) ++ lowerFrom (c :: before) rest

/-- A text in lower case. -/
def lowerCase (text : String) : String :=
  String.ofList (lowerFrom [] text.toList)

end DocStore.Text
