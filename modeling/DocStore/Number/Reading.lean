/-
  Reading doubles from decimal text.

  A number is digits with at most one point among or beside them and at least one digit,
  optionally followed by a power of ten; the names of infinity and NaN are read in either case.  A
  sign may stand in front of all of them.  The text must be a number as a whole.  The value is
  exact before it is rounded once, so every text reads as the double nearest to what it says.
-/
import DocStore.Number.Double
import DocStore.Text.Whole

namespace DocStore.Double

/-- Cuts a sign off the front; true for a minus. -/
def takeSign : List Char → Bool × List Char
  | '-' :: rest => (true, rest)
  | '+' :: rest => (false, rest)
  | cs => (false, cs)

/-- The double nearest to a multiple of a power of ten.  Powers far outside the range of doubles are
    not computed: the number of digits already tells that the value is infinite or zero. -/
def ofDecimal (negative : Bool) (digits : Nat) (exponent : Int) : Double :=
  if digits = 0 then ofBits negative 0
  else
    let size := exponent + (toString digits).length
    if 310 < size then infinity negative
    else if size < -330 then ofBits negative 0
    else if 0 ≤ exponent then ofRatio negative (digits * Nat.pow 10 exponent.toNat) 1
    else ofRatio negative digits (Nat.pow 10 (-exponent).toNat)

/-- The power of ten behind the digits: nothing, or a letter `e` and a signed number. -/
def exponent? : List Char → Option Int
  | [] => some 0
  | c :: rest =>
      if c = 'e' ∨ c = 'E' then
        let (negative, digits) := takeSign rest
        (Text.natural? digits).map fun n => if negative then -(n : Int) else n
      else none

/-- A number without its sign. -/
def unsignedOfText? (negative : Bool) (cs : List Char) : Option Double :=
  let whole := cs.takeWhile Char.isDigit
  let rest := cs.dropWhile Char.isDigit
  let (places, rest) := match rest with
    | '.' :: rest => (rest.takeWhile Char.isDigit, rest.dropWhile Char.isDigit)
    | rest => ([], rest)
  (Text.natural? (whole ++ places)).bind fun digits =>
    (exponent? rest).map fun exponent => ofDecimal negative digits (exponent - places.length)

/-- The double nearest to what a text says. -/
def ofText? (text : String) : Option Double :=
  let (negative, body) := takeSign text.toList
  match String.ofList (body.map Char.toLower) with
  | "inf" => some (infinity negative)
  | "infinity" => some (infinity negative)
  | "nan" => some nan
  | _ => unsignedOfText? negative body

end DocStore.Double
