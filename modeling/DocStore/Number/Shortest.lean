/-
  Doubles in decimal, by the fewest digits that read back.

  The reals that round to a double form an interval around it, half-way to either neighbour, its
  ends included when the double's last bit is even.  The digits are sought on the grids of
  multiples of 10ᵏ, coarsest first: the first grid with a point in the interval gives the fewest
  digits, and of two points of that grid the one nearer to the double is taken, the greater one at
  a tie.  All of it is exact arithmetic on naturals, in units of 2⁻¹⁰⁷⁵ so that the ends of the
  interval are whole.

  `plain` writes the digits out without an exponent and without a point behind whole numbers.
-/
import DocStore.Number.Double

namespace DocStore.Double

/-- The point of the grid of multiples of 10ᵏ that stands for the double with bits `b` below the
    sign, as a multiple, if the grid has one that reads back. -/
def gridPoint? (b : Nat) (k : Int) : Option Nat :=
  let scale := Nat.pow 10 (-k).toNat
  let step := Nat.pow 10 k.toNat * (2 * unitsPerOne)
  let value := 2 * magnitude b * scale
  let low := (magnitude (b - 1) + magnitude b) * scale
  let high := (magnitude b + magnitude (b + 1)) * scale
  let readsBack := fun c : Nat =>
    if b % 2 = 0 then decide (low ≤ c * step ∧ c * step ≤ high)
    else decide (low < c * step ∧ c * step < high)
  let below := value / step
  let above := below + 1
  match readsBack below, readsBack above with
  | true, true =>
      if value - below * step < above * step - value then some below else some above
  | true, false => some below
  | false, true => some above
  | false, false => none

/-- The digits on the coarsest grid that has some, from 10ᵏ down; `fuel` counts the grids tried
    before the one on which every double lies exactly. -/
def coarsestFrom (b : Nat) : Nat → Int → Nat × Int
  | 0, _ => (magnitude b * Nat.pow 5 1074, -1074)
  | fuel + 1, k =>
      match gridPoint? b k with
      | some c => (c, k)
      | none => coarsestFrom b fuel (k - 1)

/-- The fewest digits that read back, as a multiple of a power of ten. -/
def shortest (b : Nat) : Nat × Int :=
  coarsestFrom b 1384 309

/-- A positive number, given as a multiple of 10ᵏ, written out in full. -/
def writeOut (digits : List Char) (k : Int) : List Char :=
  if 0 ≤ k then digits ++ List.replicate k.toNat '0'
  else
    let places := (-k).toNat
    if places < digits.length then
      digits.take (digits.length - places) ++ '.' :: digits.drop (digits.length - places)
    else '0' :: '.' :: (List.replicate (places - digits.length) '0' ++ digits)

/-- The text of a double without an exponent. -/
def plain (x : Double) : String :=
  if x.isNaN then "NaN"
  else
    let sign := if x.negative then "-" else ""
    if !x.isFinite then sign ++ "inf"
    else if x.magnitudeBits = 0 then sign ++ "0"
    else
      let (digits, k) := shortest x.magnitudeBits
      sign ++ String.ofList (writeOut (toString digits).toList k)

end DocStore.Double
