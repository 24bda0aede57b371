/-
  Double-precision numbers, held as their sixty-four bits.

  A double is a sign, eleven bits of exponent and fifty-two of fraction.  Every finite one is a
  whole multiple of the smallest positive double, 2⁻¹⁰⁷⁴, and `magnitude` gives that multiple; the
  same formula puts infinity just past the greatest finite double.  So `position?` places every
  double but NaN on the line of integers, and comparing doubles is comparing integers: zero and
  negative zero stand at one place, NaN stands nowhere.

  `ofRatio` goes the other way: the double nearest to a quotient of naturals, a tie going to the
  even neighbour.  In the encoding a carry out of the fraction runs into the exponent, so the
  rounded significand is simply added to the exponent field.
-/

namespace DocStore

/-- A double-precision number by its bits. -/
structure Double where
  bits : UInt64
deriving DecidableEq, Inhabited, Repr

namespace Double

/-- What the sign bit is worth, 2⁶³. -/
def signBit : Nat := 0x8000000000000000

/-- How many fractions there are for one exponent, 2⁵². -/
def fractions : Nat := 0x10000000000000

/-- The bits of infinity below the sign; greater ones are NaN. -/
def infinityBits : Nat := 0x7FF0000000000000

/-- How many smallest positive doubles make one. -/
def unitsPerOne : Nat := Nat.pow 2 1074

/-- Whether the sign bit is set. -/
def negative (x : Double) : Bool :=
  x.bits.toNat / signBit == 1

/-- The bits below the sign. -/
def magnitudeBits (x : Double) : Nat :=
  x.bits.toNat % signBit

/-- The multiple of 2⁻¹⁰⁷⁴ that bits below the sign stand for. -/
def magnitude (b : Nat) : Nat :=
  if b < fractions then b
  else (fractions + b % fractions) * Nat.pow 2 (b / fractions - 1)

def isNaN (x : Double) : Bool :=
  decide (infinityBits < x.magnitudeBits)

def isFinite (x : Double) : Bool :=
  decide (x.magnitudeBits < infinityBits)

/-- The place on the line of multiples of 2⁻¹⁰⁷⁴; NaN has none. -/
def position? (x : Double) : Option Int :=
  if x.isNaN then none
  else some (if x.negative then -(magnitude x.magnitudeBits : Int) else magnitude x.magnitudeBits)

/-- The order of two doubles; NaN has none to anything. -/
def compare? (x y : Double) : Option Ordering :=
  x.position?.bind fun p => y.position?.map fun q => compare p q

/-- Equality as numbers: NaN equals nothing, and the two zeros are equal. -/
def equal (x y : Double) : Bool :=
  x.compare? y == some .eq

/-! ## From exact numbers -/

/-- The double with this sign and these bits below it. -/
def ofBits (negative : Bool) (b : Nat) : Double :=
  ⟨UInt64.ofNat ((if negative then signBit else 0) + b)⟩

def infinity (negative : Bool) : Double := ofBits negative infinityBits

/-- The quiet NaN with an empty payload. -/
def nan : Double := ofBits false 0x7FF8000000000000

/-- The whole number nearest to a quotient, a tie going to the even one. -/
def divideHalfEven (a b : Nat) : Nat :=
  let q := a / b
  let r := a % b
  if 2 * r < b then q
  else if b < 2 * r then q + 1
  else if q % 2 = 0 then q else q + 1

/-- The double nearest to `num / den`, a tie going to the even neighbour; too great a quotient
    becomes infinite. -/
def ofRatio (negative : Bool) (num den : Nat) : Double :=
  let scaled := num * unitsPerOne
  let shift := (scaled / den).log2 - 52
  let significand := divideHalfEven scaled (den * Nat.pow 2 shift)
  ofBits negative (min (shift * fractions + significand) infinityBits)

/-- The double nearest to a whole number. -/
def ofInt (n : Int) : Double :=
  ofRatio (decide (n < 0)) n.natAbs 1

/-! ## To whole numbers -/

/-- The whole part of a finite double that is not less than zero, cut off at `max`. -/
def toCount? (max : Nat) (x : Double) : Option Nat :=
  match x.position? with
  | some p =>
      if 0 ≤ p ∧ x.isFinite then some (min (p.toNat / unitsPerOne) max) else none
  | none => none

end Double

end DocStore
