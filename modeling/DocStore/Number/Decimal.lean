/-
  Decimal numbers of up to thirty-four digits, held as their 128 bits.

  A decimal is a sign, a coefficient and a power of ten, kept apart, so 1.0 and 1.00 are two
  decimals.  The bits below the sign hold the power, counted from the least one, above the 113 bits
  of the coefficient; the greatest patterns are infinity and NaN.

  A text is read only if some decimal is exactly what it says: zeros may be cut off or put behind
  the digits to bring the number of digits or the power into range, other digits may not.  No digits
  at all say zero, and zero takes the nearest power that is in range.
-/
import DocStore.Text.Whole

namespace DocStore

/-- A decimal number by its bits. -/
structure Decimal where
  bits : BitVec 128
deriving DecidableEq, Inhabited

namespace Decimal

/-- The most digits of a coefficient. -/
def maxDigits : Nat := 34

def leastExponent : Int := -6176

def greatestExponent : Int := 6111

/-- How many coefficients there are for one exponent, 2¹¹³. -/
def coefficients : Nat := Nat.pow 2 113

/-- What the first five bits below the sign count, 2¹²². -/
def kinds : Nat := Nat.pow 2 122

/-- A sign in front of bits below it. -/
def ofMagnitude (negative : Bool) (n : Nat) : Decimal :=
  ⟨BitVec.ofNat 128 ((if negative then Nat.pow 2 127 else 0) + n)⟩

def infinity (negative : Bool) : Decimal := ofMagnitude negative (30 * kinds)

def nan (negative signalling : Bool) : Decimal :=
  ofMagnitude negative (31 * kinds + if signalling then kinds / 2 else 0)

/-- A coefficient times a power of ten. -/
def finite (negative : Bool) (coefficient : Nat) (exponent : Int) : Decimal :=
  ofMagnitude negative ((exponent - leastExponent).toNat * coefficients + coefficient)

/-! ## Reading -/

/-- Digits without the zeros in front; where nothing else stands, one zero. -/
def significant (digits : List Char) : List Char :=
  match digits.dropWhile (· = '0') with
  | [] => ['0']
  | c :: rest => c :: rest

/-- The first `size` digits, if the others are zeros. -/
def cutTo? (size : Nat) (digits : List Char) : Option (List Char) :=
  if (digits.drop size).all (· = '0') then some (digits.take size) else none

/-- The least power of ten that a text may say, -2¹²⁷, far below what a decimal holds. -/
def leastPower : Int := -Nat.pow 2 127

/-- The greatest power of ten that a text may say. -/
def greatestPower : Int := Nat.pow 2 127 - 1

/-- A power of ten that a text may say. -/
def power? (n : Int) : Option Int :=
  if leastPower ≤ n ∧ n ≤ greatestPower then some n else none

/-- Brings digits that are not all zeros and their exponent into the range of exponents. -/
def fitExponent? (digits : List Char) (exponent : Int) : Option (List Char × Int) :=
  if exponent < leastExponent then
    let excess := (leastExponent - exponent).toNat
    if digits.length < excess then none
    else (cutTo? (digits.length - excess) digits).map (·, leastExponent)
  else if greatestExponent < exponent then
    let zeros := (exponent - greatestExponent).toNat
    if maxDigits < digits.length + zeros then none
    else some (digits ++ List.replicate zeros '0', greatestExponent)
  else some (digits, exponent)

/-- The decimal that is exactly digits times a power of ten. -/
def ofDigits? (negative : Bool) (digits : List Char) (exponent : Int) : Option Decimal := do
  let digits := significant digits
  let kept ← cutTo? maxDigits digits
  let exponent ← power? (exponent + (digits.length - kept.length))
  if kept = ['0'] then
    return finite negative 0 (max leastExponent (min greatestExponent exponent))
  let (fitted, exponent) ← fitExponent? kept exponent
  let coefficient ← Text.unsigned? (Nat.pow 10 maxDigits) (String.ofList fitted)
  return finite negative coefficient exponent

/-- A number without its sign: digits with at most one point, and a power of ten behind `e`.  The
    digits may be missing, the power behind an `e` may not. -/
def unsignedOfText? (negative : Bool) (cs : List Char) : Option Decimal := do
  let digits := cs.takeWhile (· ≠ 'e')
  let power ← match cs.dropWhile (· ≠ 'e') with
    | [] => some 0
    | _ :: rest => Text.signed? leastPower greatestPower (String.ofList rest)
  let whole := digits.takeWhile (· ≠ '.')
  let places := (digits.dropWhile (· ≠ '.')).drop 1
  let exponent ← power? (power - places.length)
  ofDigits? negative (whole ++ places) exponent

/-- The decimal that a text says; letters are read in either case. -/
def ofText? (text : String) : Option Decimal :=
  let (negative, body) := match text.toList with
    | '-' :: rest => (true, rest)
    | '+' :: rest => (false, rest)
    | cs => (false, cs)
  let body := body.map Char.toLower
  match String.ofList body with
  | "nan" => some (nan negative false)
  | "snan" => some (nan negative true)
  | "inf" => some (infinity negative)
  | "infinity" => some (infinity negative)
  | _ => unsignedOfText? negative body

/-- The decimal of sixteen bytes, least significant first. -/
def ofBytes? (bytes : List UInt8) : Option Decimal :=
  if bytes.length = 16 then
    some ⟨BitVec.ofNat 128 (bytes.foldr (fun b n => b.toNat + 256 * n) 0)⟩
  else none

/-- The sixteen bytes of a decimal, least significant first. -/
def bytes (x : Decimal) : List UInt8 :=
  (List.range 16).map fun i => UInt8.ofNat (x.bits.toNat / Nat.pow 256 i)

/-! ## Writing -/

/-- A coefficient times a power of ten, in full where the power is small and never positive, else
    with one digit in front of the point. -/
def finiteText (coefficient : Nat) (exponent : Int) : String :=
  let digits := (toString coefficient).toList
  let leading := exponent + digits.length - 1
  if exponent = 0 then String.ofList digits
  else if exponent < 0 ∧ -6 ≤ leading then
    let places := (-exponent).toNat
    let padded := List.replicate (places + 1 - digits.length) '0' ++ digits
    let whole := padded.length - places
    String.ofList (padded.take whole ++ '.' :: padded.drop whole)
  else
    let rest := digits.drop 1
    String.ofList (digits.take 1 ++ if rest.isEmpty then [] else '.' :: rest)
      ++ (if leading < 0 then "E-" else "E+") ++ toString leading.natAbs

/-- The text of a decimal.  A coefficient of more digits than there may be counts as zero. -/
def text (x : Decimal) : String :=
  let sign := if Nat.pow 2 127 ≤ x.bits.toNat then "-" else ""
  let n := x.bits.toNat % Nat.pow 2 127
  sign ++
    (if 31 ≤ n / kinds then (if n % kinds < kinds / 2 then "NaN" else "sNaN")
    else if 30 ≤ n / kinds then "Infinity"
    else if 24 ≤ n / kinds then finiteText 0 (n / (coefficients / 4) % 16384 + leastExponent)
    else
      let coefficient := n % coefficients
      finiteText (if coefficient < Nat.pow 10 maxDigits then coefficient else 0)
        (n / coefficients + leastExponent))

end Decimal

end DocStore
