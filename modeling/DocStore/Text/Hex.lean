/-
  Hexadecimal text.

  Numbers are written with lower-case digits, most significant first and padded with zeros to a
  given width; they are read in either case.  Bytes take two digits each.
-/

namespace DocStore.Text

/-- The lower-case digit for a value below sixteen. -/
def hexDigit (d : Nat) : Char :=
  if d < 10 then Char.ofNat ('0'.toNat + d) else Char.ofNat ('a'.toNat + (d - 10))

/-- The value of a digit of either case. -/
def hexDigit? (c : Char) : Option Nat :=
  if '0' ≤ c ∧ c ≤ '9' then some (c.toNat - '0'.toNat)
  else if 'a' ≤ c ∧ c ≤ 'f' then some (c.toNat - 'a'.toNat + 10)
  else if 'A' ≤ c ∧ c ≤ 'F' then some (c.toNat - 'A'.toNat + 10)
  else none

/-- The last `width` digits of a number. -/
def hexChars : Nat → Nat → List Char
  | 0, _ => []
  | width + 1, n => hexChars width (n / 16) ++ [hexDigit (n % 16)]

/-- The last `width` digits of a number as text. -/
def hex (width n : Nat) : String :=
  String.ofList (hexChars width n)

/-- The value of a run of digits behind digits worth `acc`. -/
def hexDigits? : Nat → List Char → Option Nat
  | acc, [] => some acc
  | acc, c :: rest => (hexDigit? c).bind fun d => hexDigits? (16 * acc + d) rest

/-- The value of a text of exactly `width` digits. -/
def hex? (width : Nat) (text : String) : Option Nat :=
  if text.length = width then hexDigits? 0 text.toList else none

/-- The bytes of a run of digits, two for each byte. -/
def hexBytes? : List Char → Option (List UInt8)
  | [] => some []
  | [_] => none
  | c :: d :: rest =>
      (hexDigits? 0 [c, d]).bind fun n => (hexBytes? rest).map (UInt8.ofNat n :: ·)

end DocStore.Text
