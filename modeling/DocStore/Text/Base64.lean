/-
  Base 64 text with padding.

  Three bytes become four letters of six bits each; a last group of one or two bytes is filled up
  with zero bits and the missing letters are written `=`.  Reading takes exactly what writing
  gives: whole groups of four, the padding in place, and zeros for the bits that fill up.
-/

namespace DocStore.Text

/-- The letter for a value below sixty-four. -/
def base64Letter (n : Nat) : Char :=
  if n < 26 then Char.ofNat ('A'.toNat + n)
  else if n < 52 then Char.ofNat ('a'.toNat + (n - 26))
  else if n < 62 then Char.ofNat ('0'.toNat + (n - 52))
  else if n = 62 then '+' else '/'

/-- The letters of a group of bits, six at a time from the most significant end. -/
def base64Group (count bits : Nat) : List Char :=
  (List.range count).map fun i => base64Letter (bits / Nat.pow 64 (3 - i) % 64)

/-- The letters for a list of bytes. -/
def base64Chars : List UInt8 → List Char
  | a :: b :: c :: rest =>
      base64Group 4 (a.toNat * 65536 + b.toNat * 256 + c.toNat) ++ base64Chars rest
  | [a, b] => base64Group 3 (a.toNat * 65536 + b.toNat * 256) ++ ['=']
  | [a] => base64Group 2 (a.toNat * 65536) ++ ['=', '=']
  | [] => []

/-- A list of bytes as text. -/
def base64 (bytes : List UInt8) : String :=
  String.ofList (base64Chars bytes)

/-! ## Reading -/

/-- The value of a letter. -/
def base64Value? (c : Char) : Option Nat :=
  if 'A' ≤ c ∧ c ≤ 'Z' then some (c.toNat - 'A'.toNat)
  else if 'a' ≤ c ∧ c ≤ 'z' then some (c.toNat - 'a'.toNat + 26)
  else if '0' ≤ c ∧ c ≤ '9' then some (c.toNat - '0'.toNat + 52)
  else if c = '+' then some 62
  else if c = '/' then some 63
  else none

/-- The bits of a run of letters behind bits worth `acc`. -/
def base64Bits? : Nat → List Char → Option Nat
  | acc, [] => some acc
  | acc, c :: rest => (base64Value? c).bind fun v => base64Bits? (64 * acc + v) rest

/-- The bytes that letters and padding stand for. -/
def base64Bytes? : List Char → Option (List UInt8)
  | [] => some []
  | [a, b, '=', '='] =>
      (base64Bits? 0 [a, b]).bind fun n =>
        if n % 16 = 0 then some [UInt8.ofNat (n / 16)] else none
  | [a, b, c, '='] =>
      (base64Bits? 0 [a, b, c]).bind fun n =>
        if n % 4 = 0 then some [UInt8.ofNat (n / 1024), UInt8.ofNat (n / 4)] else none
  | a :: b :: c :: d :: rest =>
      (base64Bits? 0 [a, b, c, d]).bind fun n =>
        (base64Bytes? rest).map fun bytes =>
          UInt8.ofNat (n / 65536) :: UInt8.ofNat (n / 256) :: UInt8.ofNat n :: bytes
  | _ => none

/-- The bytes that a text stands for. -/
def ofBase64? (text : String) : Option (List UInt8) :=
  base64Bytes? text.toList

end DocStore.Text
