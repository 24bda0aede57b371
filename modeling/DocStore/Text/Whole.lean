/-
  Whole numbers in decimal.

  A number is written with ASCII digits and at most one sign in front; blanks, separators and
  digits of other scripts make the text no number.  A bound is part of the reading: a text whose
  value does not fit is no number either.  Unsigned numbers admit `+` alone as sign.
-/

namespace DocStore.Text

/-- The value of an ASCII digit. -/
def digit? (c : Char) : Option Nat :=
  if '0' ≤ c ∧ c ≤ '9' then some (c.toNat - '0'.toNat) else none

/-- The value of a run of digits behind digits worth `acc`. -/
def digits? : Nat → List Char → Option Nat
  | acc, [] => some acc
  | acc, c :: rest => (digit? c).bind fun d => digits? (10 * acc + d) rest

/-- The value of a non-empty run of digits. -/
def natural? (cs : List Char) : Option Nat :=
  if cs.isEmpty then none else digits? 0 cs

/-- A number from `0` to `max`, with an optional `+`. -/
def unsigned? (max : Nat) (text : String) : Option Nat :=
  let body := match text.toList with
    | '+' :: rest => rest
    | cs => cs
  (natural? body).filter (· ≤ max)

/-- A number from `min` to `max`, with an optional sign. -/
def signed? (min max : Int) (text : String) : Option Int :=
  let value := match text.toList with
    | '+' :: rest => (natural? rest).map Int.ofNat
    | '-' :: rest => (natural? rest).map fun n => -Int.ofNat n
    | cs => (natural? cs).map Int.ofNat
  value.filter fun n => min ≤ n ∧ n ≤ max

end DocStore.Text
