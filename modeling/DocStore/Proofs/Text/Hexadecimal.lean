/-
  Hexadecimal text is read back.

  Writing takes a number apart from its last digit on, reading puts it together from the first, so
  the two meet in what reading makes of one more digit at the end (`hexDigits?_append`).  A width
  that is too small for a number cuts its first digits off (`hex?_hex`); the twenty-four digits of
  an object identifier are always enough (`objectIdOfHex?_hex`).
-/
import DocStore.Extended.Tag

namespace DocStore

namespace Text

/-- The last digits of a number are those of its quotient, with one more behind them. -/
theorem mod_pow_succ (base count n : Nat) :
    n % Nat.pow base (count + 1) = n % base + base * (n / base % Nat.pow base count) := by
  rw [show Nat.pow base (count + 1) = base * Nat.pow base count from Nat.pow_succ', Nat.mod_mul]

theorem hexDigit?_hexDigit : ∀ {d : Nat}, d < 16 → hexDigit? (hexDigit d) = some d := by
  decide

/-- One more digit is worth the others sixteen times, and itself. -/
theorem hexDigits?_append {cs : List Char} {acc n : Nat} (h : hexDigits? acc cs = some n)
    (c : Char) : hexDigits? acc (cs ++ [c]) = (hexDigit? c).map (16 * n + ·) := by
  induction cs generalizing acc with
  | nil =>
    cases h
    rw [List.nil_append, hexDigits?]
    cases hexDigit? c <;> rfl
  | cons d rest ih =>
    rw [hexDigits?, Option.bind_eq_some_iff] at h
    obtain ⟨first, hfirst, hrest⟩ := h
    rw [List.cons_append, hexDigits?, hfirst, Option.bind_some, ih hrest]

/-- What is read back is the number as far as the digits reach. -/
theorem hexDigits?_hexChars (width n : Nat) :
    hexDigits? 0 (hexChars width n) = some (n % Nat.pow 16 width) := by
  induction width generalizing n with
  | zero => exact congrArg some (Nat.mod_one n).symm
  | succ width ih =>
    rw [hexChars, hexDigits?_append (ih (n / 16)), hexDigit?_hexDigit (Nat.mod_lt n (by decide)),
      Option.map_some, mod_pow_succ, Nat.add_comm]

theorem length_hexChars (width n : Nat) : (hexChars width n).length = width := by
  induction width generalizing n with
  | zero => rfl
  | succ width ih => rw [hexChars, List.length_append, ih, List.length_singleton]

/-- What was written is read back, as far as the digits go. -/
theorem hex?_hex (width n : Nat) : hex? width (hex width n) = some (n % Nat.pow 16 width) := by
  rw [hex?, hex, String.length_ofList, if_pos (length_hexChars width n), String.toList_ofList,
    hexDigits?_hexChars]

end Text

/-- The digits of an object identifier are read as the identifier. -/
theorem Extended.objectIdOfHex?_hex (id : ObjectId) :
    objectIdOfHex? (Text.hex 24 id.toNat) = some id := by
  have hlt : id.toNat < Nat.pow 16 24 := Nat.lt_of_lt_of_eq id.isLt (by decide)
  rw [objectIdOfHex?, Text.hex?_hex, Nat.mod_eq_of_lt hlt, Option.map_some, BitVec.ofNat_toNat,
    BitVec.setWidth_eq]

end DocStore
