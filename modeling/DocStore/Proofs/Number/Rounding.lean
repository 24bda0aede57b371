/-
  Rounding whole numbers to doubles keeps their order.

  A comparison of an integer with a double rounds the integer first, so what is known of such
  comparisons rests on what rounding does to the order of integers.  `Double.place n` is the place,
  on the line of multiples of the smallest positive double, of the double nearest to `n`
  (`position?_ofInt`).  Different integers can get the same place, but never change places:
  `place_mono`.

  The bits below the sign are where this is shown.  They grow with the number that is rounded
  (`nearestBits_mono`): as long as the exponent stays, because rounding a quotient does
  (`divideHalfEven_mono`), and from one exponent to the next, because a fraction that is rounded up
  ends at most where the next exponent begins.  And they grow with what they stand for
  (`magnitude_mono`).
-/
import DocStore.Number.Double

namespace DocStore.Double

/-! ## Quotients

  Rounding to the nearest quotient, and to the even one of two that are equally near. -/

/-- A quotient is rounded to one of its two neighbours. -/
theorem divideHalfEven_bounds (a b : Nat) :
    a / b ≤ divideHalfEven a b ∧ divideHalfEven a b ≤ a / b + 1 := by
  rw [divideHalfEven]
  split
  · omega
  · split
    · omega
    · split <;> omega

/-- When a quotient is rounded up. -/
theorem divideHalfEven_eq_succ_iff (a b : Nat) :
    divideHalfEven a b = a / b + 1 ↔
      b < 2 * (a % b) ∨ b = 2 * (a % b) ∧ a / b % 2 = 1 := by
  rw [divideHalfEven]
  split
  · omega
  · split
    · omega
    · split <;> omega

/-- Of two numerators over one denominator, the greater one is not rounded below the other. -/
theorem divideHalfEven_mono {a c b : Nat} (h : a ≤ c) : divideHalfEven a b ≤ divideHalfEven c b := by
  have ha := divideHalfEven_bounds a b
  have hc := divideHalfEven_bounds c b
  rcases Nat.lt_or_eq_of_le (Nat.div_le_div_right (c := b) h) with hlt | heq
  · omega
  · -- With the same whole part, the remainders decide which of the two is rounded up.
    have hrest : a % b ≤ c % b := by
      have hsplit := Nat.div_add_mod a b
      have hsplit' := Nat.div_add_mod c b
      rw [heq] at hsplit
      omega
    have hup := divideHalfEven_eq_succ_iff a b
    have hup' := divideHalfEven_eq_succ_iff c b
    omega

/-! ## Bits

  The exponent is fixed by the number of digits, so greater numbers are compared exponent by
  exponent first, and within one exponent by their significands. -/

/-- The bits below the sign of the double nearest to a multiple of the smallest positive one, where
    the exponent is not bounded. -/
def nearestBits (scaled : Nat) : Nat :=
  (scaled.log2 - 52) * fractions +
    divideHalfEven scaled (Nat.pow 2 (scaled.log2 - 52))

/-- A rounded significand reaches at most the next exponent. -/
theorem significand_le (scaled : Nat) :
    divideHalfEven scaled (Nat.pow 2 (scaled.log2 - 52)) ≤ 2 * fractions := by
  have hpos : 0 < Nat.pow 2 (scaled.log2 - 52) := Nat.pow_pos (by decide)
  have hlt : scaled < 2 * fractions * Nat.pow 2 (scaled.log2 - 52) := by
    have hlog : scaled < Nat.pow 2 (scaled.log2 + 1) := Nat.lt_log2_self
    have hexp : Nat.pow 2 (scaled.log2 + 1) ≤ Nat.pow 2 (53 + (scaled.log2 - 52)) :=
      Nat.pow_le_pow_right (by decide) (by omega)
    have hsplit : Nat.pow 2 (53 + (scaled.log2 - 52)) =
        2 * fractions * Nat.pow 2 (scaled.log2 - 52) := Nat.pow_add 2 53 _
    omega
  have hquotient : scaled / Nat.pow 2 (scaled.log2 - 52) < 2 * fractions :=
    (Nat.div_lt_iff_lt_mul hpos).2 hlt
  have hbound := (divideHalfEven_bounds scaled (Nat.pow 2 (scaled.log2 - 52))).2
  omega

/-- Beyond the smallest exponent, a significand has all its places. -/
theorem le_significand {scaled : Nat} (h : 52 ≤ scaled.log2) :
    fractions ≤ divideHalfEven scaled (Nat.pow 2 (scaled.log2 - 52)) := by
  have hpos : 0 < Nat.pow 2 (scaled.log2 - 52) := Nat.pow_pos (by decide)
  have hne : scaled ≠ 0 := by
    rintro rfl
    rw [Nat.log2_zero] at h
    omega
  -- The leading bit alone makes the quotient as large as this.
  have hlog : Nat.pow 2 scaled.log2 ≤ scaled := Nat.log2_self_le hne
  have hsplit : Nat.pow 2 scaled.log2 = fractions * Nat.pow 2 (scaled.log2 - 52) := by
    have hsum : 52 + (scaled.log2 - 52) = scaled.log2 := by omega
    have hpow : Nat.pow 2 (52 + (scaled.log2 - 52)) =
        fractions * Nat.pow 2 (scaled.log2 - 52) := Nat.pow_add 2 52 _
    rwa [hsum] at hpow
  have hquotient : fractions ≤ scaled / Nat.pow 2 (scaled.log2 - 52) :=
    (Nat.le_div_iff_mul_le hpos).2 (by omega)
  exact Nat.le_trans hquotient (divideHalfEven_bounds scaled _).1

theorem log2_mono {a b : Nat} (h : a ≤ b) : a.log2 ≤ b.log2 := by
  by_cases ha : a = 0
  · rw [ha, Nat.log2_zero]
    omega
  · exact (Nat.le_log2 (by omega)).2 (Nat.le_trans (Nat.log2_self_le ha) h)

/-- What is greater has no less bits. -/
theorem nearestBits_mono {a b : Nat} (h : a ≤ b) : nearestBits a ≤ nearestBits b := by
  have hlog := log2_mono h
  rw [nearestBits, nearestBits]
  rcases Nat.lt_or_eq_of_le (Nat.sub_le_sub_right hlog 52) with hlt | heq
  · have hfirst := significand_le a
    have hplaces : 52 ≤ b.log2 := by omega
    have hnext := le_significand hplaces
    have hexponent : (a.log2 - 52 + 1) * fractions ≤ (b.log2 - 52) * fractions :=
      Nat.mul_le_mul_right _ hlt
    rw [Nat.succ_mul] at hexponent
    omega
  · rw [heq]
    exact Nat.add_le_add_left (divideHalfEven_mono h) _

/-- Greater bits stand for no less. -/
theorem magnitude_mono {b c : Nat} (h : b ≤ c) : magnitude b ≤ magnitude c := by
  have hrest : b % fractions < fractions := Nat.mod_lt _ (by decide)
  have hexponent : b / fractions ≤ c / fractions := Nat.div_le_div_right h
  rw [magnitude, magnitude]
  by_cases hc : c < fractions
  · rw [if_pos hc, if_pos (Nat.lt_of_le_of_lt h hc)]
    exact h
  rw [if_neg hc]
  have hone : 1 ≤ Nat.pow 2 (c / fractions - 1) := Nat.pow_pos (by decide)
  by_cases hb : b < fractions
  · rw [if_pos hb]
    have hle : fractions * 1 ≤ (fractions + c % fractions) * Nat.pow 2 (c / fractions - 1) :=
      Nat.mul_le_mul (Nat.le_add_right _ _) hone
    omega
  rw [if_neg hb]
  have hpositive : 1 ≤ b / fractions := (Nat.le_div_iff_mul_le (by decide)).2 (by omega)
  rcases Nat.lt_or_eq_of_le hexponent with hlt | heq
  · -- A whole significand stays below two, which is what the next exponent begins with.
    calc (fractions + b % fractions) * Nat.pow 2 (b / fractions - 1)
        ≤ 2 * fractions * Nat.pow 2 (b / fractions - 1) := Nat.mul_le_mul_right _ (by omega)
      _ = fractions * Nat.pow 2 (b / fractions - 1 + 1) := by
          have hpow : Nat.pow 2 (b / fractions - 1 + 1) = Nat.pow 2 (b / fractions - 1) * 2 := rfl
          rw [hpow, Nat.mul_comm 2 fractions, Nat.mul_assoc, Nat.mul_comm 2]
      _ ≤ fractions * Nat.pow 2 (c / fractions - 1) :=
          Nat.mul_le_mul_left _ (Nat.pow_le_pow_right (by decide) (by omega))
      _ ≤ (fractions + c % fractions) * Nat.pow 2 (c / fractions - 1) :=
          Nat.mul_le_mul_right _ (Nat.le_add_right _ _)
  · rw [← heq]
    refine Nat.mul_le_mul_right _ (Nat.add_le_add_left ?_ _)
    have hsplit := Nat.div_add_mod b fractions
    have hsplit' := Nat.div_add_mod c fractions
    rw [heq] at hsplit
    omega

/-! ## Places

  From bits to the places at which doubles stand among each other. -/

/-- The place of the double nearest to a natural number. -/
def placeOfNat (n : Nat) : Nat :=
  magnitude (min (nearestBits (n * unitsPerOne)) infinityBits)

/-- The place of the double nearest to a whole number. -/
def place (n : Int) : Int :=
  if n < 0 then -(placeOfNat n.natAbs : Int) else placeOfNat n.natAbs

/-- Bits below the sign that are no NaN are found where they stand. -/
theorem position?_ofBits {negative : Bool} {b : Nat} (h : b ≤ infinityBits) :
    (ofBits negative b).position? =
      some (if negative then -(magnitude b : Int) else magnitude b) := by
  -- The word holds the sign in its top bit and the magnitude below it.
  have hword : (ofBits negative b).bits.toNat = (if negative then signBit else 0) + b := by
    show ((if negative then signBit else 0) + b) % UInt64.size = _
    refine Nat.mod_eq_of_lt ?_
    rw [infinityBits] at h
    rw [signBit, UInt64.size]
    split <;> omega
  rw [infinityBits] at h
  have hmagnitude : (ofBits negative b).magnitudeBits = b := by
    rw [magnitudeBits, hword, signBit]
    split <;> omega
  have hnegative : (ofBits negative b).negative = negative := by
    rw [Double.negative, hword, signBit]
    cases negative
    · rw [if_neg Bool.false_ne_true]
      exact beq_false_of_ne (by omega)
    · rw [if_pos rfl]
      exact beq_iff_eq.2 (by omega)
  have hnumber : (ofBits negative b).isNaN = false := by
    rw [isNaN, hmagnitude, infinityBits]
    exact decide_eq_false (by omega)
  rw [position?, hnumber, hnegative, hmagnitude]
  rfl

/-- An integer is rounded to the place that is worked out for it. -/
theorem position?_ofInt (n : Int) : (ofInt n).position? = some (place n) := by
  have hbits : ofInt n =
      ofBits (decide (n < 0)) (min (nearestBits (n.natAbs * unitsPerOne)) infinityBits) := by
    rw [ofInt, ofRatio, nearestBits, Nat.div_one, Nat.one_mul]
  rw [hbits, position?_ofBits (Nat.min_le_right _ _), place, placeOfNat]
  by_cases h : n < 0
  · rw [decide_eq_true h, if_pos h, if_pos rfl]
  · rw [decide_eq_false h, if_neg h, if_neg Bool.false_ne_true]

/-- Rounding does not change the order. -/
theorem placeOfNat_mono {m n : Nat} (h : m ≤ n) : placeOfNat m ≤ placeOfNat n := by
  have hbits := nearestBits_mono (Nat.mul_le_mul_right unitsPerOne h)
  exact magnitude_mono (by omega)

/-- Rounding keeps the order of whole numbers. -/
theorem place_mono {m n : Int} (h : m ≤ n) : place m ≤ place n := by
  rw [place, place]
  by_cases hn : n < 0
  · have hmono : placeOfNat n.natAbs ≤ placeOfNat m.natAbs := placeOfNat_mono (by omega)
    rw [if_pos hn, if_pos (by omega)]
    omega
  · rw [if_neg hn]
    by_cases hm : m < 0
    · rw [if_pos hm]
      omega
    · have hmono : placeOfNat m.natAbs ≤ placeOfNat n.natAbs := placeOfNat_mono (by omega)
      rw [if_neg hm]
      omega

end DocStore.Double
