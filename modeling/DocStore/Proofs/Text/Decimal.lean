/-
  Which texts are read as unsigned numbers.

  A text spells a number if it is a run of ASCII digits of that value, leading zeros included, with
  at most a plus in front.  Reading gives the numbers that are spelled and do not exceed its bound,
  and nothing else (`unsigned?_eq_some_iff`).  The value of a run of digits is the library's
  `Nat.ofDigitChars`, so what the library prints is read back (`natural?_toDigits`), with a sign as
  well (`signed?_toString`).
-/
import DocStore.Text.Whole

namespace DocStore.Text

variable {cs : List Char} {n : Nat} {text : String}

/-- The text is a run of digits of this value, with at most a plus in front. -/
def Spells (text : String) (n : Nat) : Prop :=
  ∃ digits : List Char, (text.toList = digits ∨ text.toList = '+' :: digits) ∧
    digits ≠ [] ∧ (∀ c ∈ digits, c.isDigit = true) ∧ Nat.ofDigitChars 10 digits 0 = n

/-- A digit is its distance from zero. -/
theorem digit?_of_isDigit {c : Char} (h : c.isDigit = true) :
    digit? c = some (c.toNat - '0'.toNat) := by
  rw [Char.isDigit, Bool.and_eq_true, decide_eq_true_eq, decide_eq_true_eq] at h
  exact if_pos h

theorem digit?_of_not_isDigit {c : Char} (h : ¬ c.isDigit = true) : digit? c = none := by
  rw [Char.isDigit, Bool.and_eq_true, decide_eq_true_eq, decide_eq_true_eq] at h
  exact if_neg h

/-- Digits are read one by one, from what stands before them. -/
theorem digits?_eq_some_iff {acc : Nat} : digits? acc cs = some n ↔
    (∀ c ∈ cs, c.isDigit = true) ∧ Nat.ofDigitChars 10 cs acc = n := by
  induction cs generalizing acc with
  | nil =>
    rw [digits?, Option.some.injEq]
    exact (and_iff_right nofun).symm
  | cons c rest ih =>
    rw [digits?, Nat.ofDigitChars_cons, List.forall_mem_cons]
    by_cases hc : c.isDigit = true
    · rw [digit?_of_isDigit hc, Option.bind_some, ih, and_iff_right hc]
    · rw [digit?_of_not_isDigit hc]
      exact iff_of_false nofun fun h => hc h.1.1

theorem natural?_eq_some_iff : natural? cs = some n ↔
    cs ≠ [] ∧ (∀ c ∈ cs, c.isDigit = true) ∧ Nat.ofDigitChars 10 cs 0 = n := by
  rw [natural?, ← digits?_eq_some_iff]
  cases cs with
  | nil => exact iff_of_false nofun fun h => h.1 rfl
  | cons c rest => exact (and_iff_right (List.cons_ne_nil c rest)).symm

/-- No digit is a plus, so a plus in front is passed over and never read. -/
theorem not_isDigit_plus : ¬ '+'.isDigit = true := by
  decide

/-- Reading gives what is spelled, up to the bound. -/
theorem unsigned?_eq_some_iff {max : Nat} :
    unsigned? max text = some n ↔ Spells text n ∧ n ≤ max := by
  rw [unsigned?, Option.filter_eq_some_iff, decide_eq_true_eq]
  refine and_congr_left fun _ => ?_
  rw [natural?_eq_some_iff]
  constructor
  · intro h
    split at h
    · rename_i rest hplus
      exact ⟨rest, Or.inr hplus, h⟩
    · exact ⟨_, Or.inl rfl, h⟩
  · rintro ⟨digits, hdigits | hplus, h⟩
    · rw [hdigits]
      split
      · exact absurd (h.2.1 '+' List.mem_cons_self) not_isDigit_plus
      · exact h
    · rw [hplus]
      exact h

/-- The digits that the library prints are those of the number. -/
theorem natural?_toDigits (n : Nat) : natural? (Nat.toDigits 10 n) = some n :=
  natural?_eq_some_iff.2 ⟨Nat.toDigits_ne_nil,
    fun _ hc => Nat.isDigit_of_mem_toDigits (by decide) (by decide) hc,
    Nat.ofDigitChars_toDigits (by decide) (by decide)⟩

/-! ## Signed numbers -/

/-- A run of digits is a signed number, too. -/
theorem signed?_of_natural? {min max : Int} {digits : List Char} (hdigits : text.toList = digits)
    (h : natural? digits = some n) (hmin : min ≤ n) (hmax : n ≤ max) :
    signed? min max text = some (n : Int) := by
  have hall := (natural?_eq_some_iff.1 h).2.1
  rw [signed?, Option.filter_eq_some_iff, decide_eq_true_eq, hdigits]
  refine ⟨?_, hmin, hmax⟩
  split
  · exact absurd (hall '+' List.mem_cons_self) not_isDigit_plus
  · exact absurd (hall '-' List.mem_cons_self) (by decide)
  · rw [h]
    rfl

/-- With a minus in front, it is the number below zero. -/
theorem signed?_of_minus {min max : Int} {digits : List Char}
    (hdigits : text.toList = '-' :: digits) (h : natural? digits = some n) (hmin : min ≤ -(n : Int))
    (hmax : -(n : Int) ≤ max) : signed? min max text = some (-(n : Int)) := by
  rw [signed?, Option.filter_eq_some_iff, decide_eq_true_eq, hdigits]
  refine ⟨?_, hmin, hmax⟩
  exact congrArg (Option.map fun n => -Int.ofNat n) h

/-- What the library prints is read back, within the bounds. -/
theorem signed?_toString {min max n : Int} (hmin : min ≤ n) (hmax : n ≤ max) :
    signed? min max (toString n) = some n := by
  cases n with
  | ofNat n => exact signed?_of_natural? Nat.toList_repr (natural?_toDigits n) hmin hmax
  | negSucc n =>
    have hdigits : (toString (Int.negSucc n)).toList = '-' :: Nat.toDigits 10 (n + 1) := by
      rw [Int.toString_eq_repr, Int.repr, String.toList_append, Nat.toList_repr]
      rfl
    exact signed?_of_minus hdigits (natural?_toDigits (n + 1)) hmin hmax

end DocStore.Text
