/-
  Two equalities of values.

  `alike` compares two values part by part and leaves it to its first argument when two doubles
  are equal.  With doubles compared by their bits it decides identity (`alike_bits_iff`), and that
  makes equality of values decidable.  With doubles compared as numbers it is `Value.same`, under
  which the two zeros agree and NaN differs from itself.
-/
import DocStore.Value

namespace DocStore.Value

mutual

/-- Whether two values agree part by part, doubles compared by `eq`. -/
def alike (eq : Double → Double → Bool) : Value → Value → Bool
  | null, null => true
  | bool a, bool b => a == b
  | int32 a, int32 b => a == b
  | int64 a, int64 b => a == b
  | double a, double b => eq a b
  | dateTime a, dateTime b => a == b
  | string a, string b => a == b
  | array a, array b => alikeItems eq a b
  | document a, document b => alikeFields eq a b
  | objectId a, objectId b => a == b
  | undefined, undefined => true
  | minKey, minKey => true
  | maxKey, maxKey => true
  | regex p o, regex q r => p == q && o == r
  | timestamp t i, timestamp u j => t == u && i == j
  | binary s a, binary t b => s == t && a == b
  | symbol a, symbol b => a == b
  | code a, code b => a == b
  | codeWithScope a s, codeWithScope b t => a == b && alikeFields eq s t
  | decimal a, decimal b => a == b
  | pointer a i, pointer b j => a == b && i == j
  | _, _ => false

def alikeItems (eq : Double → Double → Bool) : List Value → List Value → Bool
  | [], [] => true
  | a :: as, b :: bs => alike eq a b && alikeItems eq as bs
  | _, _ => false

def alikeFields (eq : Double → Double → Bool) :
    List (String × Value) → List (String × Value) → Bool
  | [], [] => true
  | (k, a) :: as, (l, b) :: bs => k == l && alike eq a b && alikeFields eq as bs
  | _, _ => false

end

/-- Equality with numbers compared as numbers: zero is negative zero and NaN differs from itself. -/
def same (x y : Value) : Bool :=
  alike Double.equal x y

/-! ## Identity is decidable -/

/-- Doubles compared by their bits. -/
def bitsEqual (x y : Double) : Bool := x == y

mutual

/-- Values that agree down to the bits of their doubles are the same value. The induction is on the
    first one and covers items and fields along with it. -/
theorem eq_of_alike : ∀ x y : Value, alike bitsEqual x y = true → x = y := by
  intro x y h
  cases x with
  | array items =>
    cases y <;> simp [alike] at h ⊢
    exact eq_of_alikeItems items _ h
  | document fields =>
    cases y <;> simp [alike] at h ⊢
    exact eq_of_alikeFields fields _ h
  | codeWithScope code scope =>
    cases y <;> simp [alike] at h ⊢
    exact ⟨h.1, eq_of_alikeFields scope _ h.2⟩
  | _ => cases y <;> simp_all [alike, bitsEqual]

theorem eq_of_alikeItems : ∀ xs ys : List Value, alikeItems bitsEqual xs ys = true → xs = ys := by
  intro xs ys h
  cases xs with
  | nil => cases ys <;> simp [alikeItems] at h ⊢
  | cons x xs =>
    cases ys with
    | nil => simp [alikeItems] at h
    | cons y ys =>
      simp only [alikeItems, Bool.and_eq_true] at h
      rw [eq_of_alike x y h.1, eq_of_alikeItems xs ys h.2]

theorem eq_of_alikeFields : ∀ xs ys : List (String × Value),
    alikeFields bitsEqual xs ys = true → xs = ys := by
  intro xs ys h
  match xs, ys with
  | [], [] => rfl
  | [], _ :: _ => simp [alikeFields] at h
  | _ :: _, [] => simp [alikeFields] at h
  | (k, x) :: xs, (l, y) :: ys =>
    simp only [alikeFields, Bool.and_eq_true, beq_iff_eq] at h
    rw [h.1.1, eq_of_alike x y h.1.2, eq_of_alikeFields xs ys h.2]

end

mutual

/-- And every value agrees with itself, not-a-number included, as bits are compared. -/
theorem alike_refl : ∀ x : Value, alike bitsEqual x x = true := by
  intro x
  cases x with
  | array items => simpa [alike] using alikeItems_refl items
  | document fields => simpa [alike] using alikeFields_refl fields
  | codeWithScope code scope => simpa [alike] using alikeFields_refl scope
  | _ => simp [alike, bitsEqual]

theorem alikeItems_refl : ∀ xs : List Value, alikeItems bitsEqual xs xs = true := by
  intro xs
  cases xs with
  | nil => rfl
  | cons x xs => simp [alikeItems, alike_refl x, alikeItems_refl xs]

theorem alikeFields_refl : ∀ xs : List (String × Value), alikeFields bitsEqual xs xs = true := by
  intro xs
  match xs with
  | [] => rfl
  | (k, x) :: xs => simp [alikeFields, alike_refl x, alikeFields_refl xs]

end

/-- With doubles compared by their bits, values agree part by part exactly when they are equal. -/
theorem alike_bits_iff (x y : Value) : alike bitsEqual x y = true ↔ x = y :=
  ⟨eq_of_alike x y, fun h => h ▸ alike_refl x⟩

instance : DecidableEq Value := fun x y =>
  decidable_of_iff _ (alike_bits_iff x y)

end DocStore.Value
