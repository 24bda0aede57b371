/-
  How far `compareValues` is an ordering.

  A stable sort needs a comparison that reverses when its arguments are exchanged, and under which
  what is not above a second value, which is not above a third, is not above the third.  The first
  law holds without exception (`compare?_swap`).  The second one holds among the values of one
  kind, with one proviso, and says nothing across kinds, where `compareValues` answers "equal".

  Whether two values have an order is a matter of their kinds (`exists_compare?_iff`).  So a value
  can break the second law between two others of one kind either as one that has no order to them
  (`Apart`) or as one of their kind.  Among values of one kind only numbers can fail, and only
  because an integer is rounded before it is compared with a double: rounding never exchanges two
  integers (`place_le_of_compare?`) but can put them at one place (`RoundedTogether`).
  `compareValues_laws` says that these two are all there is.
-/
import Mathlib.Order.Compare
import DocStore.Proofs.Comparand.Equality
import DocStore.Proofs.Number.Rounding

namespace DocStore

namespace Double

/-- Two doubles have an order exactly if both are numbers. -/
theorem exists_compare?_iff (x y : Double) :
    (∃ o, x.compare? y = some o) ↔ (∃ p, x.position? = some p) ∧ ∃ q, y.position? = some q := by
  rw [compare?]
  cases x.position? <;> cases y.position? <;> simp

theorem compare?_swap (x y : Double) : y.compare? x = (x.compare? y).map Ordering.swap := by
  rw [compare?, compare?]
  cases x.position? with
  | none => cases y.position? <;> rfl
  | some p =>
    cases y.position? with
    | none => rfl
    | some q => exact congrArg some Std.OrientedOrd.eq_swap

end Double

namespace Comparand

variable {x y z : Comparand}

/-! ## Kinds -/

/-- The kinds of values that have an order. -/
inductive Kind where
  | boolean | number | dateTime | string
deriving DecidableEq

/-- The place of a number among the doubles; an integer stands where it is rounded to. -/
def place? : Comparand → Option Int
  | integer n => (Double.ofInt n).position?
  | double x => x.position?
  | _ => none

/-- The kind of what has an order; NaN has none, and counts as no number. -/
def kind? : Comparand → Option Kind
  | bool _ => some .boolean
  | integer _ => some .number
  | double x => x.position?.map fun _ => .number
  | dateTime _ => some .dateTime
  | string _ => some .string
  | _ => none

theorem kind?_eq_boolean_iff : x.kind? = some .boolean ↔ ∃ a, x = bool a := by
  cases x <;> simp [kind?]

theorem kind?_eq_number_iff : x.kind? = some .number ↔ ∃ p, x.place? = some p := by
  cases x <;> simp [kind?, place?, Double.position?_ofInt]

theorem kind?_eq_dateTime_iff : x.kind? = some .dateTime ↔ ∃ a, x = dateTime a := by
  cases x <;> simp [kind?]

theorem kind?_eq_string_iff : x.kind? = some .string ↔ ∃ a, x = string a := by
  cases x <;> simp [kind?]

/-- Two values have an order exactly if they are of one kind. -/
theorem exists_compare?_iff :
    (∃ o, x.compare? y = some o) ↔ ∃ k, x.kind? = some k ∧ y.kind? = some k := by
  cases x <;> cases y <;> simp [compare?, kind?, Double.exists_compare?_iff, Double.position?_ofInt]

/-! ## Exchanging the arguments -/

/-- Exchanging the arguments turns the order round. -/
theorem compare?_swap (x y : Comparand) : y.compare? x = (x.compare? y).map Ordering.swap := by
  cases x <;> cases y <;> first
    | rfl
    | exact congrArg some Std.OrientedOrd.eq_swap
    | exact Double.compare?_swap _ _

/-! ## Numbers -/

/-- Numbers are ordered by their places, unless both are integers. -/
theorem compare?_of_place? {p q : Int} (hx : x.place? = some p) (hy : y.place? = some q) :
    x.compare? y = some (compare p q) ∨ ∃ m n, x = integer m ∧ y = integer n := by
  cases x <;> cases y <;> simp_all [place?, compare?, Double.compare?]

/-- Of two numbers the one that is not above the other stands no higher. -/
theorem place_le_of_compare? {p q : Int} (hx : x.place? = some p) (hy : y.place? = some q)
    (h : x.compare? y ≠ some .gt) : p ≤ q := by
  rcases compare?_of_place? hx hy with heq | ⟨m, n, rfl, rfl⟩
  · rw [heq] at h
    exact Int.compare_ne_gt.1 fun hgt => h (congrArg some hgt)
  · rw [place?, Double.position?_ofInt] at hx hy
    cases hx
    cases hy
    exact Double.place_mono (Int.compare_ne_gt.1 fun hgt => h (congrArg some hgt))

/-- The second law where a kind is ordered as it is in itself. -/
theorem compare?_ne_gt_trans {α : Type} [Ord α] [Std.TransOrd α] {f : α → Comparand}
    (hf : ∀ a b, (f a).compare? (f b) = some (compare a b)) {a b c : α}
    (hab : (f a).compare? (f b) ≠ some .gt) (hbc : (f b).compare? (f c) ≠ some .gt) :
    (f a).compare? (f c) ≠ some .gt := by
  rw [hf, Ne, Option.some_inj] at *
  exact Ordering.ne_gt_iff_isLE.2 <|
    Std.TransCmp.isLE_trans (Ordering.ne_gt_iff_isLE.1 hab) (Ordering.ne_gt_iff_isLE.1 hbc)

/-- Both integers stand where `x` stands, and the first is the greater one. -/
structure RoundedTo (m n : Int) (x : Double) : Prop where
  above : n < m
  left : (Double.ofInt m).equal x = true
  right : (Double.ofInt n).equal x = true

/-- Where three numbers break the second law, rounding has put two integers at one place. -/
theorem roundedTo_of_numbers {p q r : Int} (hx : x.place? = some p) (hy : y.place? = some q)
    (hz : z.place? = some r) (hxy : x.compare? y ≠ some .gt) (hyz : y.compare? z ≠ some .gt)
    (hxz : x.compare? z = some .gt) :
    ∃ m n d, x = integer m ∧ y = double d ∧ z = integer n ∧ RoundedTo m n d := by
  have hpq := place_le_of_compare? hx hy hxy
  have hqr := place_le_of_compare? hy hz hyz
  -- Places compare as integers do, so the outer two cannot have been compared by their places.
  rcases compare?_of_place? hx hz with heq | ⟨m, n, rfl, rfl⟩
  · rw [hxz] at heq
    have hrp := Int.compare_eq_gt.1 (Option.some.inj heq).symm
    omega
  · have hnm : n < m := Int.compare_eq_gt.1 (Option.some.inj hxz)
    rw [place?, Double.position?_ofInt] at hx hz
    cases hx
    cases hz
    have hrp := Double.place_mono (Int.le_of_lt hnm)
    -- Two integers are compared exactly.  In between there cannot be a third one, only a double on
    -- the place that both of them are rounded to.
    cases y with
    | integer k =>
      have hmk : m ≤ k := Int.compare_ne_gt.1 fun hgt => hxy (congrArg some hgt)
      have hkn : k ≤ n := Int.compare_ne_gt.1 fun hgt => hyz (congrArg some hgt)
      omega
    | double d =>
      have hd : d.position? = some q := hy
      have hmq : Double.place m = q := by omega
      have hnq : Double.place n = q := by omega
      refine ⟨m, n, d, rfl, rfl, rfl, hnm, ?left, ?right⟩
      case left => exact (Double.equal_iff _ _).2 ⟨q, hmq ▸ Double.position?_ofInt m, hd⟩
      case right => exact (Double.equal_iff _ _).2 ⟨q, hnq ▸ Double.position?_ofInt n, hd⟩
    | _ => cases hy

/-- Only numbers that are rounded together break the second law among values of one kind. -/
theorem roundedTo_of_compare? {k : Kind} (hx : x.kind? = some k) (hy : y.kind? = some k)
    (hz : z.kind? = some k) (hxy : x.compare? y ≠ some .gt) (hyz : y.compare? z ≠ some .gt)
    (hxz : x.compare? z = some .gt) :
    ∃ m n d, x = integer m ∧ y = double d ∧ z = integer n ∧ RoundedTo m n d := by
  cases k with
  | boolean =>
    obtain ⟨a, rfl⟩ := kind?_eq_boolean_iff.1 hx
    obtain ⟨b, rfl⟩ := kind?_eq_boolean_iff.1 hy
    obtain ⟨c, rfl⟩ := kind?_eq_boolean_iff.1 hz
    exact absurd hxz (compare?_ne_gt_trans (fun _ _ => rfl) hxy hyz)
  | number =>
    obtain ⟨p, hp⟩ := kind?_eq_number_iff.1 hx
    obtain ⟨q, hq⟩ := kind?_eq_number_iff.1 hy
    obtain ⟨r, hr⟩ := kind?_eq_number_iff.1 hz
    exact roundedTo_of_numbers hp hq hr hxy hyz hxz
  | dateTime =>
    obtain ⟨a, rfl⟩ := kind?_eq_dateTime_iff.1 hx
    obtain ⟨b, rfl⟩ := kind?_eq_dateTime_iff.1 hy
    obtain ⟨c, rfl⟩ := kind?_eq_dateTime_iff.1 hz
    exact absurd hxz (compare?_ne_gt_trans (fun _ _ => rfl) hxy hyz)
  | string =>
    obtain ⟨a, rfl⟩ := kind?_eq_string_iff.1 hx
    obtain ⟨b, rfl⟩ := kind?_eq_string_iff.1 hy
    obtain ⟨c, rfl⟩ := kind?_eq_string_iff.1 hz
    exact absurd hxz (compare?_ne_gt_trans (fun _ _ => rfl) hxy hyz)

end Comparand

/-! ## Optional values -/

variable {a b c : Option Value}

/-- What a comparison sees of an optional value: what is missing counts as null. -/
def sortKey (a : Option Value) : Comparand :=
  (a.map Value.comparand).getD .null

/-- The order of two optional values, where there is one. -/
def order? (a b : Option Value) : Option Ordering :=
  (sortKey a).compare? (sortKey b)

/-- A sort takes values without an order for equal. -/
theorem compareValues_eq : compareValues a b = (order? a b).getD .eq :=
  rfl

/-- So it moves a value back only where there is an order. -/
theorem compareValues_eq_gt_iff : compareValues a b = .gt ↔ order? a b = some .gt := by
  rw [compareValues_eq]
  cases order? a b <;> simp

/-- `b` has no order to `a` and `c`, of which the first is above the second. -/
structure Apart (a b c : Option Value) : Prop where
  above : order? a c = some .gt
  left : order? a b = none
  right : order? b c = none

/-- `a` and `c` are integers, the first above the second, and `b` is a double that both of them are
    rounded to. -/
def RoundedTogether (a b c : Option Value) : Prop :=
  ∃ m n x, sortKey a = .integer m ∧ sortKey b = .double x ∧ sortKey c = .integer n ∧
    Comparand.RoundedTo m n x

/-- Two values between which a third has no place are broken by it exactly if it has no order to
    them, or if it is a double to which they are rounded. -/
theorem broken_iff :
    (compareValues a b ≠ .gt ∧ compareValues b c ≠ .gt ∧ compareValues a c = .gt) ↔
      Apart a b c ∨ RoundedTogether a b c := by
  refine ⟨?broken, ?breaks⟩
  case broken =>
    rw [Ne, Ne, compareValues_eq_gt_iff, compareValues_eq_gt_iff, compareValues_eq_gt_iff]
    rintro ⟨hab, hbc, hac⟩
    obtain ⟨k, ha, hc⟩ := Comparand.exists_compare?_iff.1 ⟨_, hac⟩
    by_cases hb : (sortKey b).kind? = some k
    · obtain ⟨m, n, x, hm, hx, hn, hrounded⟩ :=
        Comparand.roundedTo_of_compare? ha hb hc hab hbc hac
      exact Or.inr ⟨m, n, x, hm, hx, hn, hrounded⟩
    · -- An order to `b` would make it one of the kind of the others.
      have hnone : ∀ l, (sortKey b).kind? = some l → l ≠ k := fun l hl heq => hb (heq ▸ hl)
      refine Or.inl ⟨hac, ?left, ?right⟩
      case left =>
        refine Option.eq_none_iff_forall_ne_some.2 fun o ho => ?_
        obtain ⟨l, hal, hbl⟩ := Comparand.exists_compare?_iff.1 ⟨o, ho⟩
        exact hnone l hbl (Option.some.inj (hal.symm.trans ha))
      case right =>
        refine Option.eq_none_iff_forall_ne_some.2 fun o ho => ?_
        obtain ⟨l, hbl, hcl⟩ := Comparand.exists_compare?_iff.1 ⟨o, ho⟩
        exact hnone l hbl (Option.some.inj (hcl.symm.trans hc))
  case breaks =>
    rintro (⟨hac, hab, hbc⟩ | ⟨m, n, x, hm, hx, hn, habove, hleft, hright⟩)
    · rw [compareValues_eq, compareValues_eq, compareValues_eq, hab, hbc, hac]
      exact ⟨nofun, nofun, rfl⟩
    · have hab : order? a b = some .eq := by
        rw [order?, hm, hx]
        exact beq_iff_eq.1 hleft
      have hbc : order? b c = some .eq := by
        rw [order?, hx, hn, Comparand.compare?, Double.compare?_swap, beq_iff_eq.1 hright]
        rfl
      have hac : order? a c = some .gt := by
        rw [order?, hm, hn]
        exact congrArg some (Int.compare_eq_gt.2 habove)
      rw [compareValues_eq, compareValues_eq, compareValues_eq, hab, hbc, hac]
      exact ⟨nofun, nofun, rfl⟩

/-- **The laws of sorting.** Exchanging two values turns their order round.  That a value not above
    a second one, which is not above a third, is not above the third fails exactly where the second
    one has no order to the others, of which the first is above the third, and where it is a double
    to which the others, integers of which the first is the greater, are both rounded. -/
theorem compareValues_laws (a b c : Option Value) :
    compareValues b a = (compareValues a b).swap ∧
      ((compareValues a b ≠ .gt → compareValues b c ≠ .gt → compareValues a c ≠ .gt) ↔
        ¬ Apart a b c ∧ ¬ RoundedTogether a b c) := by
  refine ⟨?swap, ?trans⟩
  case swap =>
    rw [compareValues_eq, compareValues_eq, order?, order?, Comparand.compare?_swap (sortKey a)]
    cases (sortKey a).compare? (sortKey b) <;> rfl
  case trans =>
    rw [← not_or, ← broken_iff]
    exact ⟨fun h hbroken => h hbroken.1 hbroken.2.1 hbroken.2.2,
      fun h hab hbc hac => h ⟨hab, hbc, hac⟩⟩

/-- A missing value is above neither of two integers and both are not above it, and so it is with
    the double 2⁵³ between 2⁵³ + 1 and 2⁵³. -/
theorem compareValues_not_transitive :
    (compareValues (some (.int32 2)) none ≠ .gt ∧ compareValues none (some (.int32 1)) ≠ .gt ∧
      compareValues (some (.int32 2)) (some (.int32 1)) = .gt) ∧
    (compareValues (some (.int64 9007199254740993)) (some (.double ⟨0x4340000000000000⟩)) ≠ .gt ∧
      compareValues (some (.double ⟨0x4340000000000000⟩)) (some (.int64 9007199254740992)) ≠ .gt ∧
      compareValues (some (.int64 9007199254740993)) (some (.int64 9007199254740992)) = .gt) := by
  decide +kernel

end DocStore
