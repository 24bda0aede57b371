/-
  How the comparisons of one field hang together.

  The comparisons of the query language are not independent of each other.  Membership should be
  equality with something that is listed, and the inclusive comparisons should hold where the strict
  ones or equality do.  Both rules have an exception.

  A field that is an array is not a member as a whole: only its items are compared with what is
  listed.  So a field can equal a listed array without being a member, and
  `membership_covers_equality_iff` says that no other field can.

  Equality is told of all kinds, order only of some (`Value.Kind.ordered`).  Two nulls, two arrays
  or two documents can be equal, but none of them is at least or at most the other.
  `inclusive_is_union_iff_ordered` says that the inclusive comparisons miss nothing else.  For the
  rest, order and equality agree wherever there is an order (`Value.equals_iff_of_order?`).
-/
import DocStore.Proofs.Comparand.Kinds
import DocStore.Proofs.Query.Meaning

namespace DocStore

/-! ## Tests of one path -/

namespace Expr

variable {doc : Document} {path : String}

/-- Where there is no value, exactly the two negations hold. -/
theorem matches_of_missing (h : doc.lookup path = none) (op : FieldOp) (literal : Value) :
    (Expr.field path op literal).matches doc = true ↔ op = .ne ∨ op = .noneOf := by
  rw [Expr.matches, h]
  exact FieldOp.holds_none op literal

/-- The test for not being a member holds exactly where the one for being a member does not. -/
theorem matches_noneOf_iff (doc : Document) (path : String) (operand : Value) :
    (Expr.field path .noneOf operand).matches doc = true ↔
      ¬ (Expr.field path .oneOf operand).matches doc = true := by
  cases h : doc.lookup path with
  | none => simp [matches_of_missing h]
  | some x =>
    rw [Bool.not_eq_true, ← Bool.not_eq_true', matches_of_lookup h, matches_of_lookup h]
    exact Iff.rfl

end Expr

/-! ## Membership -/

namespace Query

/-- One of the values equals something that the operand lists. -/
def Meets (items : List Value) (operand : Value) : Prop :=
  ∃ item ∈ items, ∃ candidate ∈ listed operand, item.equals candidate = true

/-- A value is a member if one of its items, or else the value itself, equals something listed. -/
theorem member_iff (x operand : Value) : Member x operand ↔ Meets (listed x) operand := by
  refine exists_congr fun item => and_congr_right fun _ => ?_
  refine exists_congr fun candidate => and_congr_right fun _ => ?_
  rw [Value.equals_comm]

/-- One value meets an operand that lists something equal to it. -/
theorem meets_singleton_iff (x operand : Value) :
    Meets [x] operand ↔ ∃ candidate ∈ listed operand, x.equals candidate = true := by
  simp [Meets]

/-- What is no array lists itself. -/
theorem listed_of_ne_array {x : Value} (h : ∀ items, x ≠ .array items) : listed x = [x] := by
  cases x with
  | array items => exact absurd rfl (h items)
  | _ => rfl

end Query

namespace Expr

variable {doc : Document} {path : String} {x : Value}

/-- Membership asks whether the lists meet. -/
theorem matches_oneOf_iff (h : doc.lookup path = some x) (operand : Value) :
    (Expr.field path .oneOf operand).matches doc = true ↔
      Query.Meets (Query.listed x) operand := by
  rw [matches_of_lookup h, ← Query.member_iff]
  exact Value.isMember_iff x operand

/-- Equality with one of the values listed asks whether the value itself is met. -/
theorem equals_listed_iff (h : doc.lookup path = some x) (operand : Value) :
    (∃ candidate ∈ Query.listed operand,
        (Expr.field path .eq candidate).matches doc = true) ↔
      Query.Meets [x] operand := by
  rw [Query.meets_singleton_iff]
  refine exists_congr fun candidate => and_congr_right fun _ => ?_
  rw [matches_of_lookup h]
  exact Iff.rfl

/-- A field that is no array is a member exactly if it equals something listed. -/
theorem matches_oneOf_iff_of_ne_array (h : ∀ items, doc.lookup path ≠ some (.array items))
    (operand : Value) :
    (Expr.field path .oneOf operand).matches doc = true ↔
      ∃ candidate ∈ Query.listed operand, (Expr.field path .eq candidate).matches doc = true := by
  cases hlookup : doc.lookup path with
  | none => simp [matches_of_missing hlookup]
  | some x =>
    have hlisted : Query.listed x = [x] :=
      Query.listed_of_ne_array fun items heq => h items (heq ▸ hlookup)
    rw [matches_oneOf_iff hlookup, equals_listed_iff hlookup, hlisted]

end Expr

/-- **Membership covers equality, but for whole arrays.**  A field that equals something that is
    listed is a member, and passes no test for not being one, exactly unless it is an array that
    equals something listed as a whole while none of its items does.  A field that is no array is a
    member exactly if it equals something listed, an array exactly if one of its items does. -/
theorem membership_covers_equality_iff (doc : Document) (path : String) (operand : Value) :
    let equal := ∃ candidate ∈ Query.listed operand,
      (Expr.field path .eq candidate).matches doc = true
    let member := (Expr.field path .oneOf operand).matches doc = true
    let stranger := (Expr.field path .noneOf operand).matches doc = true
    ((equal → member ∧ ¬ stranger) ↔
      ∀ items, doc.lookup path = some (.array items) → equal → Query.Meets items operand) ∧
    ((∀ items, doc.lookup path ≠ some (.array items)) → (member ↔ equal)) ∧
    (∀ items, doc.lookup path = some (.array items) →
      (member ↔ Query.Meets items operand)) ∧
    (stranger ↔ ¬ member) := by
  intro equal member stranger
  have hstranger : stranger ↔ ¬ member := Expr.matches_noneOf_iff doc path operand
  have hother : (∀ items, doc.lookup path ≠ some (.array items)) → (member ↔ equal) :=
    fun hno => Expr.matches_oneOf_iff_of_ne_array hno operand
  have harray : ∀ items, doc.lookup path = some (.array items) →
      (member ↔ Query.Meets items operand) :=
    fun items hlookup => Expr.matches_oneOf_iff hlookup operand
  refine ⟨⟨?covered, ?covers⟩, hother, harray, hstranger⟩
  case covered => exact fun h items hlookup hequal => (harray items hlookup).1 (h hequal).1
  case covers =>
    intro h hequal
    -- Only an array in the field makes membership look at items.
    have hmember : member := by
      by_cases hitems : ∃ items, doc.lookup path = some (.array items)
      · obtain ⟨items, hlookup⟩ := hitems
        exact (harray items hlookup).2 (h items hlookup hequal)
      · exact (hother fun items hlookup => hitems ⟨items, hlookup⟩).2 hequal
    exact ⟨hmember, fun hout => hstranger.1 hout hmember⟩

/-- A field that is an array equals a listed array and passes for a stranger. -/
theorem listed_array_is_stranger :
    let doc : Document := [("x", .array [.int32 1, .int32 2])]
    let operand := Value.array [.array [.int32 1, .int32 2]]
    (Expr.field "x" .eq (.array [.int32 1, .int32 2])).matches doc = true ∧
    (Expr.field "x" .oneOf operand).matches doc = false ∧
    (Expr.field "x" .noneOf operand).matches doc = true := by
  decide

/-! ## Inclusive comparisons

  They are computed from the order of two values, equality is not.  So the question is where equal
  values have an order, which depends on their kind. -/

namespace Value

/-- The kinds whose values have an order. -/
def Kind.ordered : Kind → Bool
  | .boolean | .number | .string | .dateTime => true
  | _ => false

/-- What counts as null has no order, and neither does null. -/
theorem Kind.ordered_seen (kind : Kind) : kind.seen.ordered = kind.ordered := by
  cases kind <;> rfl

end Value

namespace Comparand

variable {x y : Comparand} {o : Ordering}

/-- Where there is an order, it agrees with equality. -/
theorem equal_iff_of_compare? (h : x.compare? y = some o) : x.equal y = true ↔ o = .eq := by
  cases x <;> cases y <;> simp_all [compare?, equal, Double.equal]
  all_goals rw [← h, Std.compare_eq_iff_eq]

/-- Between equal values there is an order exactly if their kind has one. -/
theorem exists_compare?_iff_of_equal (h : x.equal y = true) :
    (∃ o, x.compare? y = some o) ↔ y.seenKind.ordered = true := by
  cases x <;> cases y <;> simp_all [compare?, equal, Double.equal, seenKind, Value.Kind.ordered]

end Comparand

namespace Value

variable {x y : Value} {o : Ordering}

/-- Where two values have an order, they are equal exactly if neither stands in front. -/
theorem equals_iff_of_order? (h : Query.order? x y = some o) : x.equals y = true ↔ o = .eq :=
  Comparand.equal_iff_of_compare? h

/-- Equal values are ordered as equal exactly if their kind has an order. -/
theorem order?_eq_eq_iff :
    Query.order? x y = some .eq ↔ x.equals y = true ∧ y.kind.ordered = true := by
  rw [← Kind.ordered_seen, ← seenKind_comparand]
  constructor
  · intro h
    have hequal := (equals_iff_of_order? h).2 rfl
    exact ⟨hequal, (Comparand.exists_compare?_iff_of_equal hequal).1 ⟨_, h⟩⟩
  · rintro ⟨hequal, hordered⟩
    obtain ⟨o, h⟩ := (Comparand.exists_compare?_iff_of_equal hequal).2 hordered
    rw [← (equals_iff_of_order? h).1 hequal]
    exact h

/-- To be ordered strictly or as equal is to be ordered strictly or equal, exactly where equality
    comes with an order. -/
theorem inclusive_iff (ho : o ≠ .eq) :
    ((Query.order? x y = some o ∨ Query.order? x y = some .eq) ↔
        (Query.order? x y = some o ∨ x.equals y = true)) ↔
      (x.equals y = true → y.kind.ordered = true) := by
  rw [order?_eq_eq_iff]
  constructor
  · intro h hequal
    rcases h.2 (Or.inr hequal) with hstrict | ⟨-, hordered⟩
    · exact absurd ((equals_iff_of_order? hstrict).1 hequal) ho
    · exact hordered
  · exact fun h => or_congr_right (and_iff_left_of_imp h)

end Value

namespace FieldOp

variable {x literal : Value}

theorem holds_gt_iff : FieldOp.gt.holds (some x) literal = true ↔
    Query.order? x literal = some .gt := by
  simp [holds, Query.order?]

/-- Greater or equal is to stand behind it or beside it, where there is an order. -/
theorem holds_gte_iff : FieldOp.gte.holds (some x) literal = true ↔
    Query.order? x literal = some .gt ∨ Query.order? x literal = some .eq := by
  simp [holds, Query.order?]

theorem holds_lt_iff : FieldOp.lt.holds (some x) literal = true ↔
    Query.order? x literal = some .lt := by
  simp [holds, Query.order?]

theorem holds_lte_iff : FieldOp.lte.holds (some x) literal = true ↔
    Query.order? x literal = some .lt ∨ Query.order? x literal = some .eq := by
  simp [holds, Query.order?]

end FieldOp

/-- **The inclusive comparisons are the strict ones and equality, where there is an order.**  Each
    of the two holds exactly where the strict one or equality does, exactly unless the field equals
    a literal of a kind without an order.  At most one of less, equal and greater holds, and where
    both inclusive comparisons hold, equality does. -/
theorem inclusive_is_union_iff_ordered (doc : Document) (path : String) (literal : Value) :
    let test := fun op => (Expr.field path op literal).matches doc = true
    ((test .gte ↔ test .gt ∨ test .eq) ↔ (test .eq → literal.kind.ordered = true)) ∧
    ((test .lte ↔ test .lt ∨ test .eq) ↔ (test .eq → literal.kind.ordered = true)) ∧
    (¬ (test .lt ∧ test .eq) ∧ ¬ (test .eq ∧ test .gt) ∧ ¬ (test .lt ∧ test .gt)) ∧
    (test .lte → test .gte → test .eq) := by
  intro test
  cases hlookup : doc.lookup path with
  | none =>
    -- A field that is missing passes the two negated comparisons only.
    have hno : ∀ op, test op ↔ op = .ne ∨ op = .noneOf :=
      fun op => Expr.matches_of_missing hlookup op literal
    simp [hno]
  | some x =>
    -- For a field that is there, every comparison is one of orders and equality.
    have htest : ∀ op, test op ↔ op.holds (some x) literal = true := by
      intro op
      show (Expr.field path op literal).matches doc = true ↔ _
      rw [Expr.matches_of_lookup hlookup]
    simp only [htest, FieldOp.holds_gte_iff, FieldOp.holds_gt_iff, FieldOp.holds_lte_iff,
      FieldOp.holds_lt_iff, FieldOp.holds_eq]
    refine ⟨Value.inclusive_iff (by decide), Value.inclusive_iff (by decide), ⟨?_, ?_, ?_⟩, ?_⟩
    · rintro ⟨hless, hequal⟩
      cases (Value.equals_iff_of_order? hless).1 hequal
    · rintro ⟨hequal, hgreater⟩
      cases (Value.equals_iff_of_order? hgreater).1 hequal
    · rintro ⟨hless, hgreater⟩
      cases hless.symm.trans hgreater
    · rintro hmost hleast
      rcases hmost with hless | heq
      · rcases hleast with hgreater | heq
        · cases hless.symm.trans hgreater
        · cases hless.symm.trans heq
      · exact (Value.equals_iff_of_order? heq).2 rfl

/-- Null equals null and is neither at least nor at most null. -/
theorem null_is_not_at_least_null :
    let doc : Document := [("x", .null)]
    (Expr.field "x" .eq .null).matches doc = true ∧
    (Expr.field "x" .gte .null).matches doc = false ∧
    (Expr.field "x" .lte .null).matches doc = false := by
  decide

end DocStore
