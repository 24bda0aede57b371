/-
  Which values of different kinds are equal.

  Values of different kinds should never be equal, and neither should an array or a document with
  one of them inside be equal to the same with the other one in its place.  For most pairs of kinds
  this is so.  But only seven kinds have a comparison of their own, and a value of any other kind
  counts as null: it is equal to null and to everything else that counts as null.

  `kinds_apart_iff_not_both_null` says that this is the only way to break the rule, at every depth.
  It also says what this does within one kind: without doubles inside, values that are equal differ,
  beyond their spelling, in nothing but parts that count as null.

  A place inside a value is a list of frames, each an array or a document with one place left open.
  What is equal in a frame is equal without it (`equals_of_frame`), so it does not matter how deep
  the place is (`equals_of_fill`).
-/
import DocStore.Proofs.Comparand.Equality
import DocStore.Proofs.Comparand.Normal
import DocStore.Query.Matching

namespace DocStore

/-! ## Kinds that comparisons tell apart -/

/-- The kind that a comparison takes values of a kind for. -/
def Value.Kind.seen (kind : Kind) : Kind :=
  if kind.compared then kind else .null

/-- A kind is seen as itself or as null. -/
theorem Value.Kind.seen_eq_or (kind : Kind) : kind.seen = kind ∨ kind.seen = .null := by
  rw [seen]
  split
  · exact Or.inl rfl
  · exact Or.inr rfl

/-- The kind of the values that have this comparand. -/
def Comparand.seenKind : Comparand → Value.Kind
  | null => .null
  | bool _ => .boolean
  | integer _ => .number
  | double _ => .number
  | dateTime _ => .dateTime
  | string _ => .string
  | array _ => .array
  | map _ => .document

/-- What is equal is seen as one kind. -/
theorem Comparand.seenKind_of_equal {x y : Comparand} (h : x.equal y = true) :
    x.seenKind = y.seenKind := by
  cases x <;> cases y <;> simp [equal, seenKind] at h ⊢

namespace Value

theorem seenKind_comparand (x : Value) : x.comparand.seenKind = x.kind.seen := by
  cases x <;> rfl

/-- The value is null, or it is of a kind without a comparison of its own. -/
def CountsAsNull (x : Value) : Prop :=
  x.kind = .null ∨ x.kind.compared = false

instance (x : Value) : Decidable x.CountsAsNull :=
  inferInstanceAs (Decidable (_ ∨ _))

theorem countsAsNull_iff (x : Value) : x.CountsAsNull ↔ x.kind.seen = .null := by
  rw [CountsAsNull, Kind.seen]
  cases hkind : x.kind.compared with
  | true => simp
  | false => simp

/-- It is compared as null is. -/
theorem comparand_of_countsAsNull {x : Value} (h : x.CountsAsNull) : x.comparand = .null := by
  cases x <;> simp [CountsAsNull, kind, Kind.compared, comparand] at h ⊢

/-- Values of different kinds are equal exactly if both count as null. -/
theorem equals_across_kinds {x y : Value} (hkind : x.kind ≠ y.kind) :
    x.equals y = true ↔ x.CountsAsNull ∧ y.CountsAsNull := by
  constructor
  · intro h
    have hseen := Comparand.seenKind_of_equal h
    rw [seenKind_comparand, seenKind_comparand] at hseen
    rw [countsAsNull_iff, countsAsNull_iff]
    rcases x.kind.seen_eq_or with hx | hx
    · rcases y.kind.seen_eq_or with hy | hy
      · -- Two kinds that are seen as they are would be the same.
        rw [hx, hy] at hseen
        exact absurd hseen hkind
      · exact ⟨hseen.trans hy, hy⟩
    · exact ⟨hx, hseen.symm.trans hx⟩
  · rintro ⟨hx, hy⟩
    rw [equals, comparand_of_countsAsNull hx, comparand_of_countsAsNull hy]
    rfl

/-! ## Places inside a value -/

/-- An array or a document with one place left open.  No field in front of the open one has its
    key. -/
inductive Frame where
  | item (before after : List Value)
  | field (before : Document) (key : String) (after : Document)
      (fresh : before.get? key = none)

/-- The array or document with a value in the open place. -/
def Frame.fill : Frame → Value → Value
  | item before after, x => array (before ++ x :: after)
  | field before key after _, x => document (before ++ (key, x) :: after)

/-- A value in the open place of the first frame, this in the open place of the next one, and so
    on. -/
def fill (frames : List Frame) (x : Value) : Value :=
  frames.foldl (fun inner frame => frame.fill inner) x

/-- Arrays that are equal up to one place are equal there. -/
theorem equals_of_equalItems {before after : List Value} {x y : Value}
    (h : Comparand.equalItems (comparandItems (before ++ x :: after))
      (comparandItems (before ++ y :: after)) = true) : x.equals y = true := by
  induction before with
  | nil => exact (Bool.and_eq_true_iff.1 h).1
  | cons item rest ih => exact ih (Bool.and_eq_true_iff.1 h).2

theorem get?_open {before : Document} {key : String} (fresh : before.get? key = none)
    (after : Document) (x : Value) :
    Entries.get? (before ++ (key, x) :: after) key = some x := by
  induction before with
  | nil => exact if_pos rfl
  | cons field rest ih =>
    obtain ⟨k, v⟩ := field
    rw [Entries.get?_cons] at fresh
    by_cases hk : k = key
    · rw [if_pos hk] at fresh
      cases fresh
    · rw [if_neg hk] at fresh
      rw [List.cons_append, Entries.get?_cons, if_neg hk, ih fresh]

/-- What is equal in a frame is equal without it. -/
theorem equals_of_frame (frame : Frame) {x y : Value}
    (h : (frame.fill x).equals (frame.fill y) = true) : x.equals y = true := by
  cases frame with
  | item before after => exact equals_of_equalItems h
  | field before key after fresh =>
    have hget : ∀ z : Value, (comparandFields (before ++ (key, z) :: after)).get? key =
        some z.comparand := by
      intro z
      rw [get?_comparandFields, get?_open fresh]
      rfl
    obtain ⟨c, hc, heq⟩ := Comparand.exists_of_equalEntries h (hget x)
    rw [hget y] at hc
    cases hc
    exact heq

/-- If two values are equal inside the same surroundings, they are equal. -/
theorem equals_of_fill (frames : List Frame) {x y : Value}
    (h : (fill frames x).equals (fill frames y) = true) : x.equals y = true := by
  induction frames generalizing x y with
  | nil => exact h
  | cons frame rest ih => exact equals_of_frame frame (ih h)

end Value

/-! ## Tests for equality -/

/-- What a comparison says of the value at a path. -/
theorem Expr.matches_of_lookup {doc : Document} {path : String} {x : Value}
    (h : doc.lookup path = some x) (op : FieldOp) (y : Value) :
    (Expr.field path op y).matches doc = op.holds (some x) y := by
  rw [Expr.matches, h]

theorem FieldOp.holds_eq (x y : Value) : FieldOp.eq.holds (some x) y = x.equals y :=
  rfl

/-- **Values of different kinds are equal only as null.**  Two values of different kinds, wherever
    in a value they stand, keep a field from passing the test for equality with the same value with
    the other one in its place, exactly unless both of them count as null.  And a field without
    doubles passes the test for equality with a value without doubles exactly if the two, with null
    in the place of everything that counts as null, differ in nothing but the order of fields and
    the width of integers. -/
theorem kinds_apart_iff_not_both_null (x y : Value) :
    (x.kind ≠ y.kind →
      ((∀ frames doc path, doc.lookup path = some (Value.fill frames x) →
          (Expr.field path .eq (Value.fill frames y)).matches doc = false) ↔
        ¬ (x.CountsAsNull ∧ y.CountsAsNull))) ∧
    (x.DoubleFree → y.DoubleFree → ∀ doc path, doc.lookup path = some x →
      ((Expr.field path .eq y).matches doc = true ↔ x.faded.normal = y.faded.normal)) := by
  refine ⟨?across, ?within⟩
  case across =>
    intro hkind
    rw [← Value.equals_across_kinds hkind, Bool.not_eq_true]
    constructor
    · intro h
      -- One document without frames is enough to tell the two values apart.
      have hlookup : Document.lookup [("x", x)] "x" = some x := rfl
      have hfalse := h [] [("x", x)] "x" hlookup
      rwa [Expr.matches_of_lookup hlookup] at hfalse
    · intro hne frames doc path hlookup
      rw [Expr.matches_of_lookup hlookup, FieldOp.holds_eq, ← Bool.not_eq_true]
      intro h
      -- Equality inside frames comes down to equality of what fills them.
      rw [Value.equals_of_fill frames h] at hne
      cases hne
  case within =>
    intro hx hy doc path hlookup
    rw [Expr.matches_of_lookup hlookup, FieldOp.holds_eq]
    exact Value.equals_iff_faded hx hy

/-- An object identifier passes for null, and for any other object identifier. -/
theorem objectIds_pass_for_null :
    (Expr.field "x" .eq (.objectId 1)).matches [("x", .null)] = true ∧
    (Expr.field "x" .eq (.objectId 1)).matches [("x", .objectId 2)] = true ∧
    (Expr.field "x" .eq (.array [.objectId 1])).matches [("x", .array [.null])] = true := by
  decide

end DocStore
