/-
  Spellings of a value.

  One value can be spelled in many ways: the fields of a document can stand in any order, and an
  integer can be held in either of two widths, at every depth.  `Value.Respelled` is this relation,
  as the closure of single changes.  It does not say how a second spelling can be recognised.  The
  normal form does: `Value.respelled_iff` says that two values, neither of which repeats a key, are
  spellings of one value exactly if their normal forms are equal.

  One half is an induction on the changes: none of them touches the normal form
  (`Value.Respelled.normal_eq`).  The other half carries the changes out: a value can be brought
  into its normal form part by part (`Value.respelled_normal`).

  The normal form has the comparand of the value, so comparisons see no spelling at all
  (`Value.Respelled.comparand_eq`).
-/
import DocStore.Proofs.Comparand.Normal
import DocStore.Proofs.Document.Distinct

namespace DocStore

namespace Value

/-- Two values that differ, at any depth, in nothing but the order of fields and the width of
    integers. -/
inductive Respelled : Value → Value → Prop
  | widened (n : Int32) : Respelled (int32 n) (int64 n.toInt64)
  | reordered {fields others : Document} (distinct : Entries.Distinct fields)
      (perm : fields.Perm others) : Respelled (document fields) (document others)
  | item (before after : List Value) {x y : Value} (h : Respelled x y) :
      Respelled (array (before ++ x :: after)) (array (before ++ y :: after))
  | field (before : Document) (key : String) (after : Document) {x y : Value}
      (h : Respelled x y) :
      Respelled (document (before ++ (key, x) :: after)) (document (before ++ (key, y) :: after))
  /-- The names that code uses make a document, too. -/
  | scope (s : String) {fields others : Document}
      (h : Respelled (document fields) (document others)) :
      Respelled (codeWithScope s fields) (codeWithScope s others)
  | refl (x : Value) : Respelled x x
  | symm {x y : Value} (h : Respelled x y) : Respelled y x
  | trans {x y z : Value} (h : Respelled x y) (h' : Respelled y z) : Respelled x z

/-! ## No change touches the normal form -/

theorem ordered_normalFields (fields : Document) : (normalFields fields).Ordered := by
  induction fields with
  | nil => exact Entries.Ordered.nil
  | cons field rest ih => exact ih.place field.1 field.2.normal

theorem get?_normalFields (fields : Document) (key : String) :
    (normalFields fields).get? key = (fields.get? key).map normal := by
  induction fields with
  | nil => rfl
  | cons field rest ih =>
    obtain ⟨k, v⟩ := field
    rw [normalFields, Entries.get?_cons]
    by_cases hk : k = key
    · rw [if_pos hk, hk, Entries.get?_place_self]
      rfl
    · rw [if_neg hk, Entries.get?_place_of_ne _ _ hk, ih]

/-- An item may be spelled in another way. -/
theorem normalItems_congr (before after : List Value) {x y : Value} (h : x.normal = y.normal) :
    normalItems (before ++ x :: after) = normalItems (before ++ y :: after) := by
  induction before with
  | nil => exact congrArg (· :: normalItems after) h
  | cons item rest ih => exact congrArg (item.normal :: ·) ih

theorem normalFields_congr (before : Document) (key : String) (after : Document) {x y : Value}
    (h : x.normal = y.normal) :
    normalFields (before ++ (key, x) :: after) = normalFields (before ++ (key, y) :: after) := by
  induction before with
  | nil => exact congrArg ((normalFields after).place key) h
  | cons field rest ih => exact congrArg (Entries.place · field.1 field.2.normal) ih

/-- Without repeated keys, the order of fields has no influence on their normal form. -/
theorem normalFields_of_perm {fields others : Document} (distinct : Entries.Distinct fields)
    (perm : fields.Perm others) : normalFields fields = normalFields others := by
  refine Entries.Ordered.ext (ordered_normalFields _) (ordered_normalFields _) fun key => ?_
  rw [get?_normalFields, get?_normalFields, distinct.get?_of_perm perm]

/-- Whatever is spelled in another way has the same normal form. -/
theorem Respelled.normal_eq {x y : Value} (h : x.Respelled y) : x.normal = y.normal := by
  induction h with
  | widened n => rfl
  | reordered distinct perm => exact congrArg document (normalFields_of_perm distinct perm)
  | item before after _ ih => exact congrArg array (normalItems_congr before after ih)
  | field before key after _ ih => exact congrArg document (normalFields_congr before key after ih)
  | scope s _ ih => exact congrArg (codeWithScope s) (document.inj ih)
  | refl x => rfl
  | symm _ ih => exact ih.symm
  | trans _ _ ih ih' => exact ih.trans ih'

/-- Comparisons do not see in which spelling they are given a value. -/
theorem Respelled.comparand_eq {x y : Value} (h : x.Respelled y) : x.comparand = y.comparand := by
  rw [← comparand_normal x, h.normal_eq, comparand_normal]

/-! ## The way into the normal form -/

/-- Without repeated keys, taking the normal form is to take it of each value and to put the fields
    in order. -/
theorem normalFields_perm {fields : Document} (distinct : Entries.Distinct fields) :
    (fields.map fun field => (field.1, field.2.normal)).Perm (normalFields fields) := by
  induction fields with
  | nil => exact .refl _
  | cons field rest ih =>
    obtain ⟨key, value⟩ := field
    obtain ⟨hnew, hrest⟩ := Entries.distinct_cons_iff.1 distinct
    have hfree : (normalFields rest).get? key = none := by
      rw [get?_normalFields, hnew]
      rfl
    exact ((ih hrest).cons _).trans (Entries.place_perm value.normal hfree).symm

theorem distinct_map_normal {fields : Document} (distinct : Entries.Distinct fields) :
    Entries.Distinct (fields.map fun field => (field.1, field.2.normal)) := by
  rw [Entries.Distinct, Entries.keys, List.map_map]
  exact distinct

mutual

/-- Every value that repeats no key can be respelled into its normal form. -/
theorem respelled_normal : ∀ x : Value, x.Distinct → x.Respelled x.normal
  | int32 n, _ => .widened n
  | array items, h => respelled_items [] items h
  | document fields, h =>
    .trans (respelled_fields [] fields h.2)
      (.reordered (distinct_map_normal h.1) (normalFields_perm h.1))
  | codeWithScope s scope, h =>
    .scope s (.trans (respelled_fields [] scope h.2)
      (.reordered (distinct_map_normal h.1) (normalFields_perm h.1)))
  | null, _ | bool _, _ | int64 _, _ | double _, _ | dateTime _, _ | string _, _ | objectId _, _
  | undefined, _ | minKey, _ | maxKey, _ | regex _ _, _ | timestamp _ _, _ | binary _ _, _
  | symbol _, _ | code _, _ | decimal _, _ | pointer _ _, _ => .refl _

/-- Items are respelled one after another, those in front first. -/
theorem respelled_items : ∀ before items : List Value, DistinctItems items →
    Respelled (array (before ++ items)) (array (before ++ normalItems items))
  | before, [], _ => .refl _
  | before, x :: rest, h => by
    have hfirst : Respelled (array (before ++ x :: rest)) (array (before ++ x.normal :: rest)) :=
      .item before rest (respelled_normal x h.1)
    have hrest := respelled_items (before ++ [x.normal]) rest h.2
    rw [List.append_assoc, List.append_assoc] at hrest
    exact hfirst.trans hrest

/-- So are the values of fields. -/
theorem respelled_fields : ∀ before fields : Document, DistinctFields fields →
    Respelled (document (before ++ fields))
      (document (before ++ fields.map fun field => (field.1, field.2.normal)))
  | before, [], _ => .refl _
  | before, (key, x) :: rest, h => by
    have hfirst : Respelled (document (before ++ (key, x) :: rest))
        (document (before ++ (key, x.normal) :: rest)) :=
      .field before key rest (respelled_normal x h.1)
    have hrest := respelled_fields (before ++ [(key, x.normal)]) rest h.2
    rw [List.append_assoc, List.append_assoc] at hrest
    exact hfirst.trans hrest

end

/-- **Spellings of one value have one normal form.**  Two values, neither of which repeats a key,
    differ in nothing but spelling exactly if their normal forms are equal. -/
theorem respelled_iff {x y : Value} (hx : x.Distinct) (hy : y.Distinct) :
    x.Respelled y ↔ x.normal = y.normal := by
  constructor
  · exact Respelled.normal_eq
  · intro h
    have hxy : x.Respelled y.normal := h ▸ respelled_normal x hx
    exact hxy.trans (respelled_normal y hy).symm

end Value

end DocStore
