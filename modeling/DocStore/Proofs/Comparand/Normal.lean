/-
  Equality up to spelling.

  One value can be spelled in several ways: an integer in either of its widths, and the fields of a
  document in any order.  `Value.normal` is the spelling with wide integers and fields in key order,
  so two values differ in nothing but spelling exactly if their normal forms are equal.

  Comparisons do not see the spelling (`Value.comparand_normal`), and that is as it should be.  But
  neither do they see more of a value of most kinds than that it is there: only the kinds of which
  `Value.Kind.compared` holds have a comparison of their own, and all other values count as null.
  `Value.faded` puts null in their place.

  There is nothing else that equality overlooks, as long as no double is rounded: without doubles,
  two values are equal exactly if they are the same up to spelling once the kinds without a
  comparison have faded (`Value.equals_iff_faded`).  This comes from reading a comparand back:
  `Comparand.toValue` recovers from it the faded value in its normal form.  With doubles, equality
  still goes on through every value that has none itself (`Value.equals_trans`).
-/
import DocStore.Proofs.Comparand.Equality

namespace DocStore

/-! ## Kinds of values -/

/-- The kinds of values.  Numbers are one kind, whatever they are held as. -/
inductive Value.Kind where
  | null | boolean | number | string | dateTime | array | document | objectId | undefined | minKey
  | maxKey | regex | timestamp | binary | symbol | code | codeWithScope | decimal | pointer
deriving DecidableEq, Repr

namespace Value

/-- The kind of a value. -/
def kind : Value → Kind
  | null => .null
  | bool _ => .boolean
  | int32 _ => .number
  | int64 _ => .number
  | double _ => .number
  | dateTime _ => .dateTime
  | string _ => .string
  | array _ => .array
  | document _ => .document
  | objectId _ => .objectId
  | undefined => .undefined
  | minKey => .minKey
  | maxKey => .maxKey
  | regex _ _ => .regex
  | timestamp _ _ => .timestamp
  | binary _ _ => .binary
  | symbol _ => .symbol
  | code _ => .code
  | codeWithScope _ _ => .codeWithScope
  | decimal _ => .decimal
  | pointer _ _ => .pointer

/-- Whether values of a kind have a comparison of their own. -/
def Kind.compared : Kind → Bool
  | .null | .boolean | .number | .string | .dateTime | .array | .document => true
  | _ => false

/-! ## Spelling -/

mutual

/-- The value with wide integers and with fields in key order. -/
def normal : Value → Value
  | int32 n => int64 n.toInt64
  | array items => array (normalItems items)
  | document fields => document (normalFields fields)
  | codeWithScope s scope => codeWithScope s (normalFields scope)
  | value => value

def normalItems : List Value → List Value
  | [] => []
  | item :: rest => item.normal :: normalItems rest

/-- Of fields with one key the first counts. -/
def normalFields : List (String × Value) → Entries Value
  | [] => []
  | (key, value) :: rest => (normalFields rest).place key value.normal

end

mutual

/-- The value with null in the place of everything without a comparison of its own. -/
def faded : Value → Value
  | array items => array (fadedItems items)
  | document fields => document (fadedFields fields)
  | value => if value.kind.compared then value else null

def fadedItems : List Value → List Value
  | [] => []
  | item :: rest => item.faded :: fadedItems rest

def fadedFields : List (String × Value) → List (String × Value)
  | [] => []
  | (key, value) :: rest => (key, value.faded) :: fadedFields rest

end

mutual

/-- No double is inside the value where a comparison could see it. -/
def DoubleFree : Value → Prop
  | double _ => False
  | array items => DoubleFreeItems items
  | document fields => DoubleFreeFields fields
  | _ => True

def DoubleFreeItems : List Value → Prop
  | [] => True
  | item :: rest => DoubleFree item ∧ DoubleFreeItems rest

def DoubleFreeFields : List (String × Value) → Prop
  | [] => True
  | (_, value) :: rest => DoubleFree value ∧ DoubleFreeFields rest

end

/-! ## Fields as comparisons see them

  A document is compared as its entries in key order.  Such entries are determined by what they
  show under each key, which is how the lemmas about them are proved. -/

/-- The fields of a document are compared in key order. -/
theorem ordered_comparandFields (fields : List (String × Value)) :
    (comparandFields fields).Ordered := by
  induction fields with
  | nil => exact Entries.Ordered.nil
  | cons field rest ih => exact ih.place field.1 field.2.comparand

/-- Under every key stands the comparand of the value that the document shows there. -/
theorem get?_comparandFields (fields : Document) (key : String) :
    (comparandFields fields).get? key = (fields.get? key).map comparand := by
  induction fields with
  | nil => rfl
  | cons field rest ih =>
    obtain ⟨k, v⟩ := field
    rw [comparandFields, Entries.get?_cons]
    by_cases hk : k = key
    · -- Placed last of all, the first field with the key is the one that is found.
      rw [if_pos hk, hk, Entries.get?_place_self]
      rfl
    · rw [if_neg hk, Entries.get?_place_of_ne _ _ hk, ih]

/-- Fields in key order have their comparands in key order. -/
theorem comparandFields_place (fields : Document) (key : String) (value : Value) :
    comparandFields (fields.place key value) =
      (comparandFields fields).place key value.comparand := by
  -- Both sides are in key order, so it is enough that they show the same under every key.
  refine Entries.Ordered.ext (ordered_comparandFields _)
    ((ordered_comparandFields fields).place _ _) fun other => ?_
  rw [get?_comparandFields]
  by_cases hkey : key = other
  · rw [hkey, Entries.get?_place_self, Entries.get?_place_self]
    rfl
  · rw [Entries.get?_place_of_ne _ _ hkey, Entries.get?_place_of_ne _ _ hkey,
      get?_comparandFields]

/-! ## What comparisons do not see

  Two ways to change a value without a comparison noticing: spelling it in normal form, and
  putting null in the place of what is not compared. -/

mutual

/-- Comparisons do not see the spelling. -/
theorem comparand_normal : ∀ x : Value, x.normal.comparand = x.comparand
  | int32 n => congrArg Comparand.integer (Int32.toInt_toInt64 n)
  | array items => congrArg Comparand.array (comparandItems_normal items)
  | document fields => congrArg Comparand.map (comparandFields_normal fields)
  -- Respelled inside, but compared as null.
  | codeWithScope _ _ => rfl
  | null | bool _ | int64 _ | double _ | dateTime _ | string _ | objectId _ | undefined | minKey
  | maxKey | regex _ _ | timestamp _ _ | binary _ _ | symbol _ | code _ | decimal _
  | pointer _ _ => rfl

theorem comparandItems_normal : ∀ items : List Value,
    comparandItems (normalItems items) = comparandItems items
  | [] => rfl
  | item :: rest => by
    rw [normalItems, comparandItems, comparandItems, comparand_normal item,
      comparandItems_normal rest]

theorem comparandFields_normal : ∀ fields : List (String × Value),
    comparandFields (normalFields fields) = comparandFields fields
  | [] => rfl
  | (key, value) :: rest => by
    rw [normalFields, comparandFields_place, comparandFields, comparand_normal value,
      comparandFields_normal rest]

end

mutual

/-- What has no comparison of its own counts as null. -/
theorem comparand_faded : ∀ x : Value, x.faded.comparand = x.comparand
  | array items => congrArg Comparand.array (comparandItems_faded items)
  | document fields => congrArg Comparand.map (comparandFields_faded fields)
  | null | bool _ | int32 _ | int64 _ | double _ | dateTime _ | string _ | objectId _ | undefined
  | minKey | maxKey | regex _ _ | timestamp _ _ | binary _ _ | symbol _ | code _
  | codeWithScope _ _ | decimal _ | pointer _ _ => rfl

theorem comparandItems_faded : ∀ items : List Value,
    comparandItems (fadedItems items) = comparandItems items
  | [] => rfl
  | item :: rest => by
    rw [fadedItems, comparandItems, comparandItems, comparand_faded item,
      comparandItems_faded rest]

theorem comparandFields_faded : ∀ fields : List (String × Value),
    comparandFields (fadedFields fields) = comparandFields fields
  | [] => rfl
  | (key, value) :: rest => by
    rw [fadedFields, comparandFields, comparandFields, comparand_faded value,
      comparandFields_faded rest]

end

end Value

/-! ## Reading a comparand back

  That nothing else is lost is shown by recovering the value, up to these two changes. -/

namespace Comparand

mutual

/-- The value that a comparand spells out. -/
def toValue : Comparand → Value
  | null => .null
  | bool b => .bool b
  | integer n => .int64 (Int64.ofInt n)
  | double x => .double x
  | dateTime ms => .dateTime (Int64.ofInt ms)
  | string s => .string s
  | array items => .array (toValueItems items)
  | map entries => .document (toValueEntries entries)

def toValueItems : List Comparand → List Value
  | [] => []
  | item :: rest => item.toValue :: toValueItems rest

def toValueEntries : List (String × Comparand) → Entries Value
  | [] => []
  | (key, value) :: rest => (key, value.toValue) :: toValueEntries rest

end

/-- Entries are read back where they were put. -/
theorem toValueEntries_place (entries : Entries Comparand) (key : String) (value : Comparand) :
    toValueEntries (entries.place key value) =
      (toValueEntries entries).place key value.toValue := by
  induction entries with
  | nil => rfl
  | cons entry rest ih =>
    obtain ⟨k, v⟩ := entry
    rw [Entries.place, toValueEntries, Entries.place]
    -- The place is in front of the first greater key, or that of the key itself.
    by_cases hlt : key < k
    · rw [if_pos hlt, if_pos hlt]
      rfl
    · rw [if_neg hlt, if_neg hlt]
      by_cases hk : k = key
      · rw [if_pos hk, if_pos hk]
        rfl
      · rw [if_neg hk, if_neg hk, toValueEntries, ih]

end Comparand

namespace Value

mutual

/-- A comparand spells out its value, faded and in normal form. -/
theorem toValue_comparand : ∀ x : Value, x.comparand.toValue = x.faded.normal
  | int32 n => congrArg int64 (Int64.ofInt_int32ToInt n)
  | int64 n => congrArg int64 (Int64.ofInt_toInt n)
  | dateTime ms => congrArg dateTime (Int64.ofInt_toInt ms)
  | array items => congrArg array (toValueItems_comparandItems items)
  | document fields => congrArg document (toValueEntries_comparandFields fields)
  | null | bool _ | double _ | string _ | objectId _ | undefined | minKey | maxKey | regex _ _
  | timestamp _ _ | binary _ _ | symbol _ | code _ | codeWithScope _ _ | decimal _
  | pointer _ _ => rfl

theorem toValueItems_comparandItems : ∀ items : List Value,
    Comparand.toValueItems (comparandItems items) = normalItems (fadedItems items)
  | [] => rfl
  | item :: rest => by
    rw [comparandItems, Comparand.toValueItems, fadedItems, normalItems, toValue_comparand item,
      toValueItems_comparandItems rest]

theorem toValueEntries_comparandFields : ∀ fields : List (String × Value),
    Comparand.toValueEntries (comparandFields fields) = normalFields (fadedFields fields)
  | [] => rfl
  | (key, value) :: rest => by
    rw [comparandFields, Comparand.toValueEntries_place, fadedFields, normalFields,
      toValue_comparand value, toValueEntries_comparandFields rest]

end

/-- Comparisons see of a value its faded form, up to spelling. -/
theorem comparand_eq_iff (x y : Value) :
    x.comparand = y.comparand ↔ x.faded.normal = y.faded.normal := by
  constructor
  · intro h
    rw [← toValue_comparand, h, toValue_comparand]
  · intro h
    -- The comparand is that of the faded value, and that of its normal form.
    rw [← comparand_faded x, ← comparand_normal x.faded, h, comparand_normal, comparand_faded]

end Value

/-! ## Equality without doubles

  Equality of comparands is computed piece by piece.  Only for doubles, and for integers against
  them, is it anything but identity; and where it is transitive is a matter of the one in the
  middle. -/

namespace Comparand

mutual

/-- No double is inside the comparand. -/
def DoubleFree : Comparand → Prop
  | double _ => False
  | array items => DoubleFreeItems items
  | map entries => DoubleFreeEntries entries
  | _ => True

def DoubleFreeItems : List Comparand → Prop
  | [] => True
  | item :: rest => DoubleFree item ∧ DoubleFreeItems rest

def DoubleFreeEntries : List (String × Comparand) → Prop
  | [] => True
  | (_, value) :: rest => DoubleFree value ∧ DoubleFreeEntries rest

end

/-- Putting a value without doubles among the entries brings none in. -/
theorem DoubleFreeEntries.place {entries : Entries Comparand} {value : Comparand}
    (h : DoubleFreeEntries entries) (hvalue : value.DoubleFree) (key : String) :
    DoubleFreeEntries (entries.place key value) := by
  induction entries with
  | nil => exact ⟨hvalue, trivial⟩
  | cons entry rest ih =>
    obtain ⟨k, v⟩ := entry
    rw [Entries.place]
    split
    · exact ⟨hvalue, h⟩
    · split
      · exact ⟨hvalue, h.2⟩
      · exact ⟨h.1, ih h.2⟩

mutual

/-- Where no double is rounded, equality is identity. -/
theorem equal_iff_eq : ∀ x y : Comparand, x.DoubleFree → y.DoubleFree →
    (x.equal y = true ↔ x = y) := by
  intro x y hx hy
  cases x with
  -- Values of two kinds are neither equal nor identical; within a kind, equality is tested piece by
  -- piece.
  | array items =>
    cases y with
    | array others =>
      rw [array.injEq]
      exact equalItems_iff_eq items others hx hy
    | _ => simp [equal]
  | map entries =>
    cases y with
    | map others =>
      rw [map.injEq]
      exact equalEntries_iff_eq entries others hx hy
    | _ => simp [equal]
  | double d => cases hx
  | _ =>
    cases y with
    | double e => cases hy
    | _ => simp [equal]

theorem equalItems_iff_eq : ∀ items others : List Comparand, DoubleFreeItems items →
    DoubleFreeItems others → (equalItems items others = true ↔ items = others)
  | [], [], _, _ => by simp [equalItems]
  | [], _ :: _, _, _ => by simp [equalItems]
  | _ :: _, [], _, _ => by simp [equalItems]
  | item :: rest, other :: others, h, hothers => by
    rw [equalItems, Bool.and_eq_true, equal_iff_eq item other h.1 hothers.1,
      equalItems_iff_eq rest others h.2 hothers.2, List.cons.injEq]

theorem equalEntries_iff_eq : ∀ entries others : List (String × Comparand),
    DoubleFreeEntries entries → DoubleFreeEntries others →
      (equalEntries entries others = true ↔ entries = others)
  | [], [], _, _ => by simp [equalEntries]
  | [], _ :: _, _, _ => by simp [equalEntries]
  | _ :: _, [], _, _ => by simp [equalEntries]
  | (k, a) :: rest, (l, b) :: others, h, hothers => by
    rw [equalEntries, Bool.and_eq_true, Bool.and_eq_true, beq_iff_eq,
      equal_iff_eq a b h.1 hothers.1, equalEntries_iff_eq rest others h.2 hothers.2,
      List.cons.injEq, Prod.mk.injEq]

end

mutual

/-- Equality goes through a value without doubles, whatever stands on its two sides. -/
theorem equal_trans : ∀ x y z : Comparand, y.DoubleFree → x.equal y = true → y.equal z = true →
    x.equal z = true := by
  intro x y z hy hxy hyz
  -- The value in the middle fixes the kind of both others, except that integers equal doubles.
  cases y with
  | null =>
    cases x with
    | null => exact hyz
    | _ => cases hxy
  | bool b =>
    cases x with
    | bool c =>
      cases eq_of_beq hxy
      exact hyz
    | _ => cases hxy
  | double d => cases hy
  | integer n =>
    -- An integer on one side is the one in the middle, a double stands where that is rounded to.
    cases x with
    | integer m =>
      cases eq_of_beq hxy
      exact hyz
    | double d =>
      cases z with
      | integer m =>
        cases eq_of_beq hyz
        exact hxy
      | double e => exact Double.equal_trans hxy hyz
      | _ => cases hyz
    | _ => cases hxy
  | dateTime ms =>
    cases x with
    | dateTime other =>
      cases eq_of_beq hxy
      exact hyz
    | _ => cases hxy
  | string s =>
    cases x with
    | string t =>
      cases eq_of_beq hxy
      exact hyz
    | _ => cases hxy
  | array items =>
    cases x with
    | array left =>
      cases z with
      | array right => exact equalItems_trans left items right hy hxy hyz
      | _ => cases hyz
    | _ => cases hxy
  | map entries =>
    cases x with
    | map left =>
      cases z with
      | map right => exact equalEntries_trans left entries right hy hxy hyz
      | _ => cases hyz
    | _ => cases hxy

theorem equalItems_trans : ∀ left items right : List Comparand, DoubleFreeItems items →
    equalItems left items = true → equalItems items right = true → equalItems left right = true
  | [], [], _, _, _, hright => hright
  | _ :: _, [], _, _, hleft, _ => by cases hleft
  | [], _ :: _, _, _, hleft, _ => by cases hleft
  | _ :: _, _ :: _, [], _, _, hright => by cases hright
  | a :: left, b :: items, c :: right, h, hleft, hright => by
    rw [equalItems, Bool.and_eq_true] at hleft hright ⊢
    exact ⟨equal_trans a b c h.1 hleft.1 hright.1,
      equalItems_trans left items right h.2 hleft.2 hright.2⟩

theorem equalEntries_trans : ∀ left entries right : List (String × Comparand),
    DoubleFreeEntries entries → equalEntries left entries = true →
      equalEntries entries right = true → equalEntries left right = true
  | [], [], _, _, _, hright => hright
  | _ :: _, [], _, _, hleft, _ => by cases hleft
  | [], _ :: _, _, _, hleft, _ => by cases hleft
  | _ :: _, _ :: _, [], _, _, hright => by cases hright
  | (k, a) :: left, (l, b) :: entries, (m, c) :: right, h, hleft, hright => by
    rw [equalEntries, Bool.and_eq_true, Bool.and_eq_true, beq_iff_eq] at hleft hright ⊢
    exact ⟨⟨hleft.1.1.trans hright.1.1, equal_trans a b c h.1 hleft.1.2 hright.1.2⟩,
      equalEntries_trans left entries right h.2 hleft.2 hright.2⟩

end

end Comparand

namespace Value

mutual

/-- A comparand has no doubles that its value does not have. -/
theorem doubleFree_comparand : ∀ x : Value, x.DoubleFree → x.comparand.DoubleFree
  | array items, h => doubleFreeItems_comparandItems items h
  | document fields, h => doubleFreeEntries_comparandFields fields h
  | null, _ | bool _, _ | int32 _, _ | int64 _, _ | dateTime _, _ | string _, _ | objectId _, _
  | undefined, _ | minKey, _ | maxKey, _ | regex _ _, _ | timestamp _ _, _ | binary _ _, _
  | symbol _, _ | code _, _ | codeWithScope _ _, _ | decimal _, _ | pointer _ _, _ => trivial

theorem doubleFreeItems_comparandItems : ∀ items : List Value, DoubleFreeItems items →
    Comparand.DoubleFreeItems (comparandItems items)
  | [], _ => trivial
  | item :: rest, h =>
    ⟨doubleFree_comparand item h.1, doubleFreeItems_comparandItems rest h.2⟩

theorem doubleFreeEntries_comparandFields : ∀ fields : List (String × Value),
    DoubleFreeFields fields → Comparand.DoubleFreeEntries (comparandFields fields)
  | [], _ => trivial
  | (key, value) :: rest, h =>
    (doubleFreeEntries_comparandFields rest h.2).place (doubleFree_comparand value h.1) key

end

/-- What equals a value without doubles inside equals whatever that value equals. -/
theorem equals_trans {x y z : Value} (hy : y.DoubleFree) (hxy : x.equals y = true)
    (hyz : y.equals z = true) : x.equals z = true :=
  Comparand.equal_trans _ _ _ (doubleFree_comparand y hy) hxy hyz

/-- Without doubles inside, values are equal exactly if, faded, they differ in nothing but
    spelling. -/
theorem equals_iff_faded {x y : Value} (hx : x.DoubleFree) (hy : y.DoubleFree) :
    x.equals y = true ↔ x.faded.normal = y.faded.normal := by
  rw [equals, Comparand.equal_iff_eq _ _ (doubleFree_comparand x hx) (doubleFree_comparand y hy),
    comparand_eq_iff]

end Value

end DocStore
