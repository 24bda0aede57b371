/-
  Values equal themselves, and equality goes both ways.

  The equality of queries looks through representation, and one value has no place in it: NaN
  equals nothing, not even itself, and so does a value with NaN inside.  All others equal
  themselves (`Value.equals_self`).  What has no comparison of its own counts as null on both
  sides, so for such values there is nothing to ask.

  Which of two values is asked whether it equals the other makes no difference
  (`Value.equals_comm`): also of an integer and a double it is always the integer that is rounded.
-/
import DocStore.Comparand

namespace DocStore

/-- Doubles are equal exactly if they stand at one place. -/
theorem Double.equal_iff (x y : Double) :
    x.equal y = true ↔ ∃ p, x.position? = some p ∧ y.position? = some p := by
  rw [equal, beq_iff_eq, compare?]
  -- NaN has no place, and nothing equals it.
  cases x.position? with
  | none => simp
  | some p =>
    cases y.position? with
    | none => simp
    | some q => simpa [Int.compare_eq_eq] using eq_comm

/-- A double that is a number equals itself. -/
theorem Double.equal_self {x : Double} (h : x.isNaN = false) : x.equal x = true := by
  rw [equal_iff, position?, h]
  exact ⟨_, rfl, rfl⟩

/-- To stand at one place goes both ways. -/
theorem Double.equal_comm (x y : Double) : x.equal y = y.equal x := by
  rw [Bool.eq_iff_iff, equal_iff, equal_iff]
  exact exists_congr fun _ => And.comm

/-- There is one place that all three stand at. -/
theorem Double.equal_trans {x y z : Double} (hxy : x.equal y = true) (hyz : y.equal z = true) :
    x.equal z = true := by
  obtain ⟨p, hx, hy⟩ := (equal_iff x y).1 hxy
  obtain ⟨q, hy', hz⟩ := (equal_iff y z).1 hyz
  rw [hy] at hy'
  cases hy'
  exact (equal_iff x z).2 ⟨p, hx, hz⟩

namespace Comparand

mutual

/-- Which of two comparands is asked makes no difference. -/
theorem equal_comm : ∀ x y : Comparand, x.equal y = y.equal x := by
  intro x y
  cases x with
  | null => cases y <;> rfl
  | bool b =>
    cases y with
    | bool c => exact Bool.beq_comm
    | _ => rfl
  -- An integer and a double are compared as doubles, whichever comes first.
  | integer n =>
    cases y with
    | integer m => exact Bool.beq_comm
    | double e => exact Double.equal_comm _ _
    | _ => rfl
  | double d =>
    cases y with
    | integer m => exact Double.equal_comm _ _
    | double e => exact Double.equal_comm _ _
    | _ => rfl
  | dateTime ms =>
    cases y with
    | dateTime other => exact Bool.beq_comm
    | _ => rfl
  | string s =>
    cases y with
    | string t => exact Bool.beq_comm
    | _ => rfl
  | array items =>
    cases y with
    | array others => exact equalItems_comm items others
    | _ => rfl
  | map entries =>
    cases y with
    | map others => exact equalEntries_comm entries others
    | _ => rfl

theorem equalItems_comm : ∀ items others : List Comparand,
    equalItems items others = equalItems others items
  | [], [] => rfl
  | [], _ :: _ => rfl
  | _ :: _, [] => rfl
  | item :: rest, other :: others => by
    rw [equalItems, equalItems, equal_comm item other, equalItems_comm rest others]

theorem equalEntries_comm : ∀ entries others : List (String × Comparand),
    equalEntries entries others = equalEntries others entries
  | [], [] => rfl
  | [], _ :: _ => rfl
  | _ :: _, [] => rfl
  | (k, a) :: rest, (l, b) :: others => by
    rw [equalEntries, equalEntries, equal_comm a b, equalEntries_comm rest others, Bool.beq_comm]

end

/-- Equal entries show equal values under every key. -/
theorem exists_of_equalEntries : ∀ {entries others : Entries Comparand} {key : String}
    {a : Comparand}, equalEntries entries others = true → entries.get? key = some a →
      ∃ b, others.get? key = some b ∧ a.equal b = true
  | [], _, _, _, _, hget => nomatch hget
  | _ :: _, [], _, _, h, _ => by simp [equalEntries] at h
  | (k, a) :: rest, (l, b) :: others, key, c, h, hget => by
    rw [equalEntries, Bool.and_eq_true, Bool.and_eq_true, beq_iff_eq] at h
    obtain ⟨⟨rfl, hvalue⟩, hrest⟩ := h
    rw [Entries.get?_cons] at hget ⊢
    by_cases hk : k = key
    · rw [if_pos hk] at hget ⊢
      cases hget
      exact ⟨b, rfl, hvalue⟩
    · rw [if_neg hk] at hget ⊢
      exact exists_of_equalEntries hrest hget

/-- A list equals itself exactly if every item does. -/
theorem equalItems_self_iff (items : List Comparand) :
    equalItems items items = true ↔ ∀ item ∈ items, item.equal item = true := by
  induction items with
  | nil => simp [equalItems]
  | cons item rest ih => simp [equalItems, ih]

/-- So do entries; that keys equal themselves is no question. -/
theorem equalEntries_self_iff (entries : List (String × Comparand)) :
    equalEntries entries entries = true ↔ ∀ entry ∈ entries, entry.2.equal entry.2 = true := by
  induction entries with
  | nil => simp [equalEntries]
  | cons entry rest ih => simp [equalEntries, ih]

end Comparand

namespace Value

/-- Which of two values is asked whether it equals the other makes no difference. -/
theorem equals_comm (x y : Value) : x.equals y = y.equals x :=
  Comparand.equal_comm _ _

mutual

/-- No double that a comparison gets to see is NaN. -/
def NaNFree : Value → Prop
  | double x => x.isNaN = false
  | array items => NaNFreeItems items
  | document fields => NaNFreeFields fields
  | _ => True

/-- None of the items has NaN inside. -/
def NaNFreeItems : List Value → Prop
  | [] => True
  | item :: rest => NaNFree item ∧ NaNFreeItems rest

/-- Nothing that the fields hold has NaN inside. -/
def NaNFreeFields : List (String × Value) → Prop
  | [] => True
  | (_, value) :: rest => NaNFree value ∧ NaNFreeFields rest

end

mutual

/-- **Values equal themselves.** Unless it has NaN inside, a value is equal to itself. -/
theorem equals_self : ∀ x : Value, x.NaNFree → x.equals x = true := by
  intro x h
  rw [equals]
  cases x with
  | double x => exact Double.equal_self h
  | array items => exact (Comparand.equalItems_self_iff _).2 (comparandItems_self items h)
  | document fields => exact (Comparand.equalEntries_self_iff _).2 (comparandFields_self fields h)
  | _ => simp [comparand, Comparand.equal]

/-- The items of an array without NaN equal themselves. -/
theorem comparandItems_self : ∀ items : List Value, NaNFreeItems items →
    ∀ c ∈ comparandItems items, c.equal c = true := by
  intro items h c hmem
  cases items with
  | nil => cases hmem
  | cons item rest =>
    rcases List.mem_cons.1 hmem with rfl | hmem
    · exact equals_self item h.1
    · exact comparandItems_self rest h.2 c hmem

theorem comparandFields_self : ∀ fields : List (String × Value), NaNFreeFields fields →
    ∀ entry ∈ comparandFields fields, entry.2.equal entry.2 = true := by
  intro fields h entry hmem
  match fields with
  | [] => cases hmem
  | (key, value) :: rest =>
    -- Only what the fields hold is put among the entries.
    rcases Entries.mem_place hmem with rfl | hmem
    · exact equals_self value h.1
    · exact comparandFields_self rest h.2 entry hmem

end

end Value

end DocStore
