/-
  What a definition becomes when it is stored and read again.

  Predicate and projection come back as they were, but the literals do not: writing a definition
  condenses them and reading interprets them, and both take documents with certain keys for other
  values.  `Expr.reread` says what a predicate comes back as.

  Literals without such keys, and without dates that the calendar does not reach, are read again as
  they are up to the order of the options of regular expressions (`interpret_condense`), and
  comparisons do not see that order.  So a predicate over portable literals comes back with the
  same meaning.
-/
import DocStore.View.Stored

namespace DocStore

/-! ## Reading what was written

  Stored form is a faithful picture of a definition up to its literals: only they are condensed
  and interpreted. -/

/-- What a literal comes back as. -/
def Value.reread (literal : Value) : Except DecodeError Value :=
  Extended.interpret .ignored (Extended.condense literal)

mutual

/-- What a predicate comes back as. -/
def Expr.reread : Expr → Except DecodeError Expr
  | .and exprs => return .and (← Expr.rereadItems exprs)
  | .or exprs => return .or (← Expr.rereadItems exprs)
  | .field name op literal => return .field name op (← literal.reread)

def Expr.rereadItems : List Expr → Except DecodeError (List Expr)
  | [] => return []
  | e :: rest => return (← e.reread) :: (← Expr.rereadItems rest)

end

/-- A comparison is stored with its literal condensed, and that is interpreted again. -/
theorem Expr.comparisonOfStored_toStored (name : String) (op : FieldOp) (literal : Value) :
    Expr.comparisonOfStored [("field", .string name), ("op", .string op.name),
        ("value", Extended.condense literal)] = Expr.reread (.field name op literal) := by
  cases op <;> rfl

mutual

/-- What is read from a stored predicate is the predicate with its literals read again. -/
theorem Expr.ofStored_toStored : ∀ e : Expr, Expr.ofStored e.toStored = e.reread
  | .and exprs => by
    rw [Expr.toStored, Expr.ofStored, Expr.ofStoredItems_toStoredItems exprs, Expr.reread]
  | .or exprs => by
    rw [Expr.toStored, Expr.ofStored, Expr.ofStoredItems_toStoredItems exprs, Expr.reread]
  | .field name op literal => by
    rw [Expr.toStored, Expr.ofStored, Expr.comparisonOfStored_toStored]

theorem Expr.ofStoredItems_toStoredItems :
    ∀ exprs : List Expr, Expr.ofStoredItems (Expr.toStoredItems exprs) = Expr.rereadItems exprs
  | [] => rfl
  | e :: rest => by
    rw [Expr.toStoredItems, Expr.ofStoredItems, Expr.ofStored_toStored e,
      Expr.ofStoredItems_toStoredItems rest, Expr.rereadItems]

end

/-- A projection is names only, so it comes back as it was. -/
theorem Projection.ofStored_toStored (projection : Projection) :
    Projection.ofStored projection.toStored = .ok projection := by
  -- Names are stored as strings, one by one.
  have names : ∀ names : List String,
      (names.map Value.string).mapM nameOfStored = .ok names := by
    intro names
    induction names with
    | nil => rfl
    | cons name rest ih =>
      rw [List.map_cons, List.mapM_cons, ih]
      rfl
  cases projection with
  | all => rfl
  | fields list =>
    rw [toStored, ofStored, names list]
    rfl

/-- A definition comes back as far as its predicate does. -/
theorem Definition.ofStored_toStored (view : Definition) :
    Definition.ofStored view.toStored =
      view.predicate.reread.map fun predicate => ⟨predicate, view.projection⟩ := by
  show Definition.ofParts view.predicate.toStored view.projection.toStored = _
  rw [ofParts, Expr.ofStored_toStored, Projection.ofStored_toStored]
  cases view.predicate.reread <;> rfl

/-- A design document gives back what was stored in it, read again. -/
theorem Definition.ofDesign_of_stored {design : Document} {name : String} {view : Definition}
    (h : stored? design name = some view.toStored) :
    ofDesign design name = (view.predicate.reread.mapError StoreError.ofDecode).map
      fun predicate => ⟨predicate, view.projection⟩ := by
  rw [ofDesign, h]
  dsimp only
  rw [ofStored_toStored]
  cases view.predicate.reread <;> rfl

/-! ## Portable literals

  Three inductions over values with the same cases: comparisons do not see the order of options,
  writing puts options in order and does nothing else, and reading does nothing to the outcome. -/

namespace Value

mutual

/-- No document inside the value has a key that makes it stand for another value, and no date lies
    behind the last one of the calendar. -/
def Portable : Value → Prop
  | array items => PortableItems items
  | document fields => PortableFields fields
  | codeWithScope _ scope => PortableFields scope
  | dateTime ms => ms.toInt ≤ Calendar.lastMoment
  | _ => True

def PortableItems : List Value → Prop
  | [] => True
  | item :: rest => item.Portable ∧ PortableItems rest

def PortableFields : List (String × Value) → Prop
  | [] => True
  | (key, value) :: rest =>
      Extended.Tag.ofKey? key = none ∧ value.Portable ∧ PortableFields rest

end

mutual

/-- The value with the options of all regular expressions inside in order. -/
def arranged : Value → Value
  | array items => array (arrangedItems items)
  | document fields => document (arrangedFields fields)
  | codeWithScope s scope => codeWithScope s (arrangedFields scope)
  | regex pattern options => regex pattern options.sorted
  | value => value

def arrangedItems : List Value → List Value
  | [] => []
  | item :: rest => item.arranged :: arrangedItems rest

def arrangedFields : List (String × Value) → List (String × Value)
  | [] => []
  | (key, value) :: rest => (key, value.arranged) :: arrangedFields rest

end

/-- Putting options in order touches no key, so there are still no tags. -/
theorem PortableFields.ofKey?_of_mem {fields : List (String × Value)} (h : PortableFields fields)
    {field : String × Value} (hmem : field ∈ arrangedFields fields) :
    Extended.Tag.ofKey? field.1 = none := by
  induction fields with
  | nil => cases hmem
  | cons head rest ih =>
    obtain ⟨hkey, -, hrest⟩ := h
    rcases List.mem_cons.1 hmem with rfl | hmem
    · exact hkey
    · exact ih hrest hmem

mutual

/-- Comparisons do not see the order of options. -/
theorem comparand_arranged : ∀ value : Value, value.arranged.comparand = value.comparand
  | array items => by
    rw [arranged, comparand, comparand, comparandItems_arranged items]
  | document fields => by
    rw [arranged, comparand, comparand, comparandFields_arranged fields]
  | codeWithScope _ _ => rfl
  | regex _ _ => rfl
  | null | bool _ | int32 _ | int64 _ | double _ | dateTime _ | string _ | objectId _ | undefined
  | minKey | maxKey | timestamp _ _ | binary _ _ | symbol _ | code _ | decimal _ | pointer _ _ =>
    rfl

theorem comparandItems_arranged :
    ∀ items : List Value, comparandItems (arrangedItems items) = comparandItems items
  | [] => rfl
  | item :: rest => by
    rw [arrangedItems, comparandItems, comparandItems, comparand_arranged item,
      comparandItems_arranged rest]

theorem comparandFields_arranged : ∀ fields : List (String × Value),
    comparandFields (arrangedFields fields) = comparandFields fields
  | [] => rfl
  | (key, value) :: rest => by
    rw [arrangedFields, comparandFields, comparandFields, comparand_arranged value,
      comparandFields_arranged rest]

end

end Value

/-- After putting them in order, no option stands behind a greater one. -/
theorem Text.NulFree.pairwise_sorted (t : Text.NulFree) :
    t.sorted.text.toList.Pairwise fun a b => decide (a.toNat ≤ b.toNat) = true := by
  unfold sorted
  rw [String.toList_ofList]
  refine List.pairwise_mergeSort ?_ ?_ _
  · intro a b c hab hbc
    rw [decide_eq_true_eq] at hab hbc ⊢
    omega
  · intro a b
    rw [Bool.or_eq_true, decide_eq_true_eq, decide_eq_true_eq]
    omega

/-- Options that are in order stay as they are. -/
theorem Text.NulFree.sorted_sorted (t : Text.NulFree) : t.sorted.sorted = t.sorted := by
  have hsorted := t.pairwise_sorted
  unfold sorted at hsorted ⊢
  rw [String.toList_ofList] at hsorted
  simp only [String.toList_ofList, List.mergeSort_of_pairwise hsorted]

namespace Extended

open Value

/-- Fields without tags are those of no tagged value. -/
theorem special?_eq_none {fields : List (String × Value)}
    (h : ∀ field ∈ fields, Tag.ofKey? field.1 = none) : special? fields = none := by
  unfold special?
  split
  · -- A tagged value of one field, and the two ways to write code with a scope.
    rename_i key payload
    rw [h (key, payload) List.mem_cons_self]
    rfl
  · cases h _ List.mem_cons_self
  · cases h _ List.mem_cons_self
  · rfl

/-- A document without tags stands for itself. -/
theorem whole_of_untagged {fields : List (String × Value)}
    (h : ∀ field ∈ fields, Tag.ofKey? field.1 = none) : whole fields = .document fields := by
  rw [whole, special?_eq_none h]
  rfl

/-- The fields of a portable document are still no tagged value when options are in order. -/
theorem whole_arrangedFields {fields : List (String × Value)} (h : PortableFields fields) :
    whole (arrangedFields fields) = .document (arrangedFields fields) :=
  whole_of_untagged fun _ hmem => h.ofKey?_of_mem hmem

mutual

/-- Writing does nothing to a portable value but putting options in order. -/
theorem condense_of_portable : ∀ value : Value, value.Portable → condense value = value.arranged
  | .array items, h => by
    rw [condense, condenseItems_of_portable items h, arranged]
  | .document fields, h => by
    rw [condense, condenseFields_of_portable fields h, arranged, whole_arrangedFields h]
  | .codeWithScope _ scope, h => by
    rw [condense, condenseFields_of_portable scope h, arranged, whole_arrangedFields h]
    rfl
  | .regex _ _, _ => rfl
  | .null, _ | .bool _, _ | .int32 _, _ | .int64 _, _ | .double _, _ | .dateTime _, _ | .string _, _
  | .objectId _, _ | .undefined, _ | .minKey, _ | .maxKey, _ | .timestamp _ _, _ | .binary _ _, _
  | .symbol _, _ | .code _, _ | .decimal _, _ | .pointer _ _, _ => rfl

theorem condenseItems_of_portable : ∀ items : List Value, PortableItems items →
    condenseItems items = arrangedItems items
  | [], _ => rfl
  | item :: rest, h => by
    rw [condenseItems, condense_of_portable item h.1, condenseItems_of_portable rest h.2,
      arrangedItems]

theorem condenseFields_of_portable : ∀ fields : List (String × Value), PortableFields fields →
    condenseFields fields = arrangedFields fields
  | [], _ => rfl
  | (_, value) :: rest, h => by
    rw [condenseFields, condense_of_portable value h.2.1, condenseFields_of_portable rest h.2.2,
      arrangedFields]

end

/-- A date that the calendar reaches stays where it is, and no other does. -/
theorem withinCalendar_eq_iff {ms : Int64} :
    withinCalendar ms = ms ↔ ms.toInt ≤ Calendar.lastMoment := by
  rcases Int.lt_or_le Calendar.lastMoment ms.toInt with hlate | hreached
  · rw [withinCalendar, if_pos hlate]
    constructor
    · intro hsame
      rw [← hsame]
      decide
    · intro hreached
      omega
  · rw [withinCalendar, if_neg (Int.not_lt.2 hreached)]
    exact iff_of_true rfl hreached

mutual

/-- Reading does nothing to a portable value whose options are in order. -/
theorem interpret_arranged (trailing : Trailing) : ∀ value : Value, value.Portable →
    interpret trailing value.arranged = .ok value.arranged
  | .array items, h => by
    rw [arranged, interpret, interpretItems_arranged trailing items h]
    rfl
  | .document fields, h => by
    rw [arranged, interpret, interpretFields_arranged trailing fields h]
    rfl
  | .codeWithScope _ scope, h => by
    rw [arranged, interpret, interpretFields_arranged trailing scope h]
    rfl
  | .regex pattern options, _ => by
    rw [arranged, interpret, Text.NulFree.sorted_sorted]
    rfl
  -- Reading brings dates into the calendar, and this one is inside.
  | .dateTime ms, h => by
    show Except.ok (Value.dateTime (withinCalendar ms)) = _
    rw [withinCalendar_eq_iff.2 h]
    rfl
  | .null, _ | .bool _, _ | .int32 _, _ | .int64 _, _ | .double _, _ | .string _, _
  | .objectId _, _ | .undefined, _ | .minKey, _ | .maxKey, _ | .timestamp _ _, _ | .binary _ _, _
  | .symbol _, _ | .code _, _ | .decimal _, _ | .pointer _ _, _ => rfl

theorem interpretItems_arranged (trailing : Trailing) : ∀ items : List Value,
    PortableItems items → interpretItems trailing (arrangedItems items) = .ok (arrangedItems items)
  | [], _ => rfl
  | item :: rest, h => by
    rw [arrangedItems, interpretItems, interpret_arranged trailing item h.1,
      interpretItems_arranged trailing rest h.2]
    rfl

theorem interpretFields_arranged (trailing : Trailing) : ∀ fields : List (String × Value),
    PortableFields fields →
      interpretFields trailing (arrangedFields fields) = .ok (.ordinary (arrangedFields fields))
  | [], _ => rfl
  | (_, value) :: rest, h => by
    rw [arrangedFields, interpretFields, interpret_arranged trailing value h.2.1,
      interpretFields_arranged trailing rest h.2.2]
    · rfl
    · exact h.1

end

end Extended

/-- A portable literal comes back as it was, with options in order. -/
theorem Value.reread_of_portable {literal : Value} (h : literal.Portable) :
    literal.reread = .ok literal.arranged := by
  rw [reread, Extended.condense_of_portable literal h,
    Extended.interpret_arranged .ignored literal h]

/-! ## Portable predicates

  A predicate is portable if its literals are.  Compiling a query takes its literals from the
  query, so a portable query has a portable predicate; the proof follows the compiler. -/

namespace Expr

mutual

/-- All literals of the predicate are portable. -/
def Portable : Expr → Prop
  | .and exprs => PortableItems exprs
  | .or exprs => PortableItems exprs
  | .field _ _ literal => literal.Portable

def PortableItems : List Expr → Prop
  | [] => True
  | e :: rest => e.Portable ∧ PortableItems rest

end

mutual

/-- A portable predicate comes back as one that is satisfied by the same documents. -/
theorem reread_of_portable : ∀ e : Expr, e.Portable →
    ∃ e', e.reread = .ok e' ∧ ∀ doc, e'.matches doc = e.matches doc
  | .and exprs, h => by
    obtain ⟨exprs', hitems, hsame⟩ := rereadItems_of_portable exprs h
    refine ⟨.and exprs', ?_, fun doc => (hsame doc).1⟩
    rw [reread, hitems]
    rfl
  | .or exprs, h => by
    obtain ⟨exprs', hitems, hsame⟩ := rereadItems_of_portable exprs h
    refine ⟨.or exprs', ?_, fun doc => (hsame doc).2⟩
    rw [reread, hitems]
    rfl
  | .field name op literal, h => by
    refine ⟨.field name op literal.arranged, ?_, fun doc => ?_⟩
    · rw [reread, Value.reread_of_portable h]
      rfl
    · -- A comparison sees of a literal its comparand alone.
      rw [Expr.matches, Expr.matches]
      unfold FieldOp.holds
      rw [Value.comparand_arranged]

theorem rereadItems_of_portable : ∀ exprs : List Expr, PortableItems exprs →
    ∃ exprs', rereadItems exprs = .ok exprs' ∧ ∀ doc,
      allMatch doc exprs' = allMatch doc exprs ∧ anyMatches doc exprs' = anyMatches doc exprs
  | [], _ => ⟨[], rfl, fun _ => ⟨rfl, rfl⟩⟩
  | e :: rest, h => by
    obtain ⟨e', hread, hsame⟩ := reread_of_portable e h.1
    obtain ⟨rest', hitems, hrest⟩ := rereadItems_of_portable rest h.2
    refine ⟨e' :: rest', ?_, fun doc => ⟨?_, ?_⟩⟩
    · rw [rereadItems, hread, hitems]
      rfl
    · rw [allMatch, allMatch, hsame doc, (hrest doc).1]
    · rw [anyMatches, anyMatches, hsame doc, (hrest doc).2]

end

/-- Conditions from two sources are portable together. -/
theorem PortableItems.append {exprs others : List Expr} (h : PortableItems exprs)
    (hothers : PortableItems others) : PortableItems (exprs ++ others) := by
  induction exprs with
  | nil => exact hothers
  | cons e rest ih => exact ⟨h.1, ih h.2⟩

/-- Joining conditions adds no literal. -/
theorem portable_ofConditions {conditions : List Expr} (h : PortableItems conditions) :
    (ofConditions conditions).Portable := by
  -- A single condition stands alone, others are joined.
  match conditions, h with
  | [], h => exact h
  | [_], h => exact h.1
  | _ :: _ :: _, h => exact h

/-- The literals of the conditions on a field are parts of the value given for it. -/
theorem portable_fieldConditions (name : String) {value : Value} (h : value.Portable) :
    PortableItems (fieldConditions name value) := by
  -- Every operator takes its operand from the fields of the value.
  have operands : ∀ fields : Document, Value.PortableFields fields →
      PortableItems (fields.filterMap fun entry =>
        (FieldOp.ofKey? entry.1).map fun op => .field name op entry.2) := by
    intro fields
    induction fields with
    | nil => exact fun _ => trivial
    | cons entry rest ih =>
      rintro ⟨-, hvalue, hrest⟩
      rw [List.filterMap_cons]
      cases FieldOp.ofKey? entry.1 with
      | none => exact ih hrest
      | some op => exact ⟨hvalue, ih hrest⟩
  unfold fieldConditions operators?
  cases value with
  -- Only a document can be one of operators; otherwise the value itself is compared with.
  | document fields =>
    rw [Value.asDocument?, Option.filter_some]
    split
    · rename_i found hfound
      split at hfound
      · cases hfound
        exact operands fields h
      · cases hfound
    · exact ⟨h, trivial⟩
  | _ => exact ⟨h, trivial⟩

mutual

theorem portable_conditions : ∀ fields : List (String × Value), Value.PortableFields fields →
    PortableItems (conditions fields)
  | [], _ => trivial
  | (key, value) :: rest, h => by
    rw [conditions]
    -- The value is a list of alternatives, is passed over, or is compared with.
    refine PortableItems.append ?_ (portable_conditions rest h.2.2)
    split
    · exact ⟨portable_branches value h.2.1, trivial⟩
    · split
      · trivial
      · exact portable_fieldConditions key h.2.1

theorem portable_branches : ∀ value : Value, value.Portable → PortableItems (branches value)
  | .array items, h => portable_branchesOfItems items h
  | .document fields, h => ⟨portable_ofConditions (portable_conditions fields h), trivial⟩
  | .null, _ | .bool _, _ | .int32 _, _ | .int64 _, _ | .double _, _ | .dateTime _, _
  | .string _, _ | .objectId _, _ | .undefined, _ | .minKey, _ | .maxKey, _ | .regex _ _, _
  | .timestamp _ _, _ | .binary _ _, _ | .symbol _, _ | .code _, _ | .codeWithScope _ _, _
  | .decimal _, _ | .pointer _ _, _ => trivial

theorem portable_branchesOfItems : ∀ items : List Value, Value.PortableItems items →
    PortableItems (branchesOfItems items)
  | [], _ => trivial
  | .document fields :: rest, h =>
    ⟨portable_ofConditions (portable_conditions fields h.1), portable_branchesOfItems rest h.2⟩
  | .null :: rest, h | .bool _ :: rest, h | .int32 _ :: rest, h | .int64 _ :: rest, h
  | .double _ :: rest, h | .dateTime _ :: rest, h | .string _ :: rest, h | .array _ :: rest, h
  | .objectId _ :: rest, h | .undefined :: rest, h | .minKey :: rest, h | .maxKey :: rest, h
  | .regex _ _ :: rest, h | .timestamp _ _ :: rest, h | .binary _ _ :: rest, h
  | .symbol _ :: rest, h | .code _ :: rest, h | .codeWithScope _ _ :: rest, h
  | .decimal _ :: rest, h | .pointer _ _ :: rest, h => portable_branchesOfItems rest h.2

end

/-- A portable query compiles to a portable predicate. -/
theorem portable_compile {query : Document} (h : (Value.document query).Portable) :
    (compile query).Portable :=
  portable_ofConditions (portable_conditions query h)

end Expr

end DocStore
