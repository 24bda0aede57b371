/-
  What a query means.

  `Query.Holds doc query` says it in the terms of the query language: every entry of the query has
  to hold of the document.  An entry under `$or` holds if one of the queries that it lists does; an
  entry under another key in `$` always holds; a field whose value has keys in `$` has to pass
  every comparison among them; any other field has to be there and equal the value.  The relation
  follows queries as callers write them, nested to any depth, and knows nothing of predicates.

  A predicate has another shape: the comparisons of one field stand flat among the conditions of
  the fields around it, what asks for nothing is left out, and a condition that stands alone stands
  without a conjunction.  `matches_compile_iff_holds` says that none of this matters: the predicate
  that a query compiles to holds of exactly the documents of which the query holds.  As `Holds`
  reads a query through the membership of its entries alone, their order cannot matter either.
-/
import DocStore.Query.Matching

namespace DocStore

/-! ## What a comparison says of two values -/

namespace Query

/-- The values that an operand lists: the items of an array, anything else itself alone. -/
def listed : Value → List Value
  | .array items => items
  | single => [single]

/-- Whether a value, or of an array one of its items, equals something that the operand lists. -/
def Member (x operand : Value) : Prop :=
  ∃ item ∈ listed x, ∃ candidate ∈ listed operand, candidate.equals item = true

/-- The order of two values, where there is one. -/
def order? (x y : Value) : Option Ordering :=
  x.comparand.compare? y.comparand

/-- The comparison that an operator key asks for holds of a value that is there and the operand. -/
def Compares (key : String) (x operand : Value) : Prop :=
  match key with
  | "$in" => Member x operand
  | "$nin" => ¬ Member x operand
  | "$ne" => x.equals operand = false
  | "$not" => x.equals operand = false
  | "$lt" => order? x operand = some .lt
  | "$lte" => order? x operand = some .lt ∨ order? x operand = some .eq
  | "$gt" => order? x operand = some .gt
  | "$gte" => order? x operand = some .gt ∨ order? x operand = some .eq
  | _ => False

/-- The operators of the query language; entries under other keys ask for nothing. -/
def operatorKeys : List String := ["$in", "$nin", "$ne", "$not", "$lt", "$lte", "$gt", "$gte"]

/-- The operators that a missing field passes. -/
def negations : List String := ["$ne", "$not", "$nin"]

/-- The comparison under an operator key holds of what a path leads to; if it leads nowhere, only
    the negations hold. -/
def Passes (key : String) (found : Option Value) (operand : Value) : Prop :=
  match found with
  | some x => Compares key x operand
  | none => key ∈ negations

/-! ## What a query says of a document -/

/-- A key that belongs to the query language. -/
def Dollar (key : String) : Prop := ∃ rest, key.toList = '$' :: rest

/-- A value that asks for operators: a document with some key in `$`. -/
def AsksForOperators (value : Value) : Prop :=
  ∃ fields, value = .document fields ∧ ∃ entry ∈ fields, Dollar entry.1

mutual

/-- A query holds of a document when all its entries do. -/
inductive Holds (doc : Document) : Document → Prop
  | intro {query} (all : ∀ entry ∈ query, EntryHolds doc entry.1 entry.2) : Holds doc query

/-- What the entry of a query under a key says of a document. -/
inductive EntryHolds (doc : Document) : String → Value → Prop
  | branch {key items query} (or : key = "$or") (mem : Value.document query ∈ items)
      (holds : Holds doc query) : EntryHolds doc key (.array items)
  | single {key query} (or : key = "$or") (holds : Holds doc query) :
      EntryHolds doc key (.document query)
  | reserved {key value} (dollar : Dollar key) (notOr : key ≠ "$or") : EntryHolds doc key value
  | operators {key fields} (plain : ¬ Dollar key) (asks : AsksForOperators (.document fields))
      (all : ∀ entry ∈ fields, entry.1 ∈ operatorKeys →
        Passes entry.1 (doc.lookup key) entry.2) : EntryHolds doc key (.document fields)
  | equal {key value x} (plain : ¬ Dollar key) (whole : ¬ AsksForOperators value)
      (found : doc.lookup key = some x) (equal : x.equals value = true) :
      EntryHolds doc key value

end

end Query

/-! ## Predicates: lists of conditions, comparisons

  The shape of a predicate and of the values that the compiler looks at, in words. -/

namespace Expr

/-- A conjunction of a list holds exactly if each of its predicates does. -/
theorem allMatch_iff (doc : Document) (exprs : List Expr) :
    allMatch doc exprs = true ↔ ∀ e ∈ exprs, e.matches doc = true := by
  induction exprs with
  | nil => simp [allMatch]
  | cons e rest ih => simp [allMatch, ih]

/-- A disjunction of a list holds exactly if one of them does. -/
theorem anyMatches_iff (doc : Document) (exprs : List Expr) :
    anyMatches doc exprs = true ↔ ∃ e ∈ exprs, e.matches doc = true := by
  induction exprs with
  | nil => simp [anyMatches]
  | cons e rest ih => simp [anyMatches, ih]

/-- One condition alone is worth the conjunction of it, so the shape of a list of conditions does
    not matter. -/
theorem ofConditions_matches (doc : Document) (exprs : List Expr) :
    (ofConditions exprs).matches doc = allMatch doc exprs := by
  match exprs with
  | [] => rfl
  | [e] => simp [ofConditions, allMatch]
  | _ :: _ :: _ => rfl

/-- The reserved keys are those that begin with a dollar sign. -/
theorem isReserved_iff (key : String) : isReserved key = true ↔ Query.Dollar key := by
  rw [isReserved, Text.startsWith_iff]
  exact exists_congr fun _ => eq_comm

/-- One reserved key is enough to make a document ask for operators. -/
theorem any_isReserved_iff (fields : Document) :
    (fields.any fun entry => isReserved entry.1) = true ↔
      Query.AsksForOperators (.document fields) := by
  rw [List.any_eq_true]
  constructor
  · rintro ⟨entry, mem, h⟩
    exact ⟨fields, rfl, entry, mem, (isReserved_iff _).1 h⟩
  · rintro ⟨_, same, entry, mem, h⟩
    cases same
    exact ⟨entry, mem, (isReserved_iff _).2 h⟩

/-- The fields among which operators are sought are those of a document with a key in `$`. -/
theorem operators?_eq_some_iff (value : Value) (fields : Document) :
    operators? value = some fields ↔
      value = .document fields ∧ Query.AsksForOperators (.document fields) := by
  have asDocument : value.asDocument? = some fields ↔ value = .document fields := by
    cases value <;> simp [Value.asDocument?]
  rw [operators?, Option.filter_eq_some_iff, asDocument, any_isReserved_iff]

/-- Any other value is compared with as a whole. -/
theorem operators?_eq_none_iff (value : Value) :
    operators? value = none ↔ ¬ Query.AsksForOperators value := by
  rw [Option.eq_none_iff_forall_ne_some]
  constructor
  · rintro h ⟨fields, rfl, hkey⟩
    exact h fields ((operators?_eq_some_iff _ _).2 ⟨rfl, fields, rfl, hkey⟩)
  · rintro h fields hsome
    obtain ⟨rfl, hasks⟩ := (operators?_eq_some_iff _ _).1 hsome
    exact h hasks

end Expr

/-! ## Comparisons by their operators

  The evaluator compares comparands and searches lists; the relation speaks of values and of
  something listed.  They agree operator by operator. -/

/-- Items are compared one by one. -/
theorem Value.comparandItems_eq_map (items : List Value) :
    Value.comparandItems items = items.map Value.comparand := by
  induction items with
  | nil => rfl
  | cons item rest ih => rw [Value.comparandItems, ih, List.map_cons]

/-- Membership is one search through the candidates of both sides, with nested loops. -/
theorem Comparand.isMember_eq_any (field operand : Comparand) :
    field.isMember operand =
      field.candidates.any fun item => operand.candidates.any fun c => c.equal item := by
  cases field <;> simp [Comparand.isMember, Comparand.candidates]

/-- The candidates are what the value lists. -/
theorem Value.candidates_comparand (x : Value) :
    x.comparand.candidates = (Query.listed x).map Value.comparand := by
  cases x with
  | array items => exact Value.comparandItems_eq_map items
  | _ => rfl

/-- The evaluator finds a member exactly if there is one. -/
theorem Value.isMember_iff (x operand : Value) :
    x.comparand.isMember operand.comparand = true ↔ Query.Member x operand := by
  rw [Comparand.isMember_eq_any, Value.candidates_comparand, Value.candidates_comparand,
    Query.Member]
  simp [List.any_eq_true, Value.equals]

namespace FieldOp

/-- Every operator key with the comparison that it names. -/
def keyed : List (String × FieldOp) :=
  [("$in", .oneOf), ("$nin", .noneOf), ("$ne", .ne), ("$not", .ne), ("$lt", .lt), ("$lte", .lte),
    ("$gt", .gt), ("$gte", .gte)]

/-- The table has all operator keys, each with its comparison. -/
theorem ofKey?_eq_some_iff (key : String) (op : FieldOp) :
    ofKey? key = some op ↔ (key, op) ∈ keyed := by
  constructor
  · intro h
    unfold ofKey? at h
    split at h <;> cases h <;> simp [keyed]
  · have named : ∀ pair ∈ keyed, ofKey? pair.1 = some pair.2 := by decide
    exact named (key, op)

/-- The operator keys of the language are those that the compiler knows. -/
theorem mem_operatorKeys_iff (key : String) :
    key ∈ Query.operatorKeys ↔ ∃ op, ofKey? key = some op := by
  have keys : Query.operatorKeys = keyed.map Prod.fst := rfl
  rw [keys, List.mem_map]
  constructor
  · rintro ⟨⟨k, op⟩, mem, rfl⟩
    exact ⟨op, (ofKey?_eq_some_iff _ _).2 mem⟩
  · rintro ⟨op, h⟩
    exact ⟨(key, op), (ofKey?_eq_some_iff _ _).1 h, rfl⟩

/-- A missing field passes exactly the two negations. -/
theorem holds_none (op : FieldOp) (operand : Value) :
    op.holds none operand = true ↔ op = .ne ∨ op = .noneOf := by
  simp [holds]

/-- The comparison that a key names is the one that the query language describes. -/
theorem holds_iff_passes {key : String} {op : FieldOp} (h : ofKey? key = some op)
    (found : Option Value) (operand : Value) :
    op.holds found operand = true ↔ Query.Passes key found operand := by
  have mem := (ofKey?_eq_some_iff key op).1 h
  -- A field that is missing passes the negations; one that is there is compared, operator by
  -- operator.
  cases found with
  | none =>
    have negates : ∀ pair ∈ keyed,
        (pair.2 = .ne ∨ pair.2 = .noneOf) ↔ pair.1 ∈ Query.negations := by decide
    rw [holds_none]
    exact negates (key, op) mem
  | some x =>
    show _ ↔ Query.Compares key x operand
    simp only [keyed, List.mem_cons, Prod.mk.injEq, List.not_mem_nil, or_false] at mem
    rcases mem with ⟨rfl, rfl⟩ | ⟨rfl, rfl⟩ | ⟨rfl, rfl⟩ | ⟨rfl, rfl⟩ | ⟨rfl, rfl⟩ | ⟨rfl, rfl⟩ |
      ⟨rfl, rfl⟩ | ⟨rfl, rfl⟩
    · exact Value.isMember_iff x operand
    · show (!x.comparand.isMember operand.comparand) = true ↔ ¬ Query.Member x operand
      rw [← Value.isMember_iff, Bool.not_eq_true', Bool.not_eq_true]
    all_goals simp [holds, Query.Compares, Query.order?, Value.equals]

end FieldOp

/-! ## The predicate of a query

  The compiler and the relation go down a query in the same way, so the proof is by induction on
  the query, with one statement for each function of the compiler. -/

namespace Query

/-- There is one way for a query to hold. -/
theorem holds_iff (doc query : Document) :
    Holds doc query ↔ ∀ entry ∈ query, EntryHolds doc entry.1 entry.2 :=
  ⟨fun h => by cases h with | intro all => exact all, .intro⟩

theorem dollar_or : Dollar "$or" := ⟨['o', 'r'], rfl⟩

/-- A list of alternatives holds if one of them does, and in no other way. -/
theorem entryHolds_array_iff (doc : Document) (items : List Value) :
    EntryHolds doc "$or" (.array items) ↔
      ∃ query, Value.document query ∈ items ∧ Holds doc query := by
  constructor
  · intro h
    cases h with
    | branch _ mem holds => exact ⟨_, mem, holds⟩
    | reserved _ notOr => exact absurd rfl notOr
    | equal plain => exact absurd dollar_or plain
  · rintro ⟨query, mem, holds⟩
    exact .branch rfl mem holds

/-- An alternative that stands alone needs no list around it. -/
theorem entryHolds_document_iff (doc query : Document) :
    EntryHolds doc "$or" (.document query) ↔ Holds doc query := by
  constructor
  · intro h
    cases h with
    | single _ holds => exact holds
    | reserved _ notOr => exact absurd rfl notOr
    | operators plain => exact absurd dollar_or plain
    | equal plain => exact absurd dollar_or plain
  · exact .single rfl

/-- The comparisons of a field that are found among its operators, with what else stands there left
    out, are met exactly when the field passes each of them. -/
theorem comparisons_iff (doc : Document) (key : String) (fields : Document) :
    Expr.allMatch doc (fields.filterMap fun entry =>
        (FieldOp.ofKey? entry.1).map fun op => .field key op entry.2) = true ↔
      ∀ entry ∈ fields, entry.1 ∈ operatorKeys → Passes entry.1 (doc.lookup key) entry.2 := by
  rw [Expr.allMatch_iff]
  constructor
  · intro all entry mem hkey
    obtain ⟨op, hop⟩ := (FieldOp.mem_operatorKeys_iff _).1 hkey
    have met : op.holds (doc.lookup key) entry.2 = true := by
      have h := all (.field key op entry.2)
        (List.mem_filterMap.2 ⟨entry, mem, by rw [hop, Option.map_some]⟩)
      rwa [Expr.matches] at h
    exact (FieldOp.holds_iff_passes hop _ _).1 met
  · -- Conversely, every comparison comes from an entry with an operator key.
    intro all e he
    obtain ⟨entry, mem, h⟩ := List.mem_filterMap.1 he
    obtain ⟨op, hop, rfl⟩ := Option.map_eq_some_iff.1 h
    have pass := all entry mem ((FieldOp.mem_operatorKeys_iff _).2 ⟨op, hop⟩)
    rw [Expr.matches]
    exact (FieldOp.holds_iff_passes hop _ _).2 pass

/-- The conditions that a field asks for are met together exactly when its entry holds. -/
theorem fieldConditions_iff {doc : Document} {key : String} (value : Value)
    (plain : ¬ Dollar key) :
    Expr.allMatch doc (Expr.fieldConditions key value) = true ↔ EntryHolds doc key value := by
  have notOr : key ≠ "$or" := fun h => plain (h ▸ dollar_or)
  -- Either the operators in the value are compared, or the value itself.
  cases hops : Expr.operators? value with
  | some fields =>
    obtain ⟨rfl, asks⟩ := (Expr.operators?_eq_some_iff _ _).1 hops
    rw [Expr.fieldConditions, hops, comparisons_iff]
    constructor
    · exact .operators plain asks
    · intro h
      cases h with
      | single or => exact absurd or notOr
      | reserved dollar => exact absurd dollar plain
      | operators _ _ all => exact all
      | equal _ whole => exact absurd asks whole
  | none =>
    have whole := (Expr.operators?_eq_none_iff value).1 hops
    rw [Expr.fieldConditions, hops, Expr.allMatch_iff]
    simp only [List.mem_singleton, forall_eq, Expr.matches]
    constructor
    · intro h
      cases found : doc.lookup key with
      | none => rw [found] at h; cases h
      | some x => rw [found] at h; exact .equal plain whole found h
    · intro h
      cases h with
      | branch or => exact absurd or notOr
      | single or => exact absurd or notOr
      | reserved dollar => exact absurd dollar plain
      | operators _ asks => exact absurd asks whole
      | equal _ _ found equal => rw [found]; exact equal

mutual

/-- The conditions of a list of entries are met together exactly when all the entries hold.  The
    three statements go down the query together: entries lead to the value under `$or`, this to
    its items, and each item that is a query to entries again. -/
theorem conditions_iff (doc : Document) : ∀ entries : List (String × Value),
    Expr.allMatch doc (Expr.conditions entries) = true ↔
      ∀ entry ∈ entries, EntryHolds doc entry.1 entry.2
  | [] => by simp [Expr.conditions, Expr.allMatch]
  | (key, value) :: rest => by
    have split : ∀ es, Expr.allMatch doc (es ++ Expr.conditions rest) = true ↔
        Expr.allMatch doc es = true ∧ ∀ entry ∈ rest, EntryHolds doc entry.1 entry.2 := by
      intro es
      rw [← conditions_iff doc rest, Expr.allMatch_iff, Expr.allMatch_iff, Expr.allMatch_iff]
      exact List.forall_mem_append
    rw [Expr.conditions, split, List.forall_mem_cons]
    refine and_congr_left fun _ => ?_
    -- By key: alternatives, something reserved that is passed over, or a field.
    by_cases or : key = Expr.orKey
    · subst or
      rw [if_pos rfl, Expr.allMatch_iff]
      simp only [List.mem_singleton, forall_eq, Expr.matches]
      exact branches_iff doc value
    · rw [if_neg or]
      by_cases dollar : Expr.isReserved key = true
      · rw [if_pos dollar]
        exact iff_of_true rfl (.reserved ((Expr.isReserved_iff key).1 dollar) or)
      · rw [if_neg dollar]
        exact fieldConditions_iff value fun h => dollar ((Expr.isReserved_iff key).2 h)

/-- One of the alternatives that a value under `$or` lists is met exactly when its entry holds. -/
theorem branches_iff (doc : Document) : ∀ value : Value,
    Expr.anyMatches doc (Expr.branches value) = true ↔ EntryHolds doc "$or" value := by
  intro value
  cases value with
  | array items =>
    rw [Expr.branches, entryHolds_array_iff]
    exact branchesOfItems_iff doc items
  | document fields =>
    rw [Expr.branches, entryHolds_document_iff, holds_iff, ← conditions_iff doc fields,
      ← Expr.ofConditions_matches, Expr.anyMatches_iff]
    simp only [List.mem_singleton, exists_eq_left]
  | _ =>
    -- Nothing else lists alternatives, and of a disjunction of none nothing holds.
    refine iff_of_false (by simp [Expr.branches, Expr.anyMatches]) fun h => ?_
    cases h with
    | reserved _ notOr => exact notOr rfl
    | equal plain => exact plain dollar_or

/-- Some query among the items of an array is met exactly when some query there holds. -/
theorem branchesOfItems_iff (doc : Document) : ∀ items : List Value,
    Expr.anyMatches doc (Expr.branchesOfItems items) = true ↔
      ∃ query, Value.document query ∈ items ∧ Holds doc query := by
  intro items
  cases items with
  | nil => simp [Expr.branchesOfItems, Expr.anyMatches]
  | cons item rest =>
    have ih := branchesOfItems_iff doc rest
    cases item with
    | document fields =>
      rw [Expr.branchesOfItems, Expr.anyMatches, Bool.or_eq_true, ih,
        Expr.ofConditions_matches, conditions_iff doc fields, ← holds_iff]
      constructor
      · rintro (h | ⟨query, mem, h⟩)
        · exact ⟨fields, List.mem_cons_self, h⟩
        · exact ⟨query, List.mem_cons_of_mem _ mem, h⟩
      · rintro ⟨query, mem, h⟩
        rcases List.mem_cons.1 mem with same | mem
        · cases same
          exact Or.inl h
        · exact Or.inr ⟨query, mem, h⟩
    | _ => simpa [Expr.branchesOfItems] using ih

end

end Query

namespace Expr

/-- **A predicate means what its query says.**  The predicate that a query compiles to holds of a
    document exactly when every entry of the query does, and writing the entries in another order
    changes nothing. -/
theorem matches_compile_iff_holds (doc query : Document) :
    ((compile query).matches doc = true ↔ Query.Holds doc query) ∧
    ∀ reordered : Document, reordered.Perm query →
      (compile reordered).matches doc = (compile query).matches doc := by
  have meaning : ∀ q : Document, (compile q).matches doc = true ↔ Query.Holds doc q := by
    intro q
    rw [compile, ofConditions_matches, Query.conditions_iff, Query.holds_iff]
  refine ⟨meaning query, fun reordered perm => ?_⟩
  rw [Bool.eq_iff_iff, meaning, meaning, Query.holds_iff, Query.holds_iff]
  constructor
  · intro all entry mem
    exact all entry (perm.mem_iff.2 mem)
  · intro all entry mem
    exact all entry (perm.mem_iff.1 mem)

end Expr

end DocStore
