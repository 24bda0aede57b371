/-
  Tests see values and not how they are spelled.

  A document and the literals of a predicate come from different places: what a store holds with
  its fields in one order and with narrow integers, a caller may ask for in another order and with
  wide ones.  `comparisons_see_values` says that this makes no difference to any predicate, wherever
  in the document or in the literals it is.  It also says what can be relied on when values are
  compared at all: equality goes both ways, every value without NaN equals itself, and equality goes
  on through every value without doubles.

  The crux is that a test asks of a document for comparands alone.  Paths lead through documents
  with one comparand to values with one comparand (`Document.comparand_lookup`), and so a predicate
  holds of both of them or of neither (`Expr.matches_of_comparand_eq`).  That spellings of one value
  have one comparand is known from their normal forms.
-/
import DocStore.Proofs.Comparand.Kinds
import DocStore.Proofs.Comparand.Spelling

namespace DocStore

/-- The entries that a comparison sees, where it sees a document. -/
def Comparand.entries? : Comparand → Option (Entries Comparand)
  | .map entries => some entries
  | _ => none

/-- The comparand has entries exactly if the value has fields. -/
theorem Value.entries?_comparand (x : Value) :
    x.comparand.entries? = x.asDocument?.map comparandFields := by
  cases x <;> rfl

/-! ## Paths

  A look-up along a path passes through values that comparisons see alike. -/

namespace Document

/-- Documents with the same comparands show the same to comparisons under every key. -/
theorem comparand_get? {doc other : Document}
    (h : Value.comparandFields doc = Value.comparandFields other) (key : String) :
    (doc.get? key).map Value.comparand = (other.get? key).map Value.comparand := by
  rw [← Value.get?_comparandFields, ← Value.get?_comparandFields, h]

/-- Keys lead through values with one comparand to values with one comparand. -/
theorem comparand_walk? : ∀ (keys : List String) {x y : Value}, x.comparand = y.comparand →
    (walk? x keys).map Value.comparand = (walk? y keys).map Value.comparand
  | [], x, y, h => congrArg some h
  | key :: keys, x, y, h => by
    have hentries := congrArg Comparand.entries? h
    rw [Value.entries?_comparand, Value.entries?_comparand] at hentries
    rw [walk?, walk?]
    cases hx : x.asDocument? with
    | none =>
      rw [hx, Option.map_none, eq_comm, Option.map_eq_none_iff] at hentries
      rw [hentries]
    | some doc =>
      rw [hx, Option.map_some, eq_comm, Option.map_eq_some_iff] at hentries
      obtain ⟨other, hy, hsame⟩ := hentries
      have hget := comparand_get? hsame key
      rw [hy, Option.bind_some, Option.bind_some]
      cases hdoc : doc.get? key with
      | none =>
        rw [hdoc, Option.map_none, Option.map_eq_none_iff] at hget
        rw [hget]
      | some v =>
        rw [hdoc, Option.map_some, Option.map_eq_some_iff] at hget
        obtain ⟨w, hother, hvalue⟩ := hget
        rw [hother]
        exact comparand_walk? keys hvalue.symm

theorem comparand_lookup {doc other : Document}
    (h : Value.comparandFields doc = Value.comparandFields other) (path : String) :
    (doc.lookup path).map Value.comparand = (other.lookup path).map Value.comparand := by
  have hget := comparand_get? h path
  rw [lookup, lookup]
  cases hdoc : doc.get? path with
  | none =>
    rw [hdoc, Option.map_none, eq_comm, Option.map_eq_none_iff] at hget
    rw [hget]
    exact comparand_walk? _ (congrArg Comparand.map h)
  | some v =>
    rw [hdoc, Option.map_some, eq_comm, Option.map_eq_some_iff] at hget
    obtain ⟨w, hother, hvalue⟩ := hget
    rw [hother]
    exact congrArg some hvalue.symm

end Document

/-! ## Predicates

  By induction, a predicate sees comparands on both sides of each comparison. -/

/-- A comparison asks for comparands alone. -/
theorem FieldOp.holds_congr {found found' : Option Value} {literal literal' : Value}
    (hfound : found.map Value.comparand = found'.map Value.comparand)
    (hliteral : literal.comparand = literal'.comparand) (op : FieldOp) :
    op.holds found literal = op.holds found' literal' := by
  cases found with
  | none =>
    rw [Option.map_none, eq_comm, Option.map_eq_none_iff] at hfound
    rw [hfound]
    rfl
  | some x =>
    rw [Option.map_some, eq_comm, Option.map_eq_some_iff] at hfound
    obtain ⟨y, rfl, hvalue⟩ := hfound
    simp only [holds, hvalue, hliteral]

namespace Expr

/-- Two predicates that differ in nothing but the spelling of their literals. -/
inductive Respelled : Expr → Expr → Prop
  | literal (path : String) (op : FieldOp) {x y : Value} (h : x.Respelled y) :
      Respelled (.field path op x) (.field path op y)
  | conjunct (before after : List Expr) {e f : Expr} (h : Respelled e f) :
      Respelled (.and (before ++ e :: after)) (.and (before ++ f :: after))
  | disjunct (before after : List Expr) {e f : Expr} (h : Respelled e f) :
      Respelled (.or (before ++ e :: after)) (.or (before ++ f :: after))
  | refl (e : Expr) : Respelled e e
  | symm {e f : Expr} (h : Respelled e f) : Respelled f e
  | trans {e f g : Expr} (h : Respelled e f) (h' : Respelled f g) : Respelled e g

mutual

/-- A predicate asks a document for comparands alone. -/
theorem matches_of_comparand_eq {doc other : Document}
    (h : Value.comparandFields doc = Value.comparandFields other) :
    ∀ e : Expr, e.matches doc = e.matches other
  | .and exprs => allMatch_of_comparand_eq h exprs
  | .or exprs => anyMatches_of_comparand_eq h exprs
  | .field path op _ => FieldOp.holds_congr (Document.comparand_lookup h path) rfl op

theorem allMatch_of_comparand_eq {doc other : Document}
    (h : Value.comparandFields doc = Value.comparandFields other) :
    ∀ exprs : List Expr, allMatch doc exprs = allMatch other exprs
  | [] => rfl
  | e :: rest => by
    rw [allMatch, allMatch, matches_of_comparand_eq h e, allMatch_of_comparand_eq h rest]

theorem anyMatches_of_comparand_eq {doc other : Document}
    (h : Value.comparandFields doc = Value.comparandFields other) :
    ∀ exprs : List Expr, anyMatches doc exprs = anyMatches other exprs
  | [] => rfl
  | e :: rest => by
    rw [anyMatches, anyMatches, matches_of_comparand_eq h e, anyMatches_of_comparand_eq h rest]

end

/-- One predicate in a conjunction may be replaced by one that comes to the same. -/
theorem allMatch_congr {doc : Document} {e f : Expr} (before after : List Expr)
    (h : e.matches doc = f.matches doc) :
    allMatch doc (before ++ e :: after) = allMatch doc (before ++ f :: after) := by
  induction before with
  | nil => exact congrArg (· && allMatch doc after) h
  | cons first rest ih => exact congrArg (first.matches doc && ·) ih

theorem anyMatches_congr {doc : Document} {e f : Expr} (before after : List Expr)
    (h : e.matches doc = f.matches doc) :
    anyMatches doc (before ++ e :: after) = anyMatches doc (before ++ f :: after) := by
  induction before with
  | nil => exact congrArg (· || anyMatches doc after) h
  | cons first rest ih => exact congrArg (first.matches doc || ·) ih

/-- How literals are spelled makes no difference to a predicate. -/
theorem Respelled.matches_eq {e f : Expr} (h : e.Respelled f) (doc : Document) :
    e.matches doc = f.matches doc := by
  induction h with
  | literal path op hvalue => exact FieldOp.holds_congr rfl hvalue.comparand_eq op
  | conjunct before after _ ih => exact allMatch_congr before after ih
  | disjunct before after _ ih => exact anyMatches_congr before after ih
  | refl e => rfl
  | symm _ ih => exact ih.symm
  | trans _ _ ih ih' => exact ih.trans ih'

end Expr

/-- **Comparisons see values and not their spelling.**  The test for equality is an equality of
    values.  It goes both ways; every value without NaN inside is equal to itself; and what equals a
    value without doubles inside equals whatever that value equals.
    A predicate holds of a document exactly if it holds, with its literals spelled in any other way,
    of the document spelled in any other way. -/
theorem comparisons_see_values :
    (∀ doc path x y, Document.lookup doc path = some x →
      (Expr.field path .eq y).matches doc = x.equals y) ∧
    (∀ x y : Value, x.equals y = y.equals x) ∧
    (∀ x : Value, x.NaNFree → x.equals x = true) ∧
    (∀ x y z : Value, y.DoubleFree → x.equals y = true → y.equals z = true →
      x.equals z = true) ∧
    (∀ (doc other : Document) (e f : Expr), Value.Respelled (.document doc) (.document other) →
      e.Respelled f → e.matches doc = f.matches other) := by
  refine ⟨?tests, Value.equals_comm, Value.equals_self, fun _ _ _ => Value.equals_trans, ?spelled⟩
  case tests =>
    intro doc path x y hlookup
    rw [Expr.matches_of_lookup hlookup, FieldOp.holds_eq]
  case spelled =>
    intro doc other e f hdoc hexpr
    have hfields : Value.comparandFields doc = Value.comparandFields other :=
      Comparand.map.inj hdoc.comparand_eq
    rw [Expr.matches_of_comparand_eq hfields, hexpr.matches_eq]

/-- A note, and the same note with wide integers and its fields in another order. -/
def noteOnce : Document :=
  [("n", .int32 1), ("place", .document [("city", .string "Oslo"), ("zip", .int32 150)])]

def noteAgain : Document :=
  [("place", .document [("zip", .int64 150), ("city", .string "Oslo")]), ("n", .int64 1)]

/-- Both pass the test for being in one place, each in a spelling of its own, and a double that
    equals an integer equals the wide form of that, too. -/
theorem noteOnce_is_noteAgain :
    let place : Value := .document [("city", .string "Oslo"), ("zip", .int32 150)]
    let asked : Value := .document [("zip", .int64 150), ("city", .string "Oslo")]
    Value.Respelled (.document noteOnce) (.document noteAgain) ∧ place.Respelled asked ∧
    (Expr.and [.field "place" .eq asked]).matches noteOnce =
      (Expr.and [.field "place" .eq place]).matches noteAgain ∧
    place.NaNFree ∧ (Expr.field "place" .eq place).matches noteOnce = true ∧
    (Value.int32 1).DoubleFree ∧ (Value.double ⟨0x3FF0000000000000⟩).equals (.int32 1) = true ∧
    (Value.int32 1).equals (.int64 1) = true ∧
    (Value.double ⟨0x3FF0000000000000⟩).equals (.int64 1) = true := by
  intro place asked
  obtain ⟨tests, -, self, through, spelled⟩ := comparisons_see_values
  have hplace : place.Respelled asked := by
    have hdistinct : place.Distinct := ⟨by decide, trivial, trivial, trivial⟩
    have hasked : asked.Distinct := ⟨by decide, trivial, trivial, trivial⟩
    exact (Value.respelled_iff hdistinct hasked).2 rfl
  have hnote : Value.Respelled (.document noteOnce) (.document noteAgain) := by
    -- The place is spelled anew where it stands, then the fields change places.
    have hinner : Value.Respelled (.document noteOnce)
        (.document [("n", .int64 1), ("place", asked)]) :=
      .trans (.field [] "n" _ (.widened 1)) (.field [("n", .int64 1)] "place" [] hplace)
    exact hinner.trans (.reordered (by decide) (.swap _ _ _))
  have hfree : place.NaNFree := ⟨trivial, trivial, trivial⟩
  have hself : (Expr.field "place" .eq place).matches noteOnce = true := by
    rw [tests noteOnce "place" place place rfl, self place hfree]
  have hdouble : (Value.double ⟨0x3FF0000000000000⟩).equals (.int32 1) = true := by decide +kernel
  have hwide : (Value.int32 1).equals (.int64 1) = true := rfl
  have hthrough :=
    through (.double ⟨0x3FF0000000000000⟩) (.int32 1) (.int64 1) trivial hdouble hwide
  exact ⟨hnote, hplace, spelled _ _ _ _ hnote (.conjunct [] [] (.literal "place" .eq hplace.symm)),
    hfree, hself, trivial, hdouble, hwide, hthrough⟩

end DocStore
