/-
  Views: a predicate and the shape of the rows it emits.

  Evaluating a view maps it over the documents in their order.  Design documents and documents
  without a textual identifier emit nothing.  The total counts every row emitted, and only then
  are rows passed over and cut off.
-/
import DocStore.Projection
import DocStore.Query.Matching
import DocStore.Value.Equality

namespace DocStore

/-- A predicate and the shape of the rows it emits. -/
structure Definition where
  predicate : Expr
  projection : Projection
deriving Inhabited

/-- Which of the emitted rows are returned. -/
structure ViewOptions where
  /-- The greatest number of rows; none for all. -/
  limit : Option Nat := none
  /-- The number of rows to pass over. -/
  skip : Nat := 0
deriving DecidableEq, Inhabited, Repr

/-- One emitted row. -/
structure Row where
  /-- The identifier of the document that emitted it. -/
  id : String
  key : Value
  value : Document
deriving Inhabited

/-- The rows that a view returns. -/
structure ViewResult where
  /-- The number of rows emitted before any were passed over or cut off. -/
  totalRows : Nat
  offset : Nat
  rows : List Row
deriving Inhabited

/-- The rows left after passing over and cutting off. -/
def ViewOptions.page {α : Type} (options : ViewOptions) (rows : List α) : List α :=
  match options.limit with
  | some limit => (rows.drop options.skip).take limit
  | none => rows.drop options.skip

mutual

/-- Equality of predicates with the numbers in literals compared as numbers. -/
def Expr.same : Expr → Expr → Bool
  | .and exprs, .and others => Expr.sameItems exprs others
  | .or exprs, .or others => Expr.sameItems exprs others
  | .field name op literal, .field other op' literal' =>
      name == other && op == op' && literal.same literal'
  | _, _ => false

def Expr.sameItems : List Expr → List Expr → Bool
  | [], [] => true
  | e :: rest, other :: others => e.same other && Expr.sameItems rest others
  | _, _ => false

end

namespace Definition

/-- Equality of definitions with the numbers in literals compared as numbers. -/
def same (view other : Definition) : Bool :=
  view.predicate.same other.predicate && view.projection == other.projection

/-- The view that a query and an optional list of fields stand for. -/
def compile (query : Document) (select : Option (List String)) : Definition :=
  ⟨Expr.compile query, Projection.ofSelect select⟩

/-- The document in its shape, if it satisfies the predicate. -/
def map (view : Definition) (doc : Document) : Option Document :=
  if view.predicate.matches doc then some (view.projection.apply doc) else none

/-- The row that a stored document emits. -/
def row? (view : Definition) (doc : Document) : Option Row :=
  match doc.id? with
  | none => none
  | some id => if isDesignId id then none else (view.map doc).map fun value => ⟨id, .null, value⟩

/-- Runs the view over documents. -/
def evaluate (view : Definition) (docs : List Document) (options : ViewOptions) : ViewResult :=
  let emitted := docs.filterMap view.row?
  ⟨emitted.length, options.skip, options.page emitted⟩

end Definition

end DocStore
