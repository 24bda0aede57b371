/-
  Predicates over documents, and how a query becomes one.

  An `Expr` is plain data: conjunctions and disjunctions over comparisons of a field with a
  literal.  An empty conjunction holds of every document, an empty disjunction of none.

  A query is a document.  A field whose value is a document with some key in `$` compares the
  field by the operators among those keys; any other field asks for equality with its value.
  `$or` takes an array of queries, of which one has to hold, or one query; other top-level keys in
  `$` and unknown operators are passed over.  A query with exactly one condition compiles to that
  condition alone.
-/
import DocStore.Document

namespace DocStore

/-- The comparisons of a field with a literal. -/
inductive FieldOp where
  | eq
  | ne
  | gt
  | gte
  | lt
  | lte
  /-- The field equals one of the listed values. -/
  | oneOf
  /-- The field equals none of the listed values. -/
  | noneOf
deriving DecidableEq, Inhabited, Repr

namespace FieldOp

/-- The operator that a key of the query language names. -/
def ofKey? : String → Option FieldOp
  | "$in" => some .oneOf
  | "$nin" => some .noneOf
  | "$ne" => some .ne
  | "$not" => some .ne
  | "$lt" => some .lt
  | "$lte" => some .lte
  | "$gt" => some .gt
  | "$gte" => some .gte
  | _ => none

/-- The name of an operator in a stored definition. -/
def name : FieldOp → String
  | .eq => "eq"
  | .ne => "ne"
  | .gt => "gt"
  | .gte => "gte"
  | .lt => "lt"
  | .lte => "lte"
  | .oneOf => "in"
  | .noneOf => "not_in"

/-- The operator with this name. -/
def ofName? : String → Option FieldOp
  | "eq" => some .eq
  | "ne" => some .ne
  | "gt" => some .gt
  | "gte" => some .gte
  | "lt" => some .lt
  | "lte" => some .lte
  | "in" => some .oneOf
  | "not_in" => some .noneOf
  | _ => none

end FieldOp

/-- A predicate over documents. -/
inductive Expr where
  | and (exprs : List Expr)
  | or (exprs : List Expr)
  | field (name : String) (op : FieldOp) (literal : Value)
deriving Inhabited

namespace Expr

/-- Holds of every document. -/
def all : Expr := .and []

/-- Adds a condition: behind the others of a conjunction, else beside the expression. -/
def conjoin (e other : Expr) : Expr :=
  match e with
  | .and exprs => .and (exprs ++ [other])
  | _ => .and [e, other]

/-- Adds an alternative: behind the others of a disjunction, else beside the expression. -/
def disjoin (e other : Expr) : Expr :=
  match e with
  | .or exprs => .or (exprs ++ [other])
  | _ => .or [e, other]

/-- One condition alone, any other number as a conjunction. -/
def ofConditions : List Expr → Expr
  | [condition] => condition
  | conditions => .and conditions

/-- Whether a key belongs to the query language. -/
def isReserved (key : String) : Bool :=
  Text.startsWith "$" key

/-- The operators, if the value of a field asks for some. -/
def operators? (value : Value) : Option Document :=
  value.asDocument?.filter fun fields => fields.any fun entry => isReserved entry.1

/-- The conditions that a field with this value asks for. -/
def fieldConditions (name : String) (value : Value) : List Expr :=
  match operators? value with
  | some fields =>
      fields.filterMap fun entry =>
        (FieldOp.ofKey? entry.1).map fun op => .field name op entry.2
  | none => [.field name .eq value]

/-- The top-level key whose value lists alternatives. -/
def orKey : String := "$or"

mutual

/-- The conditions that the entries of a query ask for. -/
def conditions : List (String × Value) → List Expr
  | [] => []
  | (key, value) :: rest =>
      (if key = orKey then [.or (branches value)]
      else if isReserved key then []
      else fieldConditions key value) ++ conditions rest

/-- The alternatives that a value under `$or` lists. -/
def branches : Value → List Expr
  | .array items => branchesOfItems items
  | .document fields => [ofConditions (conditions fields)]
  | _ => []

/-- The alternatives among the items of an array; what is no query is passed over. -/
def branchesOfItems : List Value → List Expr
  | [] => []
  | .document fields :: rest => ofConditions (conditions fields) :: branchesOfItems rest
  | _ :: rest => branchesOfItems rest

end

/-- The predicate that a query stands for. -/
def compile (query : Document) : Expr :=
  ofConditions (conditions query)

end Expr

end DocStore
