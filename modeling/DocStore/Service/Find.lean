/-
  Finding documents.

  A find runs a view: the one stored under the name that the filters give, else the one that query
  and selection compile to.  The view picks the page, in the order of the identifiers; an order
  asked for only sorts what is on the page, and sorting is stable.  Every row is shown with the
  identifier of the document that emitted it.
-/
import DocStore.Identity
import DocStore.Query.Filters
import DocStore.Service.Basic
import DocStore.View.Plan

namespace DocStore

/-- A row as callers see it, cut down to `id` and the selected fields. -/
def Row.toPublic (row : Row) (select : Option (List String)) : Document :=
  let value :=
    if row.value.contains Field.id then row.value else row.value.insert Field.id (.string row.id)
  let doc := Document.toPublic value
  match select with
  | some names => doc.filter fun field => field.1 == Field.publicId || names.contains field.1
  | none => doc

namespace SortOrder

/-- The order of two documents. -/
def compare (order : SortOrder) (a b : Document) : Ordering :=
  let ordering := compareValues (a.lookup order.path) (b.lookup order.path)
  match order.direction with
  | .ascending => ordering
  | .descending => ordering.swap

/-- The documents in this order; what has no order among itself stays as it stands.

    The comparison is an ordering only over values of one kind.  Over others it need not be
    transitive: by `n`, the documents `{n: 2}`, `{}` and `{n: 1}` stand in no order at all, as what
    is missing ties with both numbers.  What comes out then is up to the algorithm, another one may
    put another document first, and nothing is to be relied on but that it is a rearrangement and
    that it depends on the outcomes of the comparisons alone. -/
def sort (order : SortOrder) (docs : List Document) : List Document :=
  docs.mergeSort fun a b => order.compare a b != .gt

end SortOrder

namespace Service

variable {σ : Type}

/-- What a find runs. -/
def plan (query : Document) (filters : Filters) : Except InputFault Plan :=
  match filters.view with
  | some name =>
      match ViewName.ofText? name with
      | some view => .ok (.stored view)
      | none => .error (.badViewName name)
  | none => .ok (.transient (Definition.compile query filters.select))

/-- The page that the rows of a view make. -/
def pageOf (filters : Filters) (limit skip : Nat) (result : ViewResult) : Page :=
  let shown := result.rows.map (·.toPublic filters.select)
  let data := match filters.sort with
    | some order => order.sort shown
    | none => shown
  ⟨result.totalRows, limit, skip, data⟩

/-- Finds the documents that satisfy a query. -/
def find (service : Service σ) (query : Document) (filters : Filters) : Operation σ Page := do
  let plan ← .ofExcept ((plan query filters).mapError ServiceError.invalidInput)
  let limit := service.paginate.limit filters.limit
  let skip := filters.skip.getD 0
  let result ← reported do
    service.opened
    onStore (plan.run service.backend service.model ⟨some limit, skip⟩)
  return pageOf filters limit skip result

/-- Finds with a raw query, which carries its filters. -/
def findRaw (service : Service σ) (raw : Document) : Operation σ Page :=
  let (query, filters) := Filters.ofRaw raw
  service.find query filters

end Service

end DocStore
