/-
  The shape of the rows that a view emits.

  A projection keeps the whole document or a list of its top-level fields.  Identifier and
  revision are always kept and come first; the other fields follow in the order of the list, each
  once.
-/
import DocStore.Document

namespace DocStore

inductive Projection where
  /-- The whole document. -/
  | all
  /-- Identifier, revision and the listed fields. -/
  | fields (names : List String)
deriving DecidableEq, Inhabited, Repr

namespace Projection

/-- The projection for an optional list of fields. -/
def ofSelect : Option (List String) → Projection
  | some names => .fields names
  | none => .all

/-- Adds the named fields that the document has to those already kept. -/
def gather (doc : Document) : Document → List String → Document
  | kept, [] => kept
  | kept, name :: rest =>
      if kept.contains name then gather doc kept rest
      else match doc.get? name with
        | some value => gather doc (kept.insert name value) rest
        | none => gather doc kept rest

/-- The document in this shape. -/
def apply (projection : Projection) (doc : Document) : Document :=
  match projection with
  | .all => doc
  | .fields names => gather doc [] (Field.id :: Field.revision :: names)

end Projection

end DocStore
