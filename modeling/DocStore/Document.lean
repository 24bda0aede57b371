/-
  The fields of a document that the library gives a meaning to, and paths into documents.

  A stored document carries its identifier under `_id` and its revision under `_rev`.  Callers see
  the identifier as `id` and never a revision.  Identifiers that begin with `_design/` belong to
  design documents, which hold views.

  `lookup` resolves a path.  A key equal to the whole path wins; only where there is none is the
  path cut at its dots and walked through nested documents, never through arrays.
-/
import DocStore.Value
import DocStore.Text.Pieces

namespace DocStore

namespace Field

/-- Holds the identifier of a stored document. -/
def id : String := "_id"

/-- Holds the revision of a stored document. -/
def revision : String := "_rev"

/-- Holds the identifier where callers see a document. -/
def publicId : String := "id"

end Field

/-- What the identifiers of design documents begin with. -/
def designNamespace : String := "_design/"

/-- Whether an identifier belongs to a design document. -/
def isDesignId (id : String) : Bool :=
  Text.startsWith designNamespace id

namespace Document

/-- The identifier of a stored document, if it is text. -/
def id? (doc : Document) : Option String :=
  (doc.get? Field.id).bind Value.asString?

/-- The revision of a stored document, if it is text. -/
def revision? (doc : Document) : Option String :=
  (doc.get? Field.revision).bind Value.asString?

/-- A revision is text under its name. -/
theorem revision?_of_text {doc : Document} {revision : String}
    (h : doc.get? Field.revision = some (.string revision)) : doc.revision? = some revision := by
  rw [revision?, h]
  rfl

/-- And whoever has one has it there. -/
theorem get?_of_revision? {doc : Document} {revision : String} (h : doc.revision? = some revision) :
    doc.get? Field.revision = some (.string revision) := by
  obtain ⟨value, hvalue, hstring⟩ := Option.bind_eq_some_iff.1 h
  cases value with
  | string s =>
    cases hstring
    exact hvalue
  | _ => cases hstring

/-- Anything else under the name is no revision, so it is as if there were none. -/
theorem revision?_of_no_text {doc : Document} {value : Value}
    (h : doc.get? Field.revision = some value) (htext : ∀ revision, value ≠ .string revision) :
    doc.revision? = none := by
  rw [revision?, h, Option.bind_some]
  cases value with
  | string revision => exact absurd rfl (htext revision)
  | _ => rfl

/-- Walks keys through nested documents. -/
def walk? (value : Value) : List String → Option Value
  | [] => some value
  | key :: keys =>
      value.asDocument?.bind fun fields => (fields.get? key).bind fun inner => walk? inner keys

/-- The value at a path: under the whole path as a key, else along its dots. -/
def lookup (doc : Document) (path : String) : Option Value :=
  match doc.get? path with
  | some value => some value
  | none => walk? (.document doc) (Text.split '.' path)

end Document

end DocStore
