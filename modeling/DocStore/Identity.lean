/-
  Which document an input names, and the shape in which callers see documents.

  Callers may give an identifier under `_id` or `id`, the former first.  `takeIdentifier` removes
  both and turns an identifier that is no text into its text; `namedBy?`, for documents that must
  exist already, accepts text only.  `toPublic` is the caller's view of a stored document: the
  identifier as `id` in front, and no revision.
-/
import DocStore.Document
import DocStore.Text.LowerCase
import DocStore.Value.Display

namespace DocStore

/-- The identifier that a value gives: non-empty text as it is, null and empty text none, anything
    else as its text. -/
def Value.identifier? : Value → Option String
  | .string s => if s.isEmpty then none else some s
  | .null => none
  | value => some value.display

namespace Document

/-- Removes the caller's identifier fields; the identifier is the first that they give. -/
def takeIdentifier (doc : Document) : Option String × Document :=
  let identifier := match (doc.get? Field.id).bind Value.identifier? with
    | some id => some id
    | none => (doc.get? Field.publicId).bind Value.identifier?
  (identifier, (doc.erase Field.id).erase Field.publicId)

/-- The non-empty text under a key. -/
def text? (doc : Document) (key : String) : Option String :=
  ((doc.get? key).bind Value.asString?).filter fun s => !s.isEmpty

/-- The stored document that the fields name. -/
def namedBy? (doc : Document) : Option String :=
  match doc.text? Field.id with
  | some id => some id
  | none => doc.text? Field.publicId

/-- The shape that callers see: `id` first, no `_id`, no revision.  A field `id` of the document
    itself replaces the identifier where it stands. -/
def toPublic (doc : Document) : Document :=
  let rest := (doc.erase Field.id).erase Field.revision
  match doc.get? Field.id with
  | some id => Entries.overlay [(Field.publicId, id)] rest
  | none => rest

end Document

/-- The identifier under which a new document is filed: of design documents in lower case, of all
    others as it is given. -/
def filedUnder (id : String) : String :=
  if isDesignId (Text.lowerCase id) then Text.lowerCase id else id

end DocStore
