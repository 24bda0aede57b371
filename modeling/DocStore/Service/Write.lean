/-
  Reading and writing single documents and batches.

  Callers see identifiers as `id` and never see revisions, and the fields in which they give
  identifiers and revisions are never stored.  Batches are handled one element after another in
  the order given; the first failure ends them, and what was written before it stays.
-/
import DocStore.Identity
import DocStore.Service.Basic

namespace DocStore

/-- One document or a batch. -/
inductive Payload where
  | single (doc : Document)
  | batch (docs : List Document)
deriving Inhabited

namespace Service

variable {σ : Type}

/-- Reads a stored document as the store shows it. -/
def fetch (service : Service σ) (id : String) : Action (Handle σ) StoreError Document :=
  service.askOpened (.getDocument service.model id)

/-- Reads a document. -/
def get (service : Service σ) (id : String) : Operation σ Document := do
  return (← reported (service.fetch id)).toPublic

/-! ## Creating -/

/-- Stores a new document, under the identifier that it gives or one that the store assigns. -/
def createOne (service : Service σ) (doc : Document) : Action (Handle σ) StoreError Document := do
  let (id, rest) := doc.takeIdentifier
  let body := rest.erase Field.revision
  let receipt ← service.ask (.saveDocument service.model (id.map filedUnder) body)
  return Document.toPublic (body.insert Field.id (.string receipt.id))

/-- Stores new documents. -/
def create (service : Service σ) (payload : Payload) : Operation σ Payload :=
  reported do
    service.opened
    match payload with
    | .single doc => return .single (← service.createOne doc)
    | .batch docs => return .batch (← Action.each service.createOne docs)

/-! ## Changing -/

/-- The fields of a patch that are written. -/
def patchFields (data : Document) : Document :=
  data.takeIdentifier.2.erase Field.revision

/-- Writes fields over a stored document and reads it again. -/
def patch (service : Service σ) (id : String) (data : Document) : Operation σ Document := do
  let _ ← reported (service.askOpened (.mergeDocument service.model id (patchFields data)))
  service.get id

/-- Replaces a stored document under the revision that the new one carries, or patches it where the
    new one carries none. -/
def updateOne (service : Service σ) (id : String) (doc : Document) : Operation σ Document := do
  if doc.revision?.isNone then
    service.patch id doc
  else
    let body := doc.takeIdentifier.2
    let _ ← reported (service.askOpened (.saveDocument service.model (some id) body))
    service.get id

/-- The stored documents that a batch names, each with its replacement. -/
def targets : List Document → Except InputFault (List (String × Document))
  | [] => .ok []
  | doc :: rest =>
      match doc.namedBy? with
      | some id => (targets rest).map ((id, doc) :: ·)
      | none => .error .noIdentifier

/-- Replaces a batch of documents, each under the identifier that it gives. -/
def update (service : Service σ) (payload : Payload) : Operation σ (List Document) :=
  match payload with
  | .single _ => throw (.invalidInput .notABatch)
  | .batch docs => do
      let targets ← .ofExcept ((targets docs).mapError ServiceError.invalidInput)
      Action.each (fun (id, doc) => service.updateOne id doc) targets

/-! ## Removing -/

/-- The revision that a removal names: the one given, or the one read. -/
def revisionFor (service : Service σ) (id : String) (revision : Option String) :
    Action (Handle σ) StoreError String := do
  match revision with
  | some revision => return revision
  | none =>
      match (← service.fetch id).revision? with
      | some revision => return revision
      | none => throw (.invalidDocument ("Document " ++ id ++ " has no revision"))

/-- Removes a document under a revision; without one, under the revision that it has when read. -/
def remove (service : Service σ) (id : String) (revision : Option String) : Operation σ Receipt :=
  reported do
    service.opened
    let revision ← service.revisionFor id revision
    service.ask (.removeDocument service.model id revision)

end Service

end DocStore
