/-
  The service: its settings, its handle on a store, and how it opens its database.

  A service works on one database, named like its model in lower case.  Before its first access it
  makes sure that the database exists, and creates it where it does not; that somebody else was
  quicker counts as success.  Once this has succeeded it is not done again; a failure is
  forgotten, so the next operation tries anew.  The handle carries that flag along with the state
  of the store.
-/
import DocStore.Page
import DocStore.Store.Request
import DocStore.Text.LowerCase

namespace DocStore

/-- A service over a store. -/
structure Service (σ : Type) where
  backend : Backend σ
  /-- The name of the model and of the database. -/
  model : String
  paginate : Paginate

/-- What the operations of a service act on: the store, and whether its database is known to
    exist. -/
structure Handle (σ : Type) where
  store : σ
  ready : Bool := false
deriving Inhabited

/-- An operation of a service. -/
abbrev Operation (σ α : Type) := Action (Handle σ) ServiceError α

namespace Service

variable {σ : Type}

/-- What a service is built from; each part may be missing. -/
structure Options (σ : Type) where
  connection : Option (Backend σ) := none
  model : Option String := none
  paginate : Option Paginate := none

/-- Builds a service without touching the store.  Connection and a non-empty model are needed; that
    nothing at all is given is reported first. -/
def build (options : Options σ) : Except ServiceError (Service σ) :=
  if options.connection.isNone && options.model.isNone && options.paginate.isNone then
    .error (.invalidInput .noOptions)
  else match options.connection, options.model.filter (!·.isEmpty) with
    | none, _ => .error (.invalidInput .noConnection)
    | some _, none => .error (.invalidInput .noModel)
    | some backend, some model =>
        .ok ⟨backend, Text.lowerCase model, options.paginate.getD {}⟩

/-! ## Access to the store -/

/-- Acts on the store behind the handle. -/
def onStore {ε α : Type} (action : Action σ ε α) : Action (Handle σ) ε α :=
  action.onPart Handle.store fun store handle => { handle with store := store }

/-- Asks the store. -/
def ask (service : Service σ) (request : Request) :
    Action (Handle σ) StoreError request.Answer :=
  onStore (service.backend.answer request)

/-- Makes sure that the database exists. -/
def ensureExists (service : Service σ) : Action (Handle σ) StoreError Unit := do
  if ← service.ask (.databaseExists service.model) then
    return ()
  match ← (service.ask (.createDatabase service.model)).attempt with
  | .ok _ => return ()
  | .error (.databaseExists _) => return ()
  | .error error => throw error

/-- Makes sure, once, that the database exists. -/
def opened (service : Service σ) : Action (Handle σ) StoreError Unit := do
  if (← get).ready then
    return ()
  service.ensureExists
  modify fun handle => { handle with ready := true }

/-- Asks the store, once the database is known to exist. -/
def askOpened (service : Service σ) (request : Request) :
    Action (Handle σ) StoreError request.Answer := do
  service.opened
  service.ask request

/-- Reports store errors as errors of the service. -/
def reported {α : Type} (action : Action (Handle σ) StoreError α) : Operation σ α :=
  action.mapError ServiceError.ofStore

/-- Makes sure that the database exists. -/
def connect (service : Service σ) : Operation σ Unit :=
  reported service.opened

end Service

end DocStore
