/-
  What can go wrong, in the store and in the service.

  A `StoreError` is what a store reports.  Each carries a status as replies over the web do, or
  none.  A `ServiceError` is what callers of the service see: a missing document and a stale
  revision are kept apart, bad input is recognised before the store is called, and all else is a
  general failure.  Store errors become service errors by their status alone.  The wording of both
  is here and nowhere else.
-/
import DocStore.Document

namespace DocStore

/-- Why a value cannot be read as what it should stand for. -/
inductive DecodeError where
  /-- The value under a tagged key has not the form that the tag asks for. -/
  | badPayload (tag : String)
  /-- A field follows a tagged key. -/
  | fieldAfterTag (key : String)
  /-- An integer is too great for any integer of a document. -/
  | integerTooGreat (n : Int)
  /-- A tagged object stands where a document is wanted. -/
  | notADocument
  | missing (key : String)
  | unknownName (name : String)
  | expected (what : String)
deriving DecidableEq, Inhabited, Repr

def DecodeError.message : DecodeError → String
  | .badPayload tag => "invalid value under " ++ tag
  | .fieldAfterTag key => "unexpected field " ++ key
  | .integerTooGreat n => "integer out of range: " ++ toString n
  | .notADocument => "expected a document"
  | .missing key => "missing field " ++ key
  | .unknownName name => "unknown name " ++ name
  | .expected what => "expected " ++ what

inductive StoreError where
  | notFound (id database : String)
  | databaseNotFound (database : String)
  /-- The revision named is not the stored one. -/
  | conflict (id database : String)
  | databaseExists (database : String)
  /-- The store evaluates only views that are stored in it. -/
  | viewUnsupported
  | invalidDocument (reason : String)
  | serialization (reason : String)
  /-- The store could not be reached or did not answer. -/
  | backend (reason : String)
  /-- A reply of the store that has no meaning of its own here. -/
  | reply (code : Nat) (error reason : String)
deriving DecidableEq, Inhabited, Repr

namespace StoreError

def message : StoreError → String
  | notFound id database => "Document " ++ id ++ " not found in database " ++ database
  | databaseNotFound database => "Database not found: " ++ database
  | conflict id database => "Document update conflict on " ++ id ++ " in database " ++ database
  | databaseExists database => "Database " ++ database ++ " already exists"
  | viewUnsupported => "Transient views are not supported by this store"
  | invalidDocument reason => "Invalid document: " ++ reason
  | serialization reason => "Serialization error: " ++ reason
  | backend reason => "Backend error: " ++ reason
  | reply code error reason =>
      "Store responded with " ++ toString code ++ " " ++ error ++ ": " ++ reason

/-- The status that goes with the error, if any. -/
def status? : StoreError → Option Nat
  | notFound _ _ => some 404
  | databaseNotFound _ => some 404
  | conflict _ _ => some 409
  | databaseExists _ => some 412
  | viewUnsupported => some 410
  | invalidDocument _ => some 400
  | serialization _ => none
  | backend _ => none
  | reply code _ _ => some code

/-- What could not be read or written is reported with its reason. -/
def ofDecode (error : DecodeError) : StoreError :=
  .serialization error.message

end StoreError

/-- The inputs that the service refuses. -/
inductive InputFault where
  /-- Nothing was given to build a service from. -/
  | noOptions
  | noConnection
  | noModel
  | badViewName (name : String)
  /-- One document was given where a batch is wanted. -/
  | notABatch
  /-- A document of a batch names no stored document. -/
  | noIdentifier
deriving DecidableEq, Inhabited, Repr

def InputFault.message : InputFault → String
  | .noOptions => "Store options have to be provided"
  | .noConnection => "You must provide a store connection"
  | .noModel => "You must provide a model name"
  | .badViewName name => "View \x60" ++ name ++ "\x60 must be named \x60design/view\x60"
  | .notABatch => "Not replacing multiple records. Did you mean \x60patch\x60?"
  | .noIdentifier => "Every updated document needs an id"

inductive ServiceError where
  | notFound (reason : String)
  | conflict (reason : String)
  | invalidInput (fault : InputFault)
  | general (reason : String) (status : Option Nat)
deriving DecidableEq, Inhabited, Repr

namespace ServiceError

def message : ServiceError → String
  | notFound reason => "Not found: " ++ reason
  | conflict reason => "Conflict: " ++ reason
  | invalidInput fault => fault.message
  | general reason _ => "General store failure: " ++ reason

/-- The status that a host should answer with. -/
def statusCode : ServiceError → Nat
  | notFound _ => 404
  | conflict _ => 409
  | invalidInput _ => 400
  | general _ _ => 500

/-- What callers of the service see of a store error. -/
def ofStore (error : StoreError) : ServiceError :=
  match error.status? with
  | some 404 => .notFound error.message
  | some 409 => .conflict error.message
  | status => .general error.message status

end ServiceError

end DocStore
