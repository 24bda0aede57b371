/-
  What can be asked of a document store.

  Requests are data, and the type of the answer is read off the request.  A `Backend` answers them
  over a state of its own and also gives out fresh tokens.  Whatever watches or disturbs a store
  is then one function on requests: see `Backend.traced` and `Backend.faulty`.
-/
import DocStore.Action
import DocStore.Error
import DocStore.View.Definition
import DocStore.View.Name

namespace DocStore

/-- Identifier and revision of a document after a write. -/
structure Receipt where
  id : String
  revision : String
deriving DecidableEq, Inhabited, Repr

inductive Request where
  | databaseExists (database : String)
  | createDatabase (database : String)
  | getDocument (database id : String)
  /-- Stores a whole document.  Without an identifier the store assigns one.  The revision that the
      body carries has to be the stored one. -/
  | saveDocument (database : String) (id : Option String) (body : Document)
  /-- Writes fields over a stored document. -/
  | mergeDocument (database id : String) (changes : Document)
  | removeDocument (database id revision : String)
  /-- Evaluates a view that is not stored. -/
  | evaluateTransient (database : String) (view : Definition) (options : ViewOptions)
  /-- Stores a view in a design document. -/
  | createView (database : String) (name : ViewName) (view : Definition)
  /-- Evaluates a stored view. -/
  | invokeView (database : String) (name : ViewName) (options : ViewOptions)
deriving Inhabited

namespace Request

/-- What a request is answered with. -/
abbrev Answer : Request → Type
  | databaseExists _ => Bool
  | createDatabase _ => Unit
  | getDocument _ _ => Document
  | saveDocument _ _ _ => Receipt
  | mergeDocument _ _ _ => Receipt
  | removeDocument _ _ _ => Receipt
  | evaluateTransient _ _ _ => ViewResult
  | createView _ _ _ => Receipt
  | invokeView _ _ _ => ViewResult

/-- The database that a request is about. -/
def database : Request → String
  | databaseExists db => db
  | createDatabase db => db
  | getDocument db _ => db
  | saveDocument db _ _ => db
  | mergeDocument db _ _ => db
  | removeDocument db _ _ => db
  | evaluateTransient db _ _ => db
  | createView db _ _ => db
  | invokeView db _ _ => db

/-- What a request is about: the document or design document that it names, else the database. -/
def subject : Request → String
  | getDocument _ id => id
  | saveDocument _ id _ => id.getD ""
  | mergeDocument _ id _ => id
  | removeDocument _ id _ => id
  | createView _ name _ => name.designId
  | invokeView _ name _ => name.designId
  | request => request.database

end Request

/-- A store as its callers know it: it answers requests and gives out tokens that were never given
    out before. -/
structure Backend (σ : Type) where
  answer : (request : Request) → Action σ StoreError request.Answer
  token : Action σ StoreError String

end DocStore
