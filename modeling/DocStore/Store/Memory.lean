/-
  A revisioned document store in memory.

  Every write gives the document a new revision: the number of the write since the document was
  created, a dash, and a fresh token.  A write that names a revision succeeds only if it is the
  stored one, and a document that exists cannot be saved without naming it.  Identifiers and
  revisions are kept beside the body; the store shows them as the first fields of a document.

  The operations act on the store in place: what an operation has changed stays changed if it fails
  behind that.  They look things up first and write last; that none of them can fail in between is
  not built in but proved.

  Tokens come from a supply that is a parameter, and `issued` counts those that were used up.  Every
  write uses up tokens of its own, so no two writes have a token in common.  A save of a document
  without identifier takes the next token for it.  If that save fails, nothing has come of the
  token, and it is still the next one.  Where tokens are never seen twice, a token thrown away makes
  no other difference than that of a client who draws one for itself.
-/
import DocStore.Store.Request
import DocStore.Table
import DocStore.Text.Hex
import DocStore.Value.Display
import DocStore.View.Stored

namespace DocStore

/-- A stored document. -/
structure Record where
  /-- The number of writes since the document was created, the creation included.  It has no bound
      of its own, and none is needed: it never exceeds the number of writes that the store has seen
      (`Store.Reached.seq_le`), so sixty-four bits hold it in every history of fewer than
      2 ^ 64 writes. -/
  seq : Nat
  revision : String
  body : Document
deriving Inhabited

/-- The document as the store shows it: identifier and revision first, then the body, whose own
    fields of these names would stand in their places. -/
def Record.shown (record : Record) (id : String) : Document :=
  Entries.overlay [(Field.id, .string id), (Field.revision, .string record.revision)] record.body

/-- A database: its documents by identifier. -/
abbrev Database := Table Record

structure Store where
  databases : Table Database
  /-- Whether views are evaluated that are not stored. -/
  transientViews : Bool
  /-- The number of tokens used up. -/
  issued : Nat
deriving Inhabited

namespace Store

/-- A store without databases. -/
def empty (transientViews : Bool) : Store := ⟨Table.empty, transientViews, 0⟩

/-- The text of a revision. -/
def revisionText (seq : Nat) (token : String) : String :=
  toString seq ++ "-" ++ token

/-- The revision that a body names: none, or text. -/
def namedRevision (body : Document) : Except StoreError (Option String) :=
  match body.get? Field.revision with
  | none => .ok none
  | some .null => .ok none
  | some (.string revision) => .ok (some revision)
  | some other =>
      .error (.invalidDocument (Field.revision ++ " must be a string, got " ++ other.display))

/-- The number of a save: one more than that of the document replaced, whose revision has to be
    named, or one for a new document, which must name none. -/
def nextSeq (current : Option Record) (named : Option String) : Option Nat :=
  match current with
  | some record => if named = some record.revision then some (record.seq + 1) else none
  | none => if named = none then some 1 else none

/-- What a body leaves when it is stored. -/
def stripped (body : Document) : Document :=
  (body.erase Field.revision).erase Field.id

/-- The fields of a document that changes may write: all but identifier and revision. -/
def writable (changes : Document) : Document :=
  (changes.erase Field.id).erase Field.revision

/-- A supply of tokens of thirty-two hexadecimal digits. -/
def countedToken (n : Nat) : String := Text.hex 32 n

end Store

/-! ## Operations in place

  Each of them reads and writes the one store that it runs on, statement by statement, and fails
  where it notices that something is wrong.  Nothing in their type makes a failing operation take
  back what it has done so far. -/

namespace Memory

variable (token : Nat → String)

/-- A database, if the store has it. -/
def database (name : String) : Action Store StoreError Database := do
  match (← get).databases.get? name with
  | some db => return db
  | none => throw (.databaseNotFound name)

/-- A document of a database, if the database has it. -/
def record (db : Database) (name id : String) : Action Store StoreError Record :=
  match db.get? id with
  | some record => return record
  | none => throw (.notFound id name)

/-- The token that is drawn next. -/
def offered : Action Store StoreError String := do
  return token (← get).issued

/-- Draws a token. -/
def draw : Action Store StoreError String :=
  modifyGet fun store => (token store.issued, { store with issued := store.issued + 1 })

/-- A record with a revision of its own. -/
def revise (seq : Nat) (body : Document) : Action Store StoreError Record := do
  return ⟨seq, Store.revisionText seq (← draw token), body⟩

/-- Puts a database in place of the one of this name. -/
def put (name : String) (db : Database) : Action Store StoreError Unit :=
  modify fun store => { store with databases := store.databases.insert name db }

/-- Adds an empty database. -/
def createDatabase (name : String) : Action Store StoreError Unit := do
  if (← get).databases.contains name then throw (.databaseExists name)
  else put name Table.empty

/-- A document as the store shows it. -/
def getDocument (name id : String) : Action Store StoreError Document := do
  let db ← database name
  return (← record db name id).shown id

/-- Stores a whole document. -/
def saveDocument (name : String) (id : Option String) (body : Document) :
    Action Store StoreError Receipt := do
  let named ← .ofExcept (Store.namedRevision body)
  let id := id.getD (← offered token)
  let db ← database name
  match Store.nextSeq (db.get? id) named with
  | none => throw (.conflict id name)
  | some seq => do
      -- The token of the identifier is used up, also where an identifier was given.
      let _ ← draw token
      let record ← revise token seq (Store.stripped body)
      put name (db.insert id record)
      return ⟨id, record.revision⟩

/-- Writes fields over a stored document. -/
def mergeDocument (name id : String) (changes : Document) :
    Action Store StoreError Receipt := do
  let db ← database name
  let current ← record db name id
  let record ← revise token (current.seq + 1) (current.body.overlay (Store.writable changes))
  put name (db.insert id record)
  return ⟨id, record.revision⟩

/-- Removes a document whose revision is named.  The removal has a revision of its own. -/
def removeDocument (name id revision : String) : Action Store StoreError Receipt := do
  let db ← database name
  let current ← record db name id
  if current.revision = revision then
    let tombstone ← revise token (current.seq + 1) []
    put name (db.erase id)
    return ⟨id, tombstone.revision⟩
  else throw (.conflict id name)

/-- The identifiers of a database in order, design documents included. -/
def ids (name : String) : Action Store StoreError (List String) :=
  return (← database name).keys

/-- The documents of a database in the order of their identifiers. -/
def documents (name : String) : Action Store StoreError (List Document) :=
  return (← database name).entries.map fun entry => entry.2.shown entry.1

/-- Evaluates a view over a database. -/
def runView (name : String) (view : Definition) (options : ViewOptions) :
    Action Store StoreError ViewResult :=
  return view.evaluate (← documents name) options

/-- Evaluates a view that is not stored, unless the store refuses to. -/
def evaluateTransient (name : String) (view : Definition) (options : ViewOptions) :
    Action Store StoreError ViewResult := do
  if (← get).transientViews then runView name view options else throw .viewUnsupported

/-- Stores a view in a design document of its own. -/
def createView (name : String) (view : ViewName) (definition : Definition) :
    Action Store StoreError Receipt :=
  saveDocument token name (some view.designId) (definition.toDesign view.view)

/-- Evaluates a stored view. -/
def invokeView (name : String) (view : ViewName) (options : ViewOptions) :
    Action Store StoreError ViewResult := do
  let design ← getDocument name view.designId
  let definition ← .ofExcept (Definition.ofDesign design view.view)
  runView name definition options

/-- Answers a request, with tokens from this supply. -/
def answer : (request : Request) → Action Store StoreError request.Answer
  | .databaseExists name => do return (← get).databases.contains name
  | .createDatabase name => createDatabase name
  | .getDocument name id => getDocument name id
  | .saveDocument name id body => saveDocument token name id body
  | .mergeDocument name id changes => mergeDocument token name id changes
  | .removeDocument name id revision => removeDocument token name id revision
  | .evaluateTransient name view options => evaluateTransient name view options
  | .createView name view definition => createView token name view definition
  | .invokeView name view options => invokeView name view options

end Memory

namespace Store

/-- The store as a backend. -/
def backend (token : Nat → String) : Backend Store where
  answer := Memory.answer token
  token := Memory.draw token

/-! ## What reading finds

  Answers alone, for those who only look. -/

/-- A document as it is read. -/
def getDocument (store : Store) (name id : String) : Except StoreError Document :=
  ((Memory.getDocument name id).runOn store).1

/-- The identifiers of a database, as they are read. -/
def ids (store : Store) (name : String) : Except StoreError (List String) :=
  ((Memory.ids name).runOn store).1

/-- The documents of a database, as they are read. -/
def documents (store : Store) (name : String) : Except StoreError (List Document) :=
  ((Memory.documents name).runOn store).1

end Store

end DocStore
