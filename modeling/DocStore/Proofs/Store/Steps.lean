/-
  What the operations of a store come to.

  An operation in place may leave anything behind where it fails.  That no operation does is a
  matter of its order: whatever can go wrong comes to light before the first change.  `Reads` says
  of the ways to look things up that they change nothing, `Memory.atomic_answer` says of every
  operation that it is atomic, and the proofs go through its exits one after another.

  What is atomic is told by its step: the answer with the next store, or an error.  Here are the
  steps of all operations, each with the equation that says what it comes to.  Everything else about
  a store is derived from these equations, and from `runOn_answer`, by which an operation in place
  is its step.
-/
import DocStore.Store.Memory

namespace DocStore

open DocStore.Action (Reads Atomic)

variable {token : Nat → String} {store : Store} {name id : String}

/-! ## Looking things up changes nothing

  Each lemma follows its operation: a chain of look-ups is a look-up, and an exit changes nothing.
-/

namespace Memory

/-- Its one exit is that of a missing database. -/
theorem reads_database (name : String) : Reads (database name) := by
  refine .bind .get fun store => ?_
  cases store.databases.get? name with
  | some db => exact .pure db
  | none => exact .throw _

/-- Its one exit is that of a missing document. -/
theorem reads_record (db : Database) (name id : String) : Reads (record db name id) := by
  rw [record]
  cases db.get? id with
  | some record => exact .pure record
  | none => exact .throw _

/-- To be offered a token is not to draw it: only a write that follows uses it up. -/
theorem reads_offered (token : Nat → String) : Reads (offered token) :=
  .bind .get fun _ => .pure _

/-- Both exits of a look-up belong to its two parts. -/
theorem reads_getDocument (name id : String) : Reads (getDocument name id) :=
  .bind (reads_database name) fun db => .bind (reads_record db name id) fun _ => .pure _

/-- A scan needs the database and nothing else. -/
theorem reads_documents (name : String) : Reads (documents name) :=
  .bind (reads_database name) fun _ => .pure _

/-- Evaluating a definition over what was scanned cannot fail. -/
theorem reads_runView (name : String) (view : Definition) (options : ViewOptions) :
    Reads (runView name view options) :=
  .bind (reads_documents name) fun _ => .pure _

/-- A view that is not stored may be refused, or there is no database to scan. -/
theorem reads_evaluateTransient (name : String) (view : Definition) (options : ViewOptions) :
    Reads (evaluateTransient name view options) := by
  refine .bind .get fun store => ?_
  split
  · exact reads_runView name view options
  · exact .throw _

/-- The database or the design document may be missing, or the design document may hold no view
    that can be read. -/
theorem reads_invokeView (name : String) (view : ViewName) (options : ViewOptions) :
    Reads (invokeView name view options) :=
  .bind (reads_getDocument name view.designId) fun _ =>
    .bind (.ofExcept _) fun _ => reads_runView name _ options

/-! ## Writing is atomic

  A writing operation is a look-up, or several, with a part behind it that cannot fail.  The
  proofs show that all exits are in the first part; they would break if one of them came behind a
  draw or a change. -/

/-- A database that exists is found before anything is added. -/
theorem atomic_createDatabase (name : String) : Atomic (createDatabase name) := by
  refine .bind .get fun store => ?_
  split
  · exact Reads.atomic (.throw _)
  · exact .of_succeeds fun _ => ⟨_, rfl⟩

/-- A save has three exits: what the body names is no revision, there is no database, and the
    revision is not the one that has to be named.  All of them come before the first change. -/
theorem atomic_saveDocument (token : Nat → String) (name : String) (id : Option String)
    (body : Document) : Atomic (saveDocument token name id body) := by
  refine .bind (.ofExcept _) fun named => .bind (reads_offered token) fun fresh => ?_
  refine .bind (reads_database name) fun db => ?_
  -- Behind the decision there is one exit left and, on the other way, four steps that cannot fail.
  split
  · exact Reads.atomic (.throw _)
  · exact .of_succeeds fun _ => ⟨_, rfl⟩

/-- A merge has two: there is no database, or no document to write over. -/
theorem atomic_mergeDocument (token : Nat → String) (name id : String) (changes : Document) :
    Atomic (mergeDocument token name id changes) := by
  refine .bind (reads_database name) fun db => .bind (reads_record db name id) fun current => ?_
  exact .of_succeeds fun _ => ⟨_, rfl⟩

/-- A removal has a third one: the document has another revision. -/
theorem atomic_removeDocument (token : Nat → String) (name id revision : String) :
    Atomic (removeDocument token name id revision) := by
  refine .bind (reads_database name) fun db => .bind (reads_record db name id) fun current => ?_
  split
  · exact .of_succeeds fun _ => ⟨_, rfl⟩
  · exact Reads.atomic (.throw _)

/-- No operation leaves anything behind where it fails. -/
theorem atomic_answer (token : Nat → String) (request : Request) :
    Atomic (answer token request) := by
  cases request with
  | databaseExists name => exact Reads.atomic (.bind .get fun _ => .pure _)
  | createDatabase name => exact atomic_createDatabase name
  | getDocument name id => exact (reads_getDocument name id).atomic
  | saveDocument name id body => exact atomic_saveDocument token name id body
  | mergeDocument name id changes => exact atomic_mergeDocument token name id changes
  | removeDocument name id revision => exact atomic_removeDocument token name id revision
  | evaluateTransient name view options => exact (reads_evaluateTransient name view options).atomic
  | createView name view definition => exact atomic_saveDocument token name _ _
  | invokeView name view options => exact (reads_invokeView name view options).atomic

end Memory

/-! ## Steps

  The store as a function from a request to an answer with the next store, or to an error. -/

namespace Store

/-- A database, if the store has it. -/
def database (store : Store) (name : String) : Except StoreError Database :=
  match store.databases.get? name with
  | some db => .ok db
  | none => .error (.databaseNotFound name)

/-- A document of a database, if the database has it. -/
def record (db : Database) (name id : String) : Except StoreError Record :=
  match db.get? id with
  | some record => .ok record
  | none => .error (.notFound id name)

/-- What is answered to a request, with the next store. -/
def step (token : Nat → String) (store : Store) (request : Request) :
    Except StoreError (request.Answer × Store) :=
  (Memory.answer token request).stepOn store

def createDatabase (store : Store) (name : String) : Except StoreError (Unit × Store) :=
  (Memory.createDatabase name).stepOn store

def saveDocument (token : Nat → String) (store : Store) (name : String) (id : Option String)
    (body : Document) : Except StoreError (Receipt × Store) :=
  (Memory.saveDocument token name id body).stepOn store

def mergeDocument (token : Nat → String) (store : Store) (name id : String) (changes : Document) :
    Except StoreError (Receipt × Store) :=
  (Memory.mergeDocument token name id changes).stepOn store

def removeDocument (token : Nat → String) (store : Store) (name id revision : String) :
    Except StoreError (Receipt × Store) :=
  (Memory.removeDocument token name id revision).stepOn store

def createView (token : Nat → String) (store : Store) (name : String) (view : ViewName)
    (definition : Definition) : Except StoreError (Receipt × Store) :=
  (Memory.createView token name view definition).stepOn store

def runView (store : Store) (name : String) (view : Definition) (options : ViewOptions) :
    Except StoreError ViewResult :=
  ((Memory.runView name view options).runOn store).1

def evaluateTransient (store : Store) (name : String) (view : Definition) (options : ViewOptions) :
    Except StoreError ViewResult :=
  ((Memory.evaluateTransient name view options).runOn store).1

def invokeView (store : Store) (name : String) (view : ViewName) (options : ViewOptions) :
    Except StoreError ViewResult :=
  ((Memory.invokeView name view options).runOn store).1

/-- What reading comes to: the store stays as it is. -/
def reading {α : Type} (store : Store) (answer : Except StoreError α) :
    Except StoreError (α × Store) :=
  answer.map fun a => (a, store)

/-- The store with a document written under a revision of its own. -/
def write (store : Store) (db : Database) (name id : String) (record : Record) (drawn : Nat) :
    Receipt × Store :=
  (⟨id, record.revision⟩,
    { store with
      databases := store.databases.insert name (db.insert id record)
      issued := store.issued + drawn })

end Store

/-! ## What reading comes to

  From here on nothing is run any more: what an operation finds is computed from the tables. -/

namespace Store

/-- Seen from outside, looking a database up is asking the table for it. -/
theorem outcome_database (store : Store) (name : String) :
    ((Memory.database name).runOn store).1 = store.database name := by
  rw [Memory.database, Reads.get.outcome_bind, Store.database]
  show ((match store.databases.get? name with
    | some db => pure db
    | none => throw _ : Action Store StoreError Database).runOn store).1 = _
  cases store.databases.get? name <;> rfl

theorem outcome_record (store : Store) (db : Database) (name id : String) :
    ((Memory.record db name id).runOn store).1 = record db name id := by
  rw [Memory.record, record]
  cases db.get? id <;> rfl

/-- The document is shown as it stands in its database. -/
theorem getDocument_eq (store : Store) (name id : String) :
    store.getDocument name id = (do
      let db ← store.database name
      return (← record db name id).shown id) := by
  rw [getDocument, Memory.getDocument, (Memory.reads_database name).outcome_bind, outcome_database]
  refine bind_congr fun db => ?_
  rw [(Memory.reads_record db name id).outcome_bind, outcome_record]
  rfl

/-- The order is that of the table, which is that of the identifiers. -/
theorem documents_eq (store : Store) (name : String) :
    store.documents name =
      return (← store.database name).entries.map fun entry => entry.2.shown entry.1 := by
  rw [documents, Memory.documents, (Memory.reads_database name).outcome_bind, outcome_database]
  rfl

theorem runView_eq (store : Store) (name : String) (view : Definition) (options : ViewOptions) :
    store.runView name view options = return view.evaluate (← store.documents name) options := by
  rw [runView, Memory.runView, (Memory.reads_documents name).outcome_bind]
  rfl

/-- The refusal is decided before the database is looked up. -/
theorem evaluateTransient_eq (store : Store) (name : String) (view : Definition)
    (options : ViewOptions) :
    store.evaluateTransient name view options =
      if store.transientViews then store.runView name view options
      else .error .viewUnsupported := by
  rw [evaluateTransient, Memory.evaluateTransient, Reads.get.outcome_bind]
  show ((if store.transientViews then _ else _ : Action Store StoreError ViewResult).runOn _).1 = _
  split <;> rfl

/-- A stored view is read from its design document and then run as any other one. -/
theorem invokeView_eq (store : Store) (name : String) (view : ViewName) (options : ViewOptions) :
    store.invokeView name view options = (do
      let design ← store.getDocument name view.designId
      let definition ← Definition.ofDesign design view.view
      store.runView name definition options) := by
  rw [invokeView, Memory.invokeView, (Memory.reads_getDocument name _).outcome_bind]
  refine bind_congr fun design => ?_
  rw [(Reads.ofExcept _).outcome_bind]
  rfl

/-! ## What writing comes to

  Likewise for the operations that write.  The decisions stand in front, in the order in which
  they are taken; what is left at the end is one `write`. -/

/-- A name in use is an error, any other one gets an empty database. -/
theorem createDatabase_eq (store : Store) (name : String) :
    store.createDatabase name =
      if store.databases.contains name then .error (.databaseExists name)
      else .ok ((), { store with databases := store.databases.insert name Table.empty }) := by
  rw [createDatabase, Memory.createDatabase, Reads.get.stepOn_bind]
  show (if store.databases.contains name then _ else _ : Action Store StoreError Unit).stepOn _ = _
  split <;> rfl

/-- What the body names is judged before the database is looked up, and the identifier is settled
    before the conflict is, so a generated one may be named by it.  A save uses up two tokens, the
    second one for the revision. -/
theorem saveDocument_eq (token : Nat → String) (store : Store) (name : String) (id : Option String)
    (body : Document) :
    store.saveDocument token name id body = (do
      let named ← namedRevision body
      let db ← store.database name
      let id := id.getD (token store.issued)
      match nextSeq (db.get? id) named with
      | none => throw (.conflict id name)
      | some seq =>
          let revision := revisionText seq (token (store.issued + 1))
          return store.write db name id ⟨seq, revision, stripped body⟩ 2) := by
  rw [saveDocument, Memory.saveDocument, (Reads.ofExcept _).stepOn_bind]
  refine bind_congr fun named => ?_
  -- Offered is the token with the number of those used up, whatever comes of it.
  rw [(Memory.reads_offered token).stepOn_bind]
  show (Memory.database name >>= fun db => _ : Action Store StoreError Receipt).stepOn store = _
  rw [(Memory.reads_database name).stepOn_bind, outcome_database]
  refine bind_congr fun db => ?_
  dsimp only
  cases nextSeq (db.get? (id.getD (token store.issued))) named <;> rfl

/-- A merge asks for no revision: it goes on from whatever is stored. -/
theorem mergeDocument_eq (token : Nat → String) (store : Store) (name id : String)
    (changes : Document) :
    store.mergeDocument token name id changes = (do
      let db ← store.database name
      let current ← record db name id
      let seq := current.seq + 1
      let revision := revisionText seq (token store.issued)
      let body := current.body.overlay (writable changes)
      return store.write db name id ⟨seq, revision, body⟩ 1) := by
  rw [mergeDocument, Memory.mergeDocument, (Memory.reads_database name).stepOn_bind,
    outcome_database]
  refine bind_congr fun db => ?_
  rw [(Memory.reads_record db name id).stepOn_bind, outcome_record]
  rfl

/-- The revision of the removal is drawn like that of a write, and only the receipt keeps it. -/
theorem removeDocument_eq (token : Nat → String) (store : Store) (name id revision : String) :
    store.removeDocument token name id revision = (do
      let db ← store.database name
      let current ← record db name id
      if current.revision = revision then
        return (⟨id, revisionText (current.seq + 1) (token store.issued)⟩,
          { store with
            databases := store.databases.insert name (db.erase id)
            issued := store.issued + 1 })
      else throw (.conflict id name)) := by
  rw [removeDocument, Memory.removeDocument, (Memory.reads_database name).stepOn_bind,
    outcome_database]
  refine bind_congr fun db => ?_
  rw [(Memory.reads_record db name id).stepOn_bind, outcome_record]
  refine bind_congr fun current => ?_
  split <;> rfl

/-- A view is created by a save under the identifier of its design document. -/
theorem createView_eq (token : Nat → String) (store : Store) (name : String) (view : ViewName)
    (definition : Definition) :
    store.createView token name view definition =
      store.saveDocument token name (some view.designId) (definition.toDesign view.view) := rfl

/-! ## What requests come to

  By kind of request, the operation that answers it. -/

/-- What only reads comes to an answer and the same store. -/
theorem stepOn_of_reads {α : Type} {action : Action Store StoreError α} (h : Reads action)
    (store : Store) : action.stepOn store = store.reading (action.runOn store).1 := by
  rw [Action.stepOn, h.runOn_eq]
  cases (action.runOn store).1 <;> rfl

theorem step_databaseExists (token : Nat → String) (store : Store) (name : String) :
    store.step token (.databaseExists name) = .ok (store.databases.contains name, store) := rfl

/-- For the requests that write, the step is that of the operation. -/
theorem step_createDatabase (token : Nat → String) (store : Store) (name : String) :
    store.step token (.createDatabase name) = store.createDatabase name := rfl

theorem step_saveDocument (token : Nat → String) (store : Store) (name : String)
    (id : Option String) (body : Document) :
    store.step token (.saveDocument name id body) = store.saveDocument token name id body := rfl

theorem step_mergeDocument (token : Nat → String) (store : Store) (name id : String)
    (changes : Document) :
    store.step token (.mergeDocument name id changes) =
      store.mergeDocument token name id changes := rfl

theorem step_removeDocument (token : Nat → String) (store : Store) (name id revision : String) :
    store.step token (.removeDocument name id revision) =
      store.removeDocument token name id revision := rfl

theorem step_createView (token : Nat → String) (store : Store) (name : String) (view : ViewName)
    (definition : Definition) :
    store.step token (.createView name view definition) =
      store.createView token name view definition := rfl

/-- The steps of the requests that read. -/
theorem step_getDocument (token : Nat → String) (store : Store) (name id : String) :
    store.step token (.getDocument name id) = store.reading (store.getDocument name id) :=
  stepOn_of_reads (Memory.reads_getDocument name id) store

theorem step_evaluateTransient (token : Nat → String) (store : Store) (name : String)
    (view : Definition) (options : ViewOptions) :
    store.step token (.evaluateTransient name view options) =
      store.reading (store.evaluateTransient name view options) :=
  stepOn_of_reads (Memory.reads_evaluateTransient name view options) store

theorem step_invokeView (token : Nat → String) (store : Store) (name : String) (view : ViewName)
    (options : ViewOptions) :
    store.step token (.invokeView name view options) =
      store.reading (store.invokeView name view options) :=
  stepOn_of_reads (Memory.reads_invokeView name view options) store

/-! ## What a backend does

  The way back: the run of an operation on a store, from its step.  An error leaves the store that
  was there, because the operation is atomic. -/

/-- A request that reads is answered, or fails, and the store stays as it is. -/
theorem runOn_getDocument (token : Nat → String) (store : Store) (name id : String) :
    ((backend token).answer (.getDocument name id)).runOn store =
      (store.getDocument name id, store) :=
  (Memory.reads_getDocument name id).runOn_eq store

theorem runOn_evaluateTransient (token : Nat → String) (store : Store) (name : String)
    (view : Definition) (options : ViewOptions) :
    ((backend token).answer (.evaluateTransient name view options)).runOn store =
      (store.evaluateTransient name view options, store) :=
  (Memory.reads_evaluateTransient name view options).runOn_eq store

theorem runOn_invokeView (token : Nat → String) (store : Store) (name : String) (view : ViewName)
    (options : ViewOptions) :
    ((backend token).answer (.invokeView name view options)).runOn store =
      (store.invokeView name view options, store) :=
  (Memory.reads_invokeView name view options).runOn_eq store

/-- An operation in place is its step: where it fails, the store is what it was. -/
theorem runOn_answer (token : Nat → String) (store : Store) (request : Request) :
    ((backend token).answer request).runOn store =
      match store.step token request with
      | .ok (answer, next) => (.ok answer, next)
      | .error e => (.error e, store) := by
  rw [backend, (Memory.atomic_answer token request).runOn_eq, step]
  cases (Memory.answer token request).stepOn store <;> rfl

/-- The two cases of a step apart: an answer with the next store, -/
theorem runOn_answer_ok {token : Nat → String} {store next : Store} {request : Request}
    {answer : request.Answer} (h : store.step token request = .ok (answer, next)) :
    ((backend token).answer request).runOn store = (.ok answer, next) := by
  rw [runOn_answer, h]

/-- and an error with the store as it was. -/
theorem runOn_answer_error {token : Nat → String} {store : Store} {request : Request}
    {e : StoreError} (h : store.step token request = .error e) :
    ((backend token).answer request).runOn store = (.error e, store) := by
  rw [runOn_answer, h]

end Store

end DocStore
