/-
  How requests fail.

  `Store.Exit` lists the ways out of a request before anything is written, each with the error that
  reports it and with the facts about the store that lead there.  The list is complete and nothing
  on it is a false alarm: a request fails with an error exactly if it has the exit with that error
  (`Store.step_eq_error_iff`).  One half goes through the list (`Store.Exit.step_eq`).  For the
  other, every request is followed through what it looks up, and either succeeds or comes to an exit
  (`Store.settles`); as a step has one outcome, it is that of the exit.
-/
import DocStore.Proofs.Store.Writes

namespace DocStore

/-- Under the name of the revision a body has nothing, null or text. -/
def Document.RevisionFit (body : Document) : Prop :=
  ∀ value, body.get? Field.revision = some value → value = .null ∨ ∃ text, value = .string text

/-- What is no revision is a value of some other kind under that name. -/
theorem Document.exists_of_unfit {body : Document} (unfit : ¬ body.RevisionFit) :
    ∃ value, body.get? Field.revision = some value ∧ value ≠ .null ∧
      ∀ text, value ≠ .string text := by
  obtain ⟨value, hvalue⟩ := Classical.not_forall.1 unfit
  obtain ⟨hget, hneither⟩ := Classical.not_imp.1 hvalue
  obtain ⟨hnull, htext⟩ := not_or.1 hneither
  exact ⟨value, hget, hnull, not_exists.1 htext⟩

/-- Whether a request looks its database up. -/
def Request.LooksUp (store : Store) : Request → Prop
  | .databaseExists _ | .createDatabase _ => False
  | .saveDocument _ _ body => body.RevisionFit
  | .evaluateTransient _ _ _ => store.transientViews = true
  | _ => True

/-- The document without which a request cannot be answered. -/
def Request.required? : Request → Option String
  | .getDocument _ id | .mergeDocument _ id _ | .removeDocument _ id _ => some id
  | .invokeView _ view _ => some view.designId
  | _ => none

namespace Store

/-- The ways in which a request fails. -/
inductive Exit (token : Nat → String) (store : Store) : Request → StoreError → Prop
  /-- The database is there already. -/
  | databaseExists {name : String} {db : Database} (hdb : store.databases.get? name = some db) :
      Exit token store (.createDatabase name) (.databaseExists name)
  /-- What the body has under the name of the revision cannot be one. -/
  | wrongRevision {name : String} {given : Option String} {body : Document} {value : Value}
      (hvalue : body.get? Field.revision = some value) (hnull : value ≠ .null)
      (htext : ∀ text, value ≠ .string text) :
      Exit token store (.saveDocument name given body)
        (.invalidDocument (Field.revision ++ " must be a string, got " ++ value.display))
  /-- Views that are not stored are not evaluated. -/
  | transientRefused {name : String} {view : Definition} {options : ViewOptions}
      (hviews : store.transientViews = false) :
      Exit token store (.evaluateTransient name view options) .viewUnsupported
  /-- There is no such database. -/
  | missingDatabase {request : Request} (looks : request.LooksUp store)
      (hdb : store.databases.get? request.database = none) :
      Exit token store request (.databaseNotFound request.database)
  /-- There is no such document. -/
  | missingDocument {request : Request} {id : String} {db : Database}
      (required : request.required? = some id)
      (hdb : store.databases.get? request.database = some db) (hnone : db.get? id = none) :
      Exit token store request (.notFound id request.database)
  /-- A save over a document does not name its revision, or one of a new document names any. -/
  | conflictingSave {name : String} {given : Option String} {body : Document} {db : Database}
      (fit : body.RevisionFit) (hdb : store.databases.get? name = some db)
      (hrev : (db.get? (store.assigned token given)).map Record.revision ≠ body.revision?) :
      Exit token store (.saveDocument name given body)
        (.conflict (store.assigned token given) name)
  /-- A view is stored only where there is no document yet. -/
  | takenDesign {name : String} {view : ViewName} {definition : Definition} {db : Database}
      {record : Record} (hdb : store.databases.get? name = some db)
      (hheld : db.get? view.designId = some record) :
      Exit token store (.createView name view definition) (.conflict view.designId name)
  /-- A removal names another revision than that of the document. -/
  | staleRemoval {name id revision : String} {db : Database} {record : Record}
      (hdb : store.databases.get? name = some db) (hheld : db.get? id = some record)
      (hstale : record.revision ≠ revision) :
      Exit token store (.removeDocument name id revision) (.conflict id name)
  /-- The design document holds no view of this name that can be read. -/
  | unreadableView {name : String} {view : ViewName} {options : ViewOptions} {db : Database}
      {record : Record} {e : StoreError} (hdb : store.databases.get? name = some db)
      (hheld : db.get? view.designId = some record)
      (hread : Definition.ofDesign (record.shown view.designId) view.view = .error e) :
      Exit token store (.invokeView name view options) e

variable {token : Nat → String} {store : Store} {name : String} {db : Database}

/-! ## What a body names -/

/-- Null counts as no revision, so what a fit body names is what the document has as its
    revision. -/
theorem namedRevision_of_fit {body : Document} (fit : body.RevisionFit) :
    namedRevision body = .ok body.revision? := by
  rw [namedRevision, Document.revision?]
  cases hvalue : body.get? Field.revision with
  | none => rfl
  | some value =>
    obtain rfl | ⟨text, rfl⟩ := fit value hvalue <;> rfl

/-- The error shows the value that was found. -/
theorem namedRevision_of_unfit {body : Document} {value : Value}
    (hvalue : body.get? Field.revision = some value) (hnull : value ≠ .null)
    (htext : ∀ text, value ≠ .string text) :
    namedRevision body =
      .error (.invalidDocument (Field.revision ++ " must be a string, got " ++ value.display)) := by
  rw [namedRevision, hvalue]
  cases value with
  | null => exact absurd rfl hnull
  | string text => exact absurd rfl (htext text)
  | _ => rfl

/-- A save is given no number exactly if the revision of what is held is not the one named. -/
theorem nextSeq_eq_none_iff {current : Option Record} {named : Option String} :
    nextSeq current named = none ↔ current.map Record.revision ≠ named := by
  cases current with
  | none =>
    constructor
    · rintro h rfl
      rw [Option.map_none, nextSeq, if_pos rfl] at h
      cases h
    · exact fun h => if_neg (Ne.symm h)
  | some record =>
    constructor
    · rintro h rfl
      rw [Option.map_some, nextSeq, if_pos rfl] at h
      cases h
    · exact fun h => if_neg (Ne.symm h)

/-! ## Exits are errors -/

theorem database_of_none (hdb : store.databases.get? name = none) :
    store.database name = .error (.databaseNotFound name) := by
  rw [Store.database, hdb]

/-- The requests that look their database up all report a missing one in the same way. -/
theorem step_of_missing_database {request : Request} (looks : request.LooksUp store)
    (hdb : store.databases.get? request.database = none) :
    store.step token request = .error (.databaseNotFound request.database) := by
  have hnone : ∀ name, request.database = name →
      store.database name = .error (.databaseNotFound name) := by
    rintro _ rfl
    exact database_of_none hdb
  -- These two never look for a database, all others do so before anything else.
  cases request with
  | databaseExists name => exact looks.elim
  | createDatabase name => exact looks.elim
  | getDocument name id =>
    rw [step_getDocument, getDocument_eq, hnone name rfl]
    rfl
  | saveDocument name id body =>
    rw [step_saveDocument, saveDocument_eq, namedRevision_of_fit looks, hnone name rfl]
    rfl
  | mergeDocument name id changes =>
    rw [step_mergeDocument, mergeDocument_eq, hnone name rfl]
    rfl
  | removeDocument name id revision =>
    rw [step_removeDocument, removeDocument_eq, hnone name rfl]
    rfl
  | evaluateTransient name view options =>
    have hviews : store.transientViews = true := looks
    rw [step_evaluateTransient, evaluateTransient_eq, if_pos hviews, runView_eq, documents_eq,
      hnone name rfl]
    rfl
  | createView name view definition =>
    rw [step_createView, createView_eq, saveDocument_eq, hnone name rfl]
    rfl
  | invokeView name view options =>
    rw [step_invokeView, invokeView_eq, getDocument_eq, hnone name rfl]
    rfl

/-- So do those that need a document. -/
theorem step_of_missing_document {request : Request} {id : String}
    (required : request.required? = some id)
    (hdb : store.databases.get? request.database = some db) (hnone : db.get? id = none) :
    store.step token request = .error (.notFound id request.database) := by
  have hheld := (held?_of_get? hdb id).trans hnone
  -- Four requests need a document to be there.
  cases request with
  | getDocument name id =>
    cases required
    have habsent := getDocument_of_absent hdb hheld
    dsimp only [Request.database] at habsent
    rw [step_getDocument, habsent]
    rfl
  | mergeDocument name id changes =>
    cases required
    exact mergeDocument_of_absent token hdb hheld changes
  | removeDocument name id revision =>
    cases required
    exact removeDocument_of_missing token hdb hheld revision
  | invokeView name view options =>
    cases required
    have habsent := invokeView_of_absent hdb hheld options
    dsimp only [Request.database] at habsent
    rw [step_invokeView, habsent]
    rfl
  | databaseExists _ => cases required
  | createDatabase _ => cases required
  | saveDocument _ _ _ => cases required
  | evaluateTransient _ _ _ => cases required
  | createView _ _ _ => cases required

/-- Every exit is taken: the facts that it asks for lead to its error. -/
theorem Exit.step_eq {request : Request} {e : StoreError} (h : Exit token store request e) :
    store.step token request = .error e := by
  cases h with
  | @databaseExists name db hdb =>
    have contains : store.databases.contains name = true := congrArg Option.isSome hdb
    rw [step_createDatabase, createDatabase_eq, if_pos contains]
  | wrongRevision hvalue hnull htext =>
    rw [step_saveDocument, saveDocument_eq, namedRevision_of_unfit hvalue hnull htext]
    rfl
  | transientRefused hviews =>
    rw [step_evaluateTransient, evaluateTransient_eq, hviews]
    rfl
  | missingDatabase looks hdb => exact step_of_missing_database looks hdb
  | missingDocument required hdb hnone => exact step_of_missing_document required hdb hnone
  -- The revision was read and the database found, so the decision is that of `nextSeq`.
  | conflictingSave fit hdb hrev =>
    rw [step_saveDocument, saveDocument_eq, namedRevision_of_fit fit, database_eq_ok_iff.2 hdb]
    dsimp only [bind, Except.bind]
    rw [← assigned, nextSeq_eq_none_iff.2 hrev]
    rfl
  | @takenDesign name view definition db record hdb hheld =>
    exact createView_of_taken token store hdb hheld definition
  | staleRemoval hdb hheld hstale =>
    exact removeDocument_of_stale token ((held?_of_get? hdb _).trans hheld) hstale
  -- The design document is there, and what is in it is no definition.
  | unreadableView hdb hheld hread =>
    rw [step_invokeView, invokeView_eq,
      getDocument_eq_ok_iff.2 ⟨_, (held?_of_get? hdb _).trans hheld, rfl⟩]
    dsimp only [bind, Except.bind]
    rw [hread]
    rfl

/-! ## Nothing else goes wrong -/

/-- A request succeeds or has an exit. -/
def Settles (token : Nat → String) (store : Store) (request : Request) : Prop :=
  (∃ result, store.step token request = .ok result) ∨ ∃ e, Exit token store request e

/-- A database is made unless there is one of the name. -/
theorem settles_createDatabase (token : Nat → String) (store : Store) (name : String) :
    Settles token store (.createDatabase name) := by
  cases hdb : store.databases.get? name with
  | some db => exact Or.inr ⟨_, .databaseExists hdb⟩
  | none => exact Or.inl ⟨_, createDatabase_eq_ok_iff.2 ⟨hdb, rfl⟩⟩

/-- A document is shown unless it or its database is missing. -/
theorem settles_getDocument (token : Nat → String) (hdb : store.databases.get? name = some db)
    (id : String) : Settles token store (.getDocument name id) := by
  cases hheld : db.get? id with
  | none => exact Or.inr ⟨_, .missingDocument rfl hdb hheld⟩
  | some record =>
    have hget := getDocument_eq_ok_iff.2 ⟨record, (held?_of_get? hdb id).trans hheld, rfl⟩
    exact Or.inl ⟨_, (step_getDocument ..).trans (congrArg store.reading hget)⟩

/-- A save whose body names no revision, or text, goes by what is held. -/
theorem settles_saveDocument (token : Nat → String) (hdb : store.databases.get? name = some db)
    (given : Option String) {body : Document} (fit : body.RevisionFit) :
    Settles token store (.saveDocument name given body) := by
  cases hseq : nextSeq (db.get? (store.assigned token given)) body.revision? with
  | none => exact Or.inr ⟨_, .conflictingSave fit hdb (nextSeq_eq_none_iff.1 hseq)⟩
  | some seq =>
    exact Or.inl ⟨_, saveDocument_eq_ok_iff.2
      ⟨_, db, seq, namedRevision_of_fit fit, hdb, hseq, rfl⟩⟩

/-- A merge needs a document and nothing else. -/
theorem settles_mergeDocument (token : Nat → String) (hdb : store.databases.get? name = some db)
    (id : String) (changes : Document) :
    Settles token store (.mergeDocument name id changes) := by
  cases hheld : db.get? id with
  | none => exact Or.inr ⟨_, .missingDocument rfl hdb hheld⟩
  | some current => exact Or.inl ⟨_, mergeDocument_eq_ok_iff.2 ⟨db, current, hdb, hheld, rfl⟩⟩

/-- A removal needs a document and its revision. -/
theorem settles_removeDocument (token : Nat → String) (hdb : store.databases.get? name = some db)
    (id revision : String) : Settles token store (.removeDocument name id revision) := by
  cases hheld : db.get? id with
  | none => exact Or.inr ⟨_, .missingDocument rfl hdb hheld⟩
  | some current =>
    by_cases hrev : current.revision = revision
    · exact Or.inl ⟨_, removeDocument_eq_ok_iff.2 ⟨db, current, hdb, hheld, hrev, rfl⟩⟩
    · exact Or.inr ⟨_, .staleRemoval hdb hheld hrev⟩

/-- Where transient views are evaluated and there is a database, a scan cannot fail. -/
theorem settles_evaluateTransient (token : Nat → String)
    (hdb : store.databases.get? name = some db) (hviews : store.transientViews = true)
    (view : Definition) (options : ViewOptions) :
    Settles token store (.evaluateTransient name view options) := by
  have hevaluate := (evaluateTransient_eq store name view options).trans
    ((if_pos hviews).trans (runView_of_get? hdb view options))
  exact Or.inl ⟨_, (step_evaluateTransient ..).trans (congrArg store.reading hevaluate)⟩

/-- The body of a design document names no revision, so a view is stored where nothing is held. -/
theorem settles_createView (token : Nat → String) (hdb : store.databases.get? name = some db)
    (view : ViewName) (definition : Definition) :
    Settles token store (.createView name view definition) := by
  cases hheld : db.get? view.designId with
  | some record => exact Or.inr ⟨_, .takenDesign hdb hheld⟩
  | none =>
    have hfree : db.get? (store.assigned token (some view.designId)) = none := hheld
    exact Or.inl ⟨_, saveDocument_of_free token store hdb hfree rfl⟩

/-- Behind a definition that can be read, the scan cannot fail any more. -/
theorem settles_invokeView (token : Nat → String) (hdb : store.databases.get? name = some db)
    (view : ViewName) (options : ViewOptions) :
    Settles token store (.invokeView name view options) := by
  cases hheld : db.get? view.designId with
  | none => exact Or.inr ⟨_, .missingDocument rfl hdb hheld⟩
  | some record =>
    have hget := getDocument_eq_ok_iff.2 ⟨record, (held?_of_get? hdb _).trans hheld, rfl⟩
    cases hread : Definition.ofDesign (record.shown view.designId) view.view with
    | error e => exact Or.inr ⟨_, .unreadableView hdb hheld hread⟩
    | ok definition =>
      have hinvoke := (invokeView_eq store name view options).trans (bind_eq_ok_iff.2
        ⟨_, hget, bind_eq_ok_iff.2 ⟨_, hread, runView_of_get? hdb definition options⟩⟩)
      exact Or.inl ⟨_, (step_invokeView ..).trans (congrArg store.reading hinvoke)⟩

/-- Every request succeeds or has an exit.  Those that look their database up are followed further
    only where it is found. -/
theorem settles (token : Nat → String) (store : Store) (request : Request) :
    Settles token store request := by
  by_cases hmissing : request.LooksUp store ∧ store.databases.get? request.database = none
  · exact Or.inr ⟨_, .missingDatabase hmissing.1 hmissing.2⟩
  -- From here on, whoever looks for the database finds it.
  have found : request.LooksUp store → ∃ db, store.databases.get? request.database = some db :=
    fun looks => Option.ne_none_iff_exists'.1 fun hnone => hmissing ⟨looks, hnone⟩
  cases request with
  | databaseExists name => exact Or.inl ⟨_, step_databaseExists token store name⟩
  | createDatabase name => exact settles_createDatabase token store name
  | getDocument name id =>
    obtain ⟨db, hdb⟩ := found trivial
    exact settles_getDocument token hdb id
  | saveDocument name given body =>
    -- A save reads the revision of its body before it looks for the database.
    by_cases fit : body.RevisionFit
    · obtain ⟨db, hdb⟩ := found fit
      exact settles_saveDocument token hdb given fit
    · obtain ⟨value, hvalue, hnull, htext⟩ := Document.exists_of_unfit fit
      exact Or.inr ⟨_, .wrongRevision hvalue hnull htext⟩
  | mergeDocument name id changes =>
    obtain ⟨db, hdb⟩ := found trivial
    exact settles_mergeDocument token hdb id changes
  | removeDocument name id revision =>
    obtain ⟨db, hdb⟩ := found trivial
    exact settles_removeDocument token hdb id revision
  | evaluateTransient name view options =>
    cases hviews : store.transientViews with
    | false => exact Or.inr ⟨_, .transientRefused hviews⟩
    | true =>
      obtain ⟨db, hdb⟩ := found hviews
      exact settles_evaluateTransient token hdb hviews view options
  | createView name view definition =>
    obtain ⟨db, hdb⟩ := found trivial
    exact settles_createView token hdb view definition
  | invokeView name view options =>
    obtain ⟨db, hdb⟩ := found trivial
    exact settles_invokeView token hdb view options

/-- A request fails with an error exactly if it has the exit with that error. -/
theorem step_eq_error_iff {request : Request} {e : StoreError} :
    store.step token request = .error e ↔ Exit token store request e := by
  refine ⟨fun herror => ?_, Exit.step_eq⟩
  obtain ⟨result, hok⟩ | ⟨e', hexit⟩ := settles token store request
  · cases herror.symm.trans hok
  · cases herror.symm.trans hexit.step_eq
    exact hexit

end Store

end DocStore
