/-
  A find changes nothing that is stored.

  Over a store that evaluates stored views only, a find writes a design document, and it removes it
  under the revision that the write returned.  Between the two the view may be unreadable, and the
  identifier that was drawn may be taken already.  None of this shows in the end:
  `Plan.run_databases` says that every plan leaves the databases as they were, whatever came of it.

  What remains is the opening, which makes the database of the service where there is none.
-/
import DocStore.Proofs.Find.Fallback

namespace DocStore

namespace Store

/-- What is held where is all in the databases. -/
theorem held?_congr {store store' : Store} (h : store.databases = store'.databases)
    (name id : String) : store.held? name id = store'.held? name id := by
  rw [held?, h, held?]

end Store

namespace Plan

variable {token : Nat → String} {store : Store} {model : String} {db : Database}

/-- Where the identifier drawn for the design document is taken, nothing is written. -/
theorem run_of_taken (hdb : store.databases.get? model = some db)
    (hviews : store.transientViews = false) {record : Record}
    (htaken : db.get? (temporaryName (token store.issued)).designId = some record)
    (view : Definition) (options : ViewOptions) :
    ((Plan.transient view).run (Store.backend token) model options).runOn store =
      (.error (.conflict (temporaryName (token store.issued)).designId model),
        store.afterDraw) := by
  rw [run_of_refusing hviews]
  refine Action.runOn_bind_error _ (Store.runOn_answer_error ?_)
  exact Store.createView_of_taken token store.afterDraw hdb htaken view

/-- Whatever comes of it, the run of a plan leaves all databases as they were. -/
theorem run_databases (plan : Plan) (token : Nat → String) (store : Store) (model : String)
    (options : ViewOptions) :
    ((plan.run (Store.backend token) model options).runOn store).2.databases =
      store.databases := by
  cases plan with
  | stored name =>
    rw [run, Store.runOn_invokeView]
  | transient view =>
    cases hdb : store.databases.get? model with
    | none => exact (run_without_database token store hdb view options).2
    | some db =>
      cases hviews : store.transientViews with
      | true => rw [runOn_transient token store hdb hviews]
      | false =>
        -- A design document is written exactly if its identifier is free.
        cases hdesign : db.get? (temporaryName (token store.issued)).designId with
        | none => rw [runOn_stored token store hdb hviews hdesign]
        | some record =>
          rw [run_of_taken hdb hviews hdesign]
          rfl

end Plan

/-- An opening adds at most the database of the service, and adds it empty. -/
theorem Handle.settled_databases (handle : Handle Store) (model : String) :
    (handle.settled model).store.databases = handle.store.databases ∨
    (handle.ready = false ∧ handle.store.databases.get? model = none ∧
      (handle.settled model).store.databases =
        handle.store.databases.insert model Table.empty) := by
  rw [settled, Store.ensured]
  cases handle.ready with
  | true => exact Or.inl rfl
  | false =>
    cases hdb : handle.store.databases.get? model with
    | some db => exact Or.inl rfl
    | none => exact Or.inr ⟨rfl, rfl, rfl⟩

/-- A find leaves the databases as they were behind its opening, or, if its input is refused, as
    they were in front of it. -/
theorem Service.find_leaves (token : Nat → String) (model : String) (paginate : Paginate)
    (query : Document) (filters : Filters) (handle : Handle Store) :
    (((overMemory token model paginate).find query filters).runOn handle).2.store.databases =
        (handle.settled model).store.databases ∨
    (((overMemory token model paginate).find query filters).runOn handle).2 = handle := by
  cases hplan : plan query filters with
  | error fault =>
    rw [runOn_find_unplanned handle hplan]
    exact Or.inr rfl
  | ok planned =>
    rw [runOn_find_planned handle hplan]
    exact Or.inl (planned.run_databases token (handle.settled model).store model _)

/-- **A find changes nothing that is stored.**  Over every store, whether it evaluates views or
    refuses to, for every query and all filters, and whether the find succeeds or fails: afterwards
    the databases are those from before, with the same documents under the same revisions, except
    that the database of the service may have been added, empty, where there was none. -/
theorem find_changes_no_document (token : Nat → String) (model : String) (paginate : Paginate)
    (query : Document) (filters : Filters) (handle : Handle Store) :
    let next := (((Service.overMemory token model paginate).find query filters).runOn
      handle).2.store
    (next.databases = handle.store.databases ∨
      (handle.ready = false ∧ handle.store.databases.get? model = none ∧
        next.databases = handle.store.databases.insert model Table.empty)) ∧
    ∀ name id, next.held? name id = handle.store.held? name id := by
  intro next
  rcases Service.find_leaves token model paginate query filters handle with hleft | hleft
  · have hnext : next.databases = (handle.settled model).store.databases := hleft
    refine ⟨?_, fun name id => ?_⟩
    · rw [hnext]
      exact handle.settled_databases model
    · exact (Store.held?_congr hnext name id).trans (Service.held?_settled handle model name id)
  · have hnext : next = handle.store := congrArg Handle.store hleft
    rw [hnext]
    exact ⟨Or.inl rfl, fun _ _ => rfl⟩

end DocStore
