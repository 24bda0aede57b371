/-
  Finding over a store that evaluates stored views only.

  Such a store gets the view of a find in a design document, which is written, invoked and removed.
  `runOn_stored` follows the three steps.  The design document does not disturb the scan, because
  design documents emit nothing, and nothing is left of it.  So all that can make a difference is
  that the predicate was written and read again in between.

  It does make one: a literal that is a document with certain keys is read as another value, or not
  at all.  `find_agrees_iff_reread` says exactly which queries suffer from this and names those
  that cannot; `stored_view_changes_literal` is a query that does.
-/
import DocStore.Proofs.Find.Scan
import DocStore.Proofs.Store.Writes
import DocStore.Proofs.View.Reread

namespace DocStore

/-- The identifier of a design document says that it is one. -/
theorem isDesignId_designId (name : ViewName) : isDesignId name.designId = true := by
  refine Text.startsWith_iff.2 ⟨name.design.toList, ?_⟩
  rw [ViewName.designId, String.toList_append]

/-! ## The three steps

  Creating the view, invoking it and removing it, first as operations of a store and then as
  requests to the backend.  In between the database holds one document more. -/

namespace Store

variable {token : Nat → String} {store : Store} {model : String} {name : ViewName} {db : Database}

/-- Where nothing is held under its identifier, a design document is written as a first
    generation. -/
theorem createView_of_free (token : Nat → String) (store : Store)
    (hdb : store.databases.get? model = some db) (hfree : db.get? name.designId = none)
    (definition : Definition) :
    store.createView token model name definition =
      .ok (store.write db model name.designId
        ⟨1, revisionText 1 (token (store.issued + 1)), definition.toDesign name.view⟩ 2) := by
  have hassigned : db.get? (store.assigned token (some name.designId)) = none := hfree
  exact saveDocument_of_free token store hdb hassigned rfl

/-- The definition in a design document is what was written, read again. -/
theorem ofDesign_shown (seq : Nat) (revision : String) (definition : Definition) :
    Definition.ofDesign
        (Record.shown ⟨seq, revision, definition.toDesign name.view⟩ name.designId) name.view =
      (definition.predicate.reread.mapError StoreError.ofDecode).map fun predicate =>
        ⟨predicate, definition.projection⟩ := by
  have hstored : Definition.stored?
      (Record.shown ⟨seq, revision, definition.toDesign name.view⟩ name.designId) name.view =
        some definition.toStored := by
    -- Identifier and revision stand in front of the views, under names of their own.
    show (Entries.get? [(name.view, Value.document [("map", definition.toStored)])]
      name.view).bind (fun value => value.asDocument?.bind fun view => view.get? "map") = _
    rw [Entries.get?_cons, if_pos rfl]
    rfl
  exact Definition.ofDesign_of_stored hstored

/-- A view that was written scans like its definition, as far as that can be read again. -/
theorem invokeView_of_design (hdb : store.databases.get? model = some db) {seq : Nat}
    {revision : String} {definition : Definition}
    (hdesign : db.get? name.designId = some ⟨seq, revision, definition.toDesign name.view⟩)
    (options : ViewOptions) :
    store.invokeView model name options =
      (definition.predicate.reread.mapError StoreError.ofDecode).map fun predicate =>
        Definition.evaluate ⟨predicate, definition.projection⟩
          (db.entries.map fun entry => entry.2.shown entry.1) options := by
  have hget : store.getDocument model name.designId =
      .ok (Record.shown ⟨seq, revision, definition.toDesign name.view⟩ name.designId) :=
    getDocument_eq_ok_iff.2 ⟨_, (held?_of_get? hdb _).trans hdesign, rfl⟩
  rw [invokeView_eq, hget]
  show (Definition.ofDesign _ name.view >>= fun view => store.runView model view options) = _
  rw [ofDesign_shown]
  cases definition.predicate.reread with
  | error e => rfl
  | ok predicate =>
    show store.runView model ⟨predicate, definition.projection⟩ options = _
    rw [runView_of_get? hdb]
    rfl

end Store

/-- A design document in the database emits nothing. -/
theorem Definition.evaluate_insert_design (view : Definition) {db : Database} {name : ViewName}
    {record : Record} (hfree : db.get? name.designId = none) (hwf : record.WellFormed)
    (options : ViewOptions) :
    view.evaluate ((db.insert name.designId record).entries.map fun entry =>
        entry.2.shown entry.1) options =
      view.evaluate (db.entries.map fun entry => entry.2.shown entry.1) options := by
  have hnone : view.row? (record.shown name.designId) = none := by
    rw [view.row?_shown name.designId hwf, emits, isDesignId_designId]
    rfl
  -- The new document stands somewhere in the scan, but a filter that drops it cannot tell where.
  have hrows : ((db.insert name.designId record).entries.map fun entry =>
      entry.2.shown entry.1).filterMap view.row? =
        (db.entries.map fun entry => entry.2.shown entry.1).filterMap view.row? := by
    rw [List.filterMap_map, List.filterMap_map]
    exact Entries.filterMap_place hfree hnone
  rw [evaluate, evaluate, hrows]

/-- Two predicates agree if the same documents of a store satisfy them, design documents aside. -/
def Expr.Agrees (e e' : Expr) : Prop :=
  ∀ (id : String) (record : Record), isDesignId id = false → record.WellFormed →
    e.matches (record.shown id) = e'.matches (record.shown id)

/-- Predicates that agree make the same scan. -/
theorem Definition.evaluate_congr {e e' : Expr} (h : e.Agrees e') (projection : Projection)
    {db : Database} (hdb : db.WellFormed) (options : ViewOptions) :
    evaluate ⟨e, projection⟩ (db.entries.map fun entry => entry.2.shown entry.1) options =
      evaluate ⟨e', projection⟩ (db.entries.map fun entry => entry.2.shown entry.1) options := by
  have hemits : ∀ entry ∈ db.entries,
      emits ⟨e, projection⟩ entry = emits ⟨e', projection⟩ entry := by
    rintro ⟨id, record⟩ hmem
    unfold emits
    cases hdesign : isDesignId id with
    | true => rfl
    | false => exact congrArg (true && ·) (h id record hdesign (hdb _ hmem))
  rw [evaluate_shown _ hdb, evaluate_shown _ hdb, List.filter_congr hemits]
  rfl

namespace Plan

variable {token : Nat → String} {store : Store} {model : String} {db : Database}

/-- The design document in which a find keeps its view. -/
def temporaryRecord (token : Nat → String) (store : Store) (view : Definition) : Record :=
  ⟨1, Store.revisionText 1 (token (store.issued + 2)), view.toDesign temporaryView⟩

/-- The database while the design document is in it. -/
def holding (token : Nat → String) (store : Store) (db : Database) (view : Definition) : Database :=
  db.insert (temporaryName (token store.issued)).designId (temporaryRecord token store view)

/-- The store while the design document is in it. -/
def during (token : Nat → String) (store : Store) (model : String) (db : Database)
    (view : Definition) : Store :=
  { store with
    databases := store.databases.insert model (holding token store db view)
    issued := store.issued + 3 }

/-- Its own database is the one with the design document. -/
theorem get?_during (token : Nat → String) (store : Store) (model : String) (db : Database)
    (view : Definition) : (during token store model db view).databases.get? model =
      some (holding token store db view) :=
  Table.get?_insert_self _ _ _

/-- What stands under the identifier drawn is the design document. -/
theorem get?_holding (token : Nat → String) (store : Store) (db : Database) (view : Definition) :
    (holding token store db view).get? (temporaryName (token store.issued)).designId =
      some (temporaryRecord token store view) :=
  Table.get?_insert_self _ _ _

/-- A store that refuses to evaluate views gets the view in a design document. -/
theorem run_of_refusing (hviews : store.transientViews = false) (view : Definition)
    (options : ViewOptions) :
    ((Plan.transient view).run (Store.backend token) model options).runOn store = (do
      let receipt ← (Store.backend token).answer
        (.createView model (temporaryName (token store.issued)) view)
      let result ← ((Store.backend token).answer
        (.invokeView model (temporaryName (token store.issued)) options)).attempt
      let _ ← ((Store.backend token).answer
        (.removeDocument model receipt.id receipt.revision)).attempt
      Action.ofExcept result : Action Store StoreError ViewResult).runOn store.afterDraw := by
  have hrefused : ((Store.backend token).answer (.evaluateTransient model view options)).runOn
      store = (.error .viewUnsupported, store) := by
    rw [Store.runOn_evaluateTransient, Store.evaluateTransient_eq, hviews]
    rfl
  have htoken : (Store.backend token).token.runOn store =
      (.ok (token store.issued), store.afterDraw) := rfl
  rw [run, Action.runOn_bind_attempt _ hrefused]
  show (throughStored (Store.backend token) model view options).runOn store = _
  rw [throughStored, Action.runOn_bind_ok _ htoken]
  rfl

/-- First the design document is written; the receipt names it, for the removal. -/
theorem runOn_create (hdb : store.databases.get? model = some db)
    (hfree : db.get? (temporaryName (token store.issued)).designId = none) (view : Definition) :
    ((Store.backend token).answer
        (.createView model (temporaryName (token store.issued)) view)).runOn store.afterDraw =
      (.ok ⟨(temporaryName (token store.issued)).designId,
        (temporaryRecord token store view).revision⟩, during token store model db view) :=
  Store.runOn_answer_ok (Store.createView_of_free token store.afterDraw hdb hfree view)

/-- Then the view is invoked: it scans what was held without its design document. -/
theorem runOn_invoke (hfree : db.get? (temporaryName (token store.issued)).designId = none)
    (view : Definition) (options : ViewOptions) :
    ((Store.backend token).answer
        (.invokeView model (temporaryName (token store.issued)) options)).runOn
          (during token store model db view) =
      ((view.predicate.reread.mapError StoreError.ofDecode).map fun predicate =>
        Definition.evaluate ⟨predicate, view.projection⟩
          (db.entries.map fun entry => entry.2.shown entry.1) options,
        during token store model db view) := by
  have hwf : (temporaryRecord token store view).WellFormed := ⟨rfl, rfl, _, rfl⟩
  have hinvoke := Store.invokeView_of_design (get?_during token store model db view)
    (get?_holding token store db view) options
  cases hread : view.predicate.reread with
  | error e =>
    rw [hread] at hinvoke
    rw [Store.runOn_invokeView, hinvoke]
    rfl
  | ok predicate =>
    rw [hread] at hinvoke
    rw [Store.runOn_invokeView, hinvoke]
    exact congrArg (fun result => (Except.ok result, during token store model db view))
      (Definition.evaluate_insert_design _ hfree hwf options)

/-- The removal leaves what was there before the design document. -/
theorem runOn_remove (hdb : store.databases.get? model = some db)
    (hfree : db.get? (temporaryName (token store.issued)).designId = none) (view : Definition) :
    (((Store.backend token).answer (.removeDocument model
        (temporaryName (token store.issued)).designId
        (temporaryRecord token store view).revision)).runOn (during token store model db view)).2 =
      { store with issued := store.issued + 4 } := by
  have hremove : (during token store model db view).step token (.removeDocument model
      (temporaryName (token store.issued)).designId (temporaryRecord token store view).revision) =
        .ok _ :=
    Store.removeDocument_eq_ok_iff.2 ⟨_, _, get?_during token store model db view,
      get?_holding token store db view, rfl, rfl⟩
  have herased : (holding token store db view).erase
      (temporaryName (token store.issued)).designId = db := Table.erase_insert_self _ hfree
  rw [Store.runOn_answer_ok hremove, herased]
  dsimp only [during]
  rw [Table.insert_insert_self _ hdb]

/-- Through a stored view the predicate is read again, and the store ends as it was but for the
    tokens drawn. -/
theorem runOn_stored (token : Nat → String) (store : Store)
    (hdb : store.databases.get? model = some db) (hviews : store.transientViews = false)
    (hfree : db.get? (temporaryName (token store.issued)).designId = none)
    (view : Definition) (options : ViewOptions) :
    ((Plan.transient view).run (Store.backend token) model options).runOn store =
      ((view.predicate.reread.mapError StoreError.ofDecode).map fun predicate =>
        Definition.evaluate ⟨predicate, view.projection⟩
          (db.entries.map fun entry => entry.2.shown entry.1) options,
        { store with issued := store.issued + 4 }) := by
  rw [run_of_refusing hviews]
  refine (Action.runOn_bind_ok _ (runOn_create hdb hfree view)).trans ?_
  refine (Action.runOn_bind_attempt _ (runOn_invoke hfree view options)).trans ?_
  -- The removal is made whatever the invocation gave, and of its outcome only the store counts.
  refine (Action.runOn_bind_attempt _ rfl).trans ?_
  exact congrArg (Prod.mk _) (runOn_remove hdb hfree view)

/-- A store without the database answers the same whether it evaluates views or not. -/
theorem run_without_database (token : Nat → String) (store : Store)
    (hdb : store.databases.get? model = none) (view : Definition) (options : ViewOptions) :
    (((Plan.transient view).run (Store.backend token) model options).runOn store).1 =
      .error (.databaseNotFound model) ∧
    (((Plan.transient view).run (Store.backend token) model options).runOn store).2.databases =
      store.databases := by
  have hdatabase : ∀ s : Store, s.databases = store.databases →
      s.database model = .error (.databaseNotFound model) := by
    intro s hs
    rw [Store.database, hs, hdb]
  -- Either the scan asks for the database, or the first of the three steps does.
  cases hviews : store.transientViews with
  | true =>
    have hanswer : ((Store.backend token).answer (.evaluateTransient model view options)).runOn
        store = (.error (.databaseNotFound model), store) := by
      rw [Store.runOn_evaluateTransient, Store.evaluateTransient_eq, if_pos hviews,
        Store.runView_eq, Store.documents_eq, hdatabase store rfl]
      rfl
    rw [run, Action.runOn_bind_attempt _ hanswer]
    exact ⟨rfl, rfl⟩
  | false =>
    have hstep : store.afterDraw.step token
        (.createView model (temporaryName (token store.issued)) view) =
          .error (.databaseNotFound model) := by
      show Store.saveDocument token store.afterDraw model _ _ = _
      rw [Store.saveDocument_eq, hdatabase store.afterDraw rfl]
      rfl
    rw [run_of_refusing hviews, Action.runOn_bind_error _ (Store.runOn_answer_error hstep)]
    exact ⟨rfl, rfl⟩

end Plan

/-! ## With and without the evaluation of views

  The two kinds of find side by side, over stores that differ in that setting alone. -/

/-- The handle over the same content, where the store evaluates views or refuses to. -/
def Handle.withViews (handle : Handle Store) (views : Bool) : Handle Store :=
  ⟨{ handle.store with transientViews := views }, handle.ready⟩

/-- Nothing is held where a find would put its design document. -/
def Handle.TemporaryFree (token : Nat → String) (model : String) (handle : Handle Store) : Prop :=
  handle.store.held? model (Plan.temporaryName (token handle.store.issued)).designId = none

/-- Opening is indifferent to whether the store evaluates views. -/
theorem Handle.settled_withViews (handle : Handle Store) (model : String) (views : Bool) :
    (handle.withViews views).settled model = (handle.settled model).withViews views := by
  unfold withViews settled Store.ensured
  dsimp only
  cases handle.ready <;> cases handle.store.databases.get? model <;> rfl

namespace Service

variable {token : Nat → String} {model : String} {paginate : Paginate} {handle : Handle Store}
  {db : Database} {filters : Filters}

/-- Where the database is missing, both kinds of store say so, and nothing is left behind. -/
theorem find_without_database
    (hdb : (handle.settled model).store.databases.get? model = none) (query : Document)
    (hview : filters.view = none) (views : Bool) :
    (((overMemory token model paginate).find query filters).runOn (handle.withViews views)).1 =
      .error (ServiceError.ofStore (.databaseNotFound model)) ∧
    (((overMemory token model paginate).find query filters).runOn
      (handle.withViews views)).2.store.databases = (handle.settled model).store.databases := by
  rw [runOn_find _ query hview, Handle.settled_withViews]
  have hrun := Plan.run_without_database token ((handle.settled model).withViews views).store hdb
    (Definition.compile query filters.select)
    ⟨some (paginate.limit filters.limit), filters.skip.getD 0⟩
  refine ⟨?_, hrun.2⟩
  dsimp only
  rw [hrun.1]
  rfl

/-- A store that evaluates views scans with the predicate that the query compiles to. -/
theorem find_evaluated (hdb : (handle.settled model).store.databases.get? model = some db)
    (query : Document) (hview : filters.view = none) :
    ((overMemory token model paginate).find query filters).runOn (handle.withViews true) =
      let limit := paginate.limit filters.limit
      let skip := filters.skip.getD 0
      (.ok (pageOf filters limit skip ((Definition.compile query filters.select).evaluate
        (db.entries.map fun entry => entry.2.shown entry.1) ⟨some limit, skip⟩)),
        (handle.settled model).withViews true) := by
  rw [runOn_find _ query hview, Handle.settled_withViews]
  dsimp only
  rw [Plan.runOn_transient token ((handle.settled model).withViews true).store hdb rfl]
  rfl

/-- A store that does not scans with that predicate, read again; it draws four tokens for that. -/
theorem find_stored (hdb : (handle.settled model).store.databases.get? model = some db)
    (hfree : handle.TemporaryFree token model) (query : Document) (hview : filters.view = none) :
    ((overMemory token model paginate).find query filters).runOn (handle.withViews false) =
      let limit := paginate.limit filters.limit
      let skip := filters.skip.getD 0
      let store := ((handle.settled model).withViews false).store
      ((((Expr.compile query).reread.mapError StoreError.ofDecode).mapError
          ServiceError.ofStore).map fun predicate =>
        pageOf filters limit skip (Definition.evaluate
          ⟨predicate, Projection.ofSelect filters.select⟩
          (db.entries.map fun entry => entry.2.shown entry.1) ⟨some limit, skip⟩),
        ⟨{ store with issued := store.issued + 4 }, true⟩) := by
  have hnone : db.get? (Plan.temporaryName
      (token ((handle.settled model).withViews false).store.issued)).designId = none := by
    -- Opening draws no token, so the identifier is the one that was free in front of it.
    show db.get? (Plan.temporaryName (token (handle.settled model).store.issued)).designId = none
    rw [Handle.settled_issued, ← Store.held?_of_get? hdb, held?_settled]
    exact hfree
  rw [runOn_find _ query hview, Handle.settled_withViews]
  dsimp only
  rw [Plan.runOn_stored token ((handle.settled model).withViews false).store hdb rfl hnone]
  dsimp only [Definition.compile]
  cases (Expr.compile query).reread <;> rfl

/-- Whatever the query is, a find leaves the same documents in both stores: those that it found. -/
theorem find_databases (hfree : handle.TemporaryFree token model) (query : Document)
    (hview : filters.view = none) (views : Bool) :
    (((overMemory token model paginate).find query filters).runOn
      (handle.withViews views)).2.store.databases = (handle.settled model).store.databases := by
  -- Without the database, both fail; with it, each kind of store has its equation.
  cases hdb : (handle.settled model).store.databases.get? model with
  | none => exact (find_without_database hdb query hview views).2
  | some db =>
    cases views with
    | true => rw [find_evaluated hdb query hview]; rfl
    | false => rw [find_stored hdb hfree query hview]; rfl

end Service

/-! ## A store with one document

  To tell two predicates apart by finds, it is enough to put any one document into a store: the
  total says whether it was found. -/

/-- A handle over a store that holds one document, in the service's database. -/
def Handle.ofOne (model id : String) (record : Record) : Handle Store :=
  ⟨⟨Table.empty.insert model (Table.empty.insert id record), true, 0⟩, true⟩

section

variable {token : Nat → String} {model id : String} {record : Record}

/-- There is one document, and nothing else anywhere. -/
theorem Handle.held?_ofOne (n i : String) : (ofOne model id record).store.held? n i =
    if n = model ∧ i = id then some record else none := by
  refine (Store.held?_insert (Store.empty true) model _ 0 n i).trans ?_
  rw [Table.get?_insert, Table.get?_empty, Store.held?_empty]
  by_cases hn : n = model
  · by_cases hi : i = id
    · rw [if_pos hn, if_pos hi, if_pos ⟨hn, hi⟩]
    · rw [if_pos hn, if_neg hi, if_neg fun h => hi h.2]
  · rw [if_neg hn, if_neg fun h => hn h.1]

/-- Opening finds the database and leaves it as it is. -/
theorem Handle.get?_settled_ofOne : ((ofOne model id record).settled model).store.databases.get?
    model = some (Table.empty.insert id record) :=
  Table.get?_insert_self _ _ _

/-- The store is well formed if the one document is. -/
theorem Handle.wellFormed_ofOne (hwf : record.WellFormed) :
    (ofOne model id record).store.WellFormed := by
  intro n i r h
  rw [held?_ofOne] at h
  split at h
  · cases h
    exact hwf
  · cases h

/-- If the one document is no design document, every design identifier is free. -/
theorem Handle.temporaryFree_ofOne (hid : isDesignId id = false) :
    (ofOne model id record).TemporaryFree token model := by
  rw [TemporaryFree, held?_ofOne, if_neg]
  rintro ⟨-, heq⟩
  rw [← heq, isDesignId_designId] at hid
  cases hid

/-- A scan of the one document counts it or not. -/
theorem Definition.totalRows_one (view : Definition) (hid : isDesignId id = false)
    (hwf : record.WellFormed) (options : ViewOptions) :
    (view.evaluate ((Table.empty.insert id record).entries.map fun entry =>
      entry.2.shown entry.1) options).totalRows =
        if view.predicate.matches (record.shown id) then 1 else 0 := by
  show (view.evaluate [record.shown id] options).totalRows = _
  have hrow : [record.shown id].filterMap view.row? =
      if view.predicate.matches (record.shown id) then [view.rowOf (id, record)] else [] := by
    rw [List.filterMap_cons, view.row?_shown id hwf, emits, hid]
    cases view.predicate.matches (record.shown id) <;> rfl
  rw [evaluate, hrow]
  split <;> rfl

end

/-! ## Agreement

  What is left of the difference between the two finds is the predicate: compiled in one case,
  compiled, written and read in the other. -/

/-- **With and without the evaluation of views.**  Take a find without a stored view, over two
    stores with the same content of which one evaluates views and the other refuses to, where the
    identifier generated for the design document is free.
    Both finds leave the same documents.
    They give the same result over all such stores and for all filters exactly if the compiled
    predicate can be read again after it was written, as one that the same documents satisfy.
    This is so for every portable query: one without documents that stand for other values, and
    without dates behind the last one of the calendar. -/
theorem find_agrees_iff_reread (token : Nat → String) (model : String) (paginate : Paginate)
    (query : Document) :
    (∀ (handle : Handle Store) (filters : Filters), filters.view = none →
      handle.TemporaryFree token model →
      (((Service.overMemory token model paginate).find query filters).runOn
          (handle.withViews true)).2.store.databases =
        (((Service.overMemory token model paginate).find query filters).runOn
          (handle.withViews false)).2.store.databases) ∧
    ((∀ (handle : Handle Store) (filters : Filters), filters.view = none →
        handle.TemporaryFree token model → handle.store.WellFormed →
        (((Service.overMemory token model paginate).find query filters).runOn
            (handle.withViews true)).1 =
          (((Service.overMemory token model paginate).find query filters).runOn
            (handle.withViews false)).1) ↔
      ∃ predicate, (Expr.compile query).reread = .ok predicate ∧
        predicate.Agrees (Expr.compile query)) ∧
    ((Value.document query).Portable → ∃ predicate, (Expr.compile query).reread = .ok predicate ∧
      predicate.Agrees (Expr.compile query)) := by
  refine ⟨?documents, ⟨?necessary, ?sufficient⟩, ?portable⟩
  case documents =>
    intro handle filters hview hfree
    rw [Service.find_databases hfree query hview true,
      Service.find_databases hfree query hview false]
  case necessary =>
    intro hagree
    -- Over a store with one document the results tell whether the predicate was read again, and
    -- whether it still holds of that document.
    have hone : ∀ (id : String) (record : Record), isDesignId id = false → record.WellFormed →
        ∃ predicate, (Expr.compile query).reread = .ok predicate ∧
          predicate.matches (record.shown id) = (Expr.compile query).matches (record.shown id) := by
      intro id record hid hwf
      have hresult := hagree (Handle.ofOne model id record) {} rfl
        (Handle.temporaryFree_ofOne hid) (Handle.wellFormed_ofOne hwf)
      rw [Service.find_evaluated Handle.get?_settled_ofOne query rfl,
        Service.find_stored Handle.get?_settled_ofOne (Handle.temporaryFree_ofOne hid) query
          rfl] at hresult
      cases hread : (Expr.compile query).reread with
      | error e =>
        rw [hread] at hresult
        cases hresult
      | ok predicate =>
        rw [hread] at hresult
        refine ⟨predicate, rfl, ?_⟩
        have htotal := congrArg Page.total (Except.ok.inj hresult)
        dsimp only [Service.pageOf] at htotal
        rw [Definition.totalRows_one _ hid hwf, Definition.totalRows_one _ hid hwf] at htotal
        have counted : ∀ a b : Bool, (if a then 1 else 0) = (if b then 1 else 0) → b = a := by
          decide
        exact counted _ _ htotal
    -- What it is read again as does not depend on the document.
    obtain ⟨predicate, hread, -⟩ := hone "" ⟨1, Store.revisionText 1 "", []⟩ (by decide)
      ⟨rfl, rfl, _, rfl⟩
    refine ⟨predicate, hread, fun id record hid hwf => ?_⟩
    obtain ⟨predicate', hread', hsame⟩ := hone id record hid hwf
    rw [hread] at hread'
    cases hread'
    exact hsame
  case sufficient =>
    rintro ⟨predicate, hread, hagrees⟩ handle filters hview hfree hwf
    cases hdb : (handle.settled model).store.databases.get? model with
    | none =>
      rw [(Service.find_without_database hdb query hview true).1,
        (Service.find_without_database hdb query hview false).1]
    | some db =>
      have hdbwf : db.WellFormed := (Service.wellFormed_settled hwf model).database hdb
      rw [Service.find_evaluated hdb query hview, Service.find_stored hdb hfree query hview, hread]
      dsimp only
      rw [Definition.compile, ← Definition.evaluate_congr hagrees _ hdbwf]
      rfl
  case portable =>
    intro hportable
    obtain ⟨predicate, hread, hsame⟩ :=
      Expr.reread_of_portable (Expr.compile query) (Expr.portable_compile hportable)
    exact ⟨predicate, hread, fun id record _ _ => hsame (record.shown id)⟩

/-- A handle over a store that holds one document, with the number five under `n`. -/
def fiveHeld : Handle Store :=
  ⟨(Store.respondAll Store.countedToken [] (Store.empty true)
    [.createDatabase "notes", .saveDocument "notes" (some "a") [("n", .int32 5)]]).2, false⟩

/-- Asks for numbers greater than a document, which happens to spell the number three. -/
def aboveSpelledThree : Document :=
  [("n", .document [("$gt", .document [("$numberInt", .string "3")])])]

/-- A number has no order against a document, so a store that evaluates views finds nothing.  Once
    the view was stored and read again, the document has become the number that it spells. -/
theorem stored_view_changes_literal :
    Service.Reached Store.countedToken "notes" fiveHeld ∧
    fiveHeld.TemporaryFree Store.countedToken "notes" ∧
    (((Service.overMemory Store.countedToken "notes" {}).find aboveSpelledThree {}).runOn
      (fiveHeld.withViews true)).1.map Page.total = .ok 0 ∧
    (((Service.overMemory Store.countedToken "notes" {}).find aboveSpelledThree {}).runOn
      (fiveHeld.withViews false)).1.map Page.total = .ok 1 :=
  ⟨.built ((Store.Reached.empty true).respondAll _), rfl, rfl, rfl⟩

end DocStore
