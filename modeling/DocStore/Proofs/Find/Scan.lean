/-
  What a find sees of a store.

  A view without a name scans the database in key order.  The store shows every document with its
  identifier in front, because no stored body has a field of that name, so the scan emits exactly
  the entries that `Definition.emits` picks, each as one row.

  `runOn_find_planned` takes a find apart: it opens, runs its plan on the store behind the opening,
  and makes a page of what comes out.  What the plan does to the store is for others to say.
-/
import DocStore.Proofs.Service.Opened
import DocStore.Proofs.Service.Refusal

namespace DocStore

/-! ## The scan -/

/-- Whether a view emits a row for an entry of a database. -/
def Definition.emits (view : Definition) (entry : String × Record) : Bool :=
  !isDesignId entry.1 && view.predicate.matches (entry.2.shown entry.1)

/-- The row of an entry. -/
def Definition.rowOf (view : Definition) (entry : String × Record) : Row :=
  ⟨entry.1, .null, view.projection.apply (entry.2.shown entry.1)⟩

/-- Everything in the database is well-formed. -/
def Database.WellFormed (db : Database) : Prop :=
  ∀ entry ∈ db.entries, entry.2.WellFormed

namespace Store

/-- What holds of everything in a store holds of everything in one database. -/
theorem WellFormed.database {store : Store} (h : store.WellFormed) {name : String} {db : Database}
    (hdb : store.databases.get? name = some db) : db.WellFormed := by
  rintro ⟨id, record⟩ hmem
  refine h name id record ?_
  rw [held?_of_get? hdb]
  exact (Table.mem_entries_iff db id record).1 hmem

end Store

/-- A document makes a row exactly if the view emits it. -/
theorem Definition.row?_shown (view : Definition) (id : String) {record : Record}
    (h : record.WellFormed) :
    view.row? (record.shown id) =
      if view.emits (id, record) then some (view.rowOf (id, record)) else none := by
  have hid : Document.id? (record.shown id) = some id := by
    rw [Document.id?, h.get?_shown_id]
    rfl
  rw [row?, hid, emits, map]
  dsimp only
  cases isDesignId id with
  | true => rfl
  | false => cases view.predicate.matches (record.shown id) <;> rfl

/-- The scan of a well-formed database. -/
theorem Definition.evaluate_shown (view : Definition) {db : Database} (h : db.WellFormed)
    (options : ViewOptions) :
    view.evaluate (db.entries.map fun entry => entry.2.shown entry.1) options =
      let emitted := (db.entries.filter view.emits).map view.rowOf
      ⟨emitted.length, options.skip, options.page emitted⟩ := by
  have rows : ∀ entries : List (String × Record), (∀ entry ∈ entries, entry.2.WellFormed) →
      (entries.map fun entry => entry.2.shown entry.1).filterMap view.row? =
        (entries.filter view.emits).map view.rowOf := by
    -- The order of the entries is that of the rows, so the induction is on the entries.
    intro entries
    induction entries with
    | nil => exact fun _ => rfl
    | cons entry rest ih =>
      intro hwf
      have hrest := ih fun other hmem => hwf other (List.mem_cons_of_mem _ hmem)
      have hentry := view.row?_shown entry.1 (hwf entry List.mem_cons_self)
      rw [List.map_cons, List.filterMap_cons, List.filter_cons, hentry]
      cases view.emits entry with
      | true => exact congrArg (view.rowOf entry :: ·) hrest
      | false => exact hrest
  rw [evaluate, rows db.entries h]

/-! ## Rows as callers see them -/

/-- A document cut down to `id` and the selected fields. -/
def Document.cut (select : Option (List String)) (doc : Document) : Document :=
  match select with
  | some names => doc.filter fun field => field.1 == Field.publicId || names.contains field.1
  | none => doc

/-- A stored document as callers see it in a page. -/
def Record.listed (record : Record) (id : String) (select : Option (List String)) : Document :=
  Document.cut select ((Projection.ofSelect select).apply (record.shown id)).toPublic

/-- What has been kept stays as it is while more is gathered. -/
theorem Projection.get?_gather_of_kept {doc : Document} {key : String} {value : Value} :
    ∀ (names : List String) {kept : Document}, kept.get? key = some value →
      (gather doc kept names).get? key = some value
  | [], _, h => h
  | name :: rest, kept, h => by
    rw [gather]
    split
    · exact get?_gather_of_kept rest h
    · rename_i hnew
      split
      · -- A name that is not kept yet is not the key.
        have hne : name ≠ key := by
          rintro rfl
          rw [Entries.contains, h] at hnew
          exact hnew rfl
        exact get?_gather_of_kept rest ((Entries.get?_insert_of_ne kept _ hne).trans h)
      · exact get?_gather_of_kept rest h

/-- Every projection keeps the identifier. -/
theorem Projection.get?_apply_id (projection : Projection) {doc : Document} {id : Value}
    (h : doc.get? Field.id = some id) : (projection.apply doc).get? Field.id = some id := by
  cases projection with
  | all => exact h
  | fields names =>
    -- The identifier is gathered before all names that were asked for.
    rw [apply, gather, if_neg (by decide), h]
    exact get?_gather_of_kept _ (Entries.get?_insert_self _ _ _)

/-- A row whose value carries an identifier is shown with it, cut down to the selection. -/
theorem Row.toPublic_of_id {row : Row} {id : Value} (h : row.value.get? Field.id = some id)
    (select : Option (List String)) :
    row.toPublic select = Document.cut select row.value.toPublic := by
  have hcontains : row.value.contains Field.id := by
    rw [Entries.contains, h]
    rfl
  unfold toPublic
  rw [if_pos hcontains]
  rfl

/-- In public form, a row of a find is what the selection lists. -/
theorem Definition.toPublic_rowOf (query : Document) (select : Option (List String))
    {id : String} {record : Record} (h : record.WellFormed) :
    ((compile query select).rowOf (id, record)).toPublic select = record.listed id select := by
  have hid : ((compile query select).rowOf (id, record)).value.get? Field.id = some (.string id) :=
    (Projection.ofSelect select).get?_apply_id (h.get?_shown_id id)
  exact Row.toPublic_of_id hid select

/-! ## The run of a find -/

namespace Service

variable {token : Nat → String} {model : String} {paginate : Paginate}

/-- A find opens, runs its plan on the store behind the opening, and makes a page of what comes
    out. -/
theorem runOn_find_planned (handle : Handle Store) {query : Document} {filters : Filters}
    {planned : Plan} (hplan : plan query filters = .ok planned) :
    ((overMemory token model paginate).find query filters).runOn handle =
      let limit := paginate.limit filters.limit
      let skip := filters.skip.getD 0
      let (outcome, store) := (planned.run (Store.backend token) model ⟨some limit, skip⟩).runOn
        (handle.settled model).store
      ((outcome.mapError ServiceError.ofStore).map (pageOf filters limit skip), ⟨store, true⟩) := by
  have hrun : (Action.ofExcept ((plan query filters).mapError ServiceError.invalidInput) :
      Operation Store Plan).runOn handle = (.ok planned, handle) := by
    rw [hplan]
    rfl
  rw [find, Action.runOn_bind_ok _ hrun, Action.runOn_bind, reported, Action.runOn_mapError,
    Action.runOn_bind_ok _ (runOn_opened handle), runOn_onStore]
  dsimp only [overMemory]
  cases (Action.runOn _ (handle.settled model).store).1 <;> rfl

/-- A find without a stored view opens and runs the view that query and selection compile to. -/
theorem runOn_find (handle : Handle Store) (query : Document) {filters : Filters}
    (hview : filters.view = none) :
    ((overMemory token model paginate).find query filters).runOn handle =
      let limit := paginate.limit filters.limit
      let skip := filters.skip.getD 0
      let plan := Plan.transient (Definition.compile query filters.select)
      let (outcome, store) := (plan.run (Store.backend token) model ⟨some limit, skip⟩).runOn
        (handle.settled model).store
      ((outcome.mapError ServiceError.ofStore).map (pageOf filters limit skip), ⟨store, true⟩) := by
  have hplan : Service.plan query filters =
      .ok (.transient (Definition.compile query filters.select)) := by
    rw [plan, hview]
  exact runOn_find_planned handle hplan

end Service

/-- A store that evaluates views answers at once and stays as it is. -/
theorem Plan.runOn_transient (token : Nat → String) (store : Store) {model : String}
    {db : Database} (hdb : store.databases.get? model = some db)
    (htransient : store.transientViews = true) (view : Definition) (options : ViewOptions) :
    ((Plan.transient view).run (Store.backend token) model options).runOn store =
      (.ok (view.evaluate (db.entries.map fun entry => entry.2.shown entry.1) options), store) := by
  have hanswer : ((Store.backend token).answer (.evaluateTransient model view options)).runOn
      store = (.ok (view.evaluate (db.entries.map fun entry => entry.2.shown entry.1) options),
        store) := by
    rw [Store.runOn_evaluateTransient, Store.evaluateTransient_eq, if_pos htransient,
      Store.runView_of_get? hdb]
  rw [run, Action.runOn_bind_attempt _ hanswer]
  rfl

end DocStore
