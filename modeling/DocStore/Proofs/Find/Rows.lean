/-
  The rows of a find.

  Whatever a find runs, a stored view or a definition on either of its ways, the rows that come out
  show documents that are held in the service's database, each in the shape of a projection
  (`Plan.rows_of_run`).

  A projection leaves fields out and changes none.  `Projection.get?_apply_fields` says so through
  look-ups.  What callers are shown of a row has the identifier in front
  (`Row.toPublic_of_id`, `Record.toPublic_apply`).
-/
import DocStore.Proofs.Document.Public
import DocStore.Proofs.Find.Untouched

namespace DocStore

/-! ## What projections leave

  A projection takes fields over one by one, so what it leaves is told by look-ups. -/

namespace Projection

variable {doc kept : Document} {key : String}

/-- Gathered fields are those that were kept already, and the named ones of the document. -/
theorem get?_gather (doc : Document) (key : String) :
    ∀ (names : List String) (kept : Document), (gather doc kept names).get? key =
      (kept.get? key).or (if key ∈ names then doc.get? key else none)
  | [], kept => by
    rw [gather, if_neg List.not_mem_nil, Option.or_none]
  | name :: rest, kept => by
    have ih := get?_gather doc key rest
    rw [gather]
    by_cases hname : key = name
    · rw [if_pos (List.mem_cons.2 (Or.inl hname)), ← hname]
      split
      · -- What is kept already is kept as it is.
        rename_i hkept
        obtain ⟨value, hvalue⟩ := Option.isSome_iff_exists.1 hkept
        rw [ih, hvalue, Option.some_or, Option.some_or]
      · rename_i hnew
        have hnone : kept.get? key = none := Entries.contains_eq_false_iff.1 (by simpa using hnew)
        cases hdoc : doc.get? key with
        | some value => rw [ih, Entries.get?_insert_self, hnone, Option.some_or, Option.none_or]
        | none => rw [ih, hnone, hdoc, ite_self]
    · have hmem : key ∈ name :: rest ↔ key ∈ rest :=
        ⟨fun h => (List.mem_cons.1 h).resolve_left hname, List.mem_cons_of_mem _⟩
      simp only [hmem]
      split
      · exact ih kept
      · split
        · rw [ih, Entries.get?_insert_of_ne _ _ (Ne.symm hname)]
        · exact ih kept

theorem distinct_gather (doc : Document) :
    ∀ (names : List String) {kept : Document}, kept.Distinct →
      Entries.Distinct (gather doc kept names)
  | [], _, h => h
  | name :: rest, _, h => by
    rw [gather]
    split
    · exact distinct_gather doc rest h
    · split
      · exact distinct_gather doc rest (h.insert _ _)
      · exact distinct_gather doc rest h

/-- Identifier, revision and the listed fields are seen as before, and nothing else is. -/
theorem get?_apply_fields (names : List String) (doc : Document) (key : String) :
    ((Projection.fields names).apply doc).get? key =
      if key = Field.id ∨ key = Field.revision ∨ key ∈ names then doc.get? key else none := by
  rw [apply, get?_gather, Entries.get?_nil, Option.none_or]
  simp only [List.mem_cons]

/-- A projection adds no field. -/
theorem get?_apply_of_none (projection : Projection) (h : doc.get? key = none) :
    (projection.apply doc).get? key = none := by
  cases projection with
  | all => exact h
  | fields names => rw [get?_apply_fields, h, ite_self]

/-- What it keeps is what was there. -/
theorem get?_of_get?_apply (projection : Projection) {value : Value}
    (h : (projection.apply doc).get? key = some value) : doc.get? key = some value := by
  cases projection with
  | all => exact h
  | fields names =>
    rw [get?_apply_fields] at h
    split at h
    · exact h
    · cases h

theorem distinct_apply (projection : Projection) (h : Entries.Distinct doc) :
    Entries.Distinct (projection.apply doc) := by
  cases projection with
  | all => exact h
  | fields names => exact distinct_gather doc _ Entries.Distinct.nil

end Projection

/-! ## What callers are shown

  A row is renamed and cut down on its way to the caller.  For a bare body that is as simple as it
  looks: nothing but the two fields of the store is in the way. -/

theorem Record.distinct_shown (record : Record) (id : String) :
    Entries.Distinct (record.shown id) := by
  have hrevision : Entries.Distinct [(Field.revision, Value.string record.revision)] :=
    Entries.distinct_cons_iff.2 ⟨rfl, Entries.Distinct.nil⟩
  exact (Entries.distinct_cons_iff.2 ⟨rfl, hrevision⟩).overlay record.body

/-- Cutting a document down keeps `id` and the selected fields. -/
theorem Document.get?_cut (select : List String) (doc : Document) (key : String) :
    (Document.cut (some select) doc).get? key =
      if key = Field.publicId ∨ key ∈ select then doc.get? key else none := by
  rw [cut]
  split
  · rename_i hkey
    exact Entries.get?_filter_of_true fun value => by simpa using hkey
  · rename_i hkey
    exact Entries.get?_filter_of_false fun value => by simpa using hkey

theorem Document.get?_cut_of_none {select : Option (List String)} {doc : Document} {key : String}
    (h : doc.get? key = none) : (Document.cut select doc).get? key = none := by
  cases select with
  | none => exact h
  | some names => rw [get?_cut, h, ite_self]

namespace Record

/-- What a projection leaves of the body of a document. -/
def projected (record : Record) (projection : Projection) (id : String) : Document :=
  ((projection.apply (record.shown id)).erase Field.id).erase Field.revision

variable {record : Record}

theorem distinct_projected (record : Record) (projection : Projection) (id : String) :
    Entries.Distinct (record.projected projection id) :=
  ((projection.distinct_apply (record.distinct_shown id)).filter _).filter _

/-- A bare body brings the callers' name of the identifier into no row. -/
theorem get?_publicId_apply (h : record.body.Bare) (projection : Projection) (id : String) :
    (projection.apply (record.shown id)).get? Field.publicId = none := by
  refine projection.get?_apply_of_none ?_
  rw [shown_eq h]
  exact h.ofList.no_publicId

/-- The identifier passes every projection. -/
theorem get?_id_apply (h : record.body.Bare) (projection : Projection) (id : String) :
    (projection.apply (record.shown id)).get? Field.id = some (.string id) := by
  refine projection.get?_apply_id ?_
  rw [shown_eq h]
  rfl

/-- Without its identifier and revision a row of a bare body is bare. -/
theorem bare_projected (h : record.body.Bare) (projection : Projection) (id : String) :
    (record.projected projection id).Bare where
  no_id := Entries.get?_erase_eq_none (Entries.get?_erase_self _ _) _
  no_revision := Entries.get?_erase_self _ _
  no_publicId := Entries.get?_erase_eq_none
    (Entries.get?_erase_eq_none (get?_publicId_apply h projection id) _) _

/-- Everything that is left is a field of the document. -/
theorem get?_projected {projection : Projection} {id key : String} {value : Value}
    (h : (record.projected projection id).get? key = some value) :
    (projection.apply (record.shown id)).get? key = some value := by
  have hrevision : Field.revision ≠ key := by
    rintro rfl
    cases h.symm.trans (Entries.get?_erase_self _ _)
  have hid : Field.id ≠ key := by
    rintro rfl
    cases h.symm.trans (Entries.get?_erase_eq_none (Entries.get?_erase_self _ _) _)
  rwa [projected, Entries.get?_erase_of_ne _ hrevision, Entries.get?_erase_of_ne _ hid] at h

/-- A projected document is shown with its identifier in front of what is left of the body. -/
theorem toPublic_apply (h : record.body.Bare) (projection : Projection) (id : String) :
    (projection.apply (record.shown id)).toPublic =
      Document.under (record.projected projection id) id := by
  rw [Document.toPublic_of_id (get?_id_apply h projection id) (get?_publicId_apply h projection id),
    ← projected, Entries.ofList_of_distinct (record.distinct_projected projection id)]

end Record

/-! ## Where rows come from

  Whatever plan is run, and over whatever kind of store, its rows come from one scan. -/

/-- The rows of a scan show what the database holds. -/
theorem Definition.rows_of_evaluate (view : Definition) {db : Database} (h : db.WellFormed)
    (options : ViewOptions) {row : Row}
    (hrow : row ∈
      (view.evaluate (db.entries.map fun entry => entry.2.shown entry.1) options).rows) :
    ∃ record, db.get? row.id = some record ∧
      row.value = view.projection.apply (record.shown row.id) := by
  rw [view.evaluate_shown h] at hrow
  have hpage : ∀ {rows : List Row}, row ∈ options.page rows → row ∈ rows := by
    intro rows hmem
    unfold ViewOptions.page at hmem
    split at hmem
    · exact List.mem_of_mem_drop (List.mem_of_mem_take hmem)
    · exact List.mem_of_mem_drop hmem
  obtain ⟨⟨id, record⟩, hentry, rfl⟩ := List.mem_map.1 (hpage hrow)
  exact ⟨record, (Table.mem_entries_iff db id record).1 (List.mem_filter.1 hentry).1, rfl⟩

namespace Store

variable {store : Store} {model : String} {view : Definition} {options : ViewOptions}
  {result : ViewResult}

/-- What a view gives was found by a scan of the database. -/
theorem runView_eq_ok (h : store.runView model view options = .ok result) :
    ∃ db, store.databases.get? model = some db ∧
      result = view.evaluate (db.entries.map fun entry => entry.2.shown entry.1) options := by
  rw [runView_eq] at h
  obtain ⟨docs, hdocs, h⟩ := bind_eq_ok_iff.1 h
  rw [documents_eq] at hdocs
  obtain ⟨db, hdb, hlist⟩ := bind_eq_ok_iff.1 hdocs
  cases h
  cases hlist
  exact ⟨db, database_eq_ok_iff.1 hdb, rfl⟩

/-- A view that was evaluated was evaluated over what the database holds. -/
theorem evaluateTransient_eq_ok (h : store.evaluateTransient model view options = .ok result) :
    ∃ db, store.databases.get? model = some db ∧
      result = view.evaluate (db.entries.map fun entry => entry.2.shown entry.1) options := by
  rw [evaluateTransient_eq] at h
  split at h
  · exact runView_eq_ok h
  · cases h

/-- A stored view that is invoked scans the database. -/
theorem invokeView_eq_ok {name : ViewName} (h : store.invokeView model name options = .ok result) :
    ∃ (view : Definition) (db : Database), store.databases.get? model = some db ∧
      result = view.evaluate (db.entries.map fun entry => entry.2.shown entry.1) options := by
  rw [invokeView_eq] at h
  obtain ⟨design, -, h⟩ := bind_eq_ok_iff.1 h
  obtain ⟨view, -, h⟩ := bind_eq_ok_iff.1 h
  exact ⟨view, runView_eq_ok h⟩

end Store

/-- Whatever plan was run, its rows show documents that the database holds, in the shape of a
    projection. -/
theorem Plan.rows_of_run {plan : Plan} {token : Nat → String} {store next : Store} {model : String}
    {options : ViewOptions} {result : ViewResult} (hwf : store.WellFormed)
    (h : (plan.run (Store.backend token) model options).runOn store = (.ok result, next))
    {row : Row} (hrow : row ∈ result.rows) :
    ∃ (record : Record) (projection : Projection), store.held? model row.id = some record ∧
      row.value = projection.apply (record.shown row.id) := by
  -- On every way the result is that of a scan of the database.
  obtain ⟨view, db, hdb, rfl⟩ : ∃ (view : Definition) (db : Database),
      store.databases.get? model = some db ∧
        result = view.evaluate (db.entries.map fun entry => entry.2.shown entry.1) options := by
    cases plan with
    | stored name =>
      rw [run, Store.runOn_answer, Store.step_invokeView, Store.reading] at h
      cases hinvoke : store.invokeView model name options with
      | error e =>
        rw [hinvoke] at h
        cases h
      | ok found =>
        rw [hinvoke] at h
        cases h
        exact Store.invokeView_eq_ok hinvoke
    | transient view =>
      cases hdb : store.databases.get? model with
      | none =>
        have herror := (run_without_database token store hdb view options).1
        rw [h] at herror
        cases herror
      | some db =>
        cases hviews : store.transientViews with
        | true =>
          rw [runOn_transient token store hdb hviews] at h
          cases h
          exact ⟨view, db, rfl, rfl⟩
        | false =>
          cases hdesign : db.get? (temporaryName (token store.issued)).designId with
          | none =>
            rw [runOn_stored token store hdb hviews hdesign] at h
            cases hread : view.predicate.reread with
            | error e =>
              rw [hread] at h
              cases h
            | ok predicate =>
              rw [hread] at h
              cases h
              exact ⟨⟨predicate, view.projection⟩, db, rfl, rfl⟩
          | some record =>
            rw [run_of_taken hdb hviews hdesign] at h
            cases h
  obtain ⟨record, hget, hvalue⟩ := view.rows_of_evaluate (hwf.database hdb) options hrow
  exact ⟨record, view.projection, (Store.held?_of_get? hdb _).trans hget, hvalue⟩

end DocStore
