/-
  What single writes leave.

  A merge needs something to write over; a save and a removal that name a revision need it to be
  the one of what is held; a save that names none needs its place to be free.  For each of them
  there is a statement here of what it leaves where it succeeds, place by place, and one for each
  way in which it fails.
-/
import DocStore.Proofs.Store.History

namespace DocStore

/-- What does not succeed fails. -/
theorem exists_error_of_not_ok {ε α : Type} {x : Except ε α} (h : ¬ ∃ a, x = .ok a) :
    ∃ e, x = .error e := by
  cases x with
  | error e => exact ⟨e, rfl⟩
  | ok a => exact absurd ⟨a, rfl⟩ h

namespace Store

variable {token : Nat → String} {store : Store} {name id : String} {current : Record}

/-- A merge into what is held writes the changes over it. -/
theorem mergeDocument_of_held (token : Nat → String) (hheld : store.held? name id = some current)
    (changes : Document) :
    ∃ receipt next, store.mergeDocument token name id changes = .ok (receipt, next) ∧
      ∀ n i, next.held? n i =
        if n = name ∧ i = id then
          some ⟨current.seq + 1, revisionText (current.seq + 1) (token store.issued),
            current.body.overlay (writable changes)⟩
        else store.held? n i := by
  obtain ⟨db, hdb, hcurrent⟩ := Option.bind_eq_some_iff.1 hheld
  refine ⟨_, _, mergeDocument_eq_ok_iff.2 ⟨db, current, hdb, hcurrent, rfl⟩, ?_⟩
  exact held?_insert_place hdb fun i => Table.get?_insert db id i _

/-- Where nothing is held, nothing can be merged. -/
theorem mergeDocument_of_missing (token : Nat → String) (hheld : store.held? name id = none)
    (changes : Document) : ∃ e, store.mergeDocument token name id changes = .error e := by
  refine exists_error_of_not_ok ?_
  rintro ⟨result, hresult⟩
  obtain ⟨db, current, hdb, hcurrent, -⟩ := mergeDocument_eq_ok_iff.1 hresult
  rw [held?_of_get? hdb, hcurrent] at hheld
  cases hheld

/-- In a database that is there, the error is that of a missing document. -/
theorem mergeDocument_of_absent (token : Nat → String) {db : Database}
    (hdb : store.databases.get? name = some db) (hheld : store.held? name id = none)
    (changes : Document) :
    store.mergeDocument token name id changes = .error (.notFound id name) := by
  rw [held?_of_get? hdb] at hheld
  rw [mergeDocument_eq, database_eq_ok_iff.2 hdb]
  show (Store.record db name id >>= fun current => _) = _
  rw [Store.record, hheld]
  rfl

/-- What is not held is not shown. -/
theorem getDocument_of_absent {db : Database} (hdb : store.databases.get? name = some db)
    (hheld : store.held? name id = none) :
    store.getDocument name id = .error (.notFound id name) := by
  rw [held?_of_get? hdb] at hheld
  rw [getDocument_eq, database_eq_ok_iff.2 hdb]
  show (Store.record db name id >>= fun record => _) = _
  rw [Store.record, hheld]
  rfl

/-- Where there is no design document, there is no view to invoke. -/
theorem invokeView_of_absent {db : Database} (hdb : store.databases.get? name = some db)
    {view : ViewName} (hheld : store.held? name view.designId = none) (options : ViewOptions) :
    store.invokeView name view options = .error (.notFound view.designId name) := by
  rw [invokeView_eq, getDocument_of_absent hdb hheld]
  rfl

/-- A save that names no revision files a new document where nothing is held. -/
theorem saveDocument_of_free (token : Nat → String) (store : Store) {db : Database}
    (hdb : store.databases.get? name = some db) {id : Option String}
    (hfree : db.get? (store.assigned token id) = none) {body : Document}
    (hbody : body.get? Field.revision = none) :
    store.saveDocument token name id body =
      .ok (store.write db name (store.assigned token id)
        ⟨1, revisionText 1 (token (store.issued + 1)), stripped body⟩ 2) := by
  have hnamed : namedRevision body = .ok none := by rw [namedRevision, hbody]
  have hseq : nextSeq (db.get? (store.assigned token id)) none = some 1 := by
    rw [hfree]
    rfl
  exact saveDocument_eq_ok_iff.2 ⟨none, db, 1, hnamed, hdb, hseq, rfl⟩

/-- A save that names no revision is a conflict where something is held. -/
theorem saveDocument_of_taken (token : Nat → String) (store : Store) {db : Database}
    (hdb : store.databases.get? name = some db) {id : Option String} {record : Record}
    (htaken : db.get? (store.assigned token id) = some record) {body : Document}
    (hbody : body.get? Field.revision = none) :
    store.saveDocument token name id body =
      .error (.conflict (store.assigned token id) name) := by
  have hnamed : namedRevision body = .ok none := by rw [namedRevision, hbody]
  have hseq : nextSeq (db.get? (id.getD (token store.issued))) none = none := by
    rw [← assigned, htaken]
    rfl
  rw [saveDocument_eq, hnamed, database_eq_ok_iff.2 hdb]
  dsimp only [bind, Except.bind]
  rw [hseq]
  rfl

/-- A view is not stored where a document stands already. -/
theorem createView_of_taken (token : Nat → String) (store : Store) {db : Database}
    (hdb : store.databases.get? name = some db) {view : ViewName} {record : Record}
    (htaken : db.get? view.designId = some record) (definition : Definition) :
    store.createView token name view definition = .error (.conflict view.designId name) := by
  have hassigned : db.get? (store.assigned token (some view.designId)) = some record := htaken
  exact saveDocument_of_taken token store hdb hassigned rfl

/-- A save that names the revision of what is held replaces it. -/
theorem saveDocument_of_current (token : Nat → String) (hheld : store.held? name id = some current)
    {body : Document} (hbody : body.get? Field.revision = some (.string current.revision)) :
    ∃ receipt next, store.saveDocument token name (some id) body = .ok (receipt, next) ∧
      ∀ n i, next.held? n i =
        if n = name ∧ i = id then
          some ⟨current.seq + 1, revisionText (current.seq + 1) (token (store.issued + 1)),
            stripped body⟩
        else store.held? n i := by
  obtain ⟨db, hdb, hcurrent⟩ := Option.bind_eq_some_iff.1 hheld
  have hnamed : namedRevision body = .ok (some current.revision) := by
    rw [namedRevision, hbody]
  refine ⟨_, _, saveDocument_eq_ok_iff.2 ⟨_, db, current.seq + 1, hnamed, hdb,
    nextSeq_some_iff.2 ⟨current, hcurrent, rfl, rfl⟩, rfl⟩, ?_⟩
  exact held?_insert_place hdb fun i => Table.get?_insert db id i _

/-- A removal that names the revision of what is held drops it. -/
theorem removeDocument_of_current (token : Nat → String)
    (hheld : store.held? name id = some current) :
    ∃ next, store.removeDocument token name id current.revision =
        .ok (⟨id, revisionText (current.seq + 1) (token store.issued)⟩, next) ∧
      (∀ n i, next.held? n i = if n = name ∧ i = id then none else store.held? n i) ∧
      ∀ n, (next.databases.get? n).isSome = (store.databases.get? n).isSome := by
  obtain ⟨db, hdb, hcurrent⟩ := Option.bind_eq_some_iff.1 hheld
  refine ⟨_, removeDocument_eq_ok_iff.2 ⟨db, current, hdb, hcurrent, rfl, rfl⟩, ?_, fun n => ?_⟩
  · exact held?_insert_place hdb fun i => Table.get?_erase db id i
  · dsimp only
    rw [Table.get?_insert]
    split
    · rename_i hn
      rw [hn, hdb]
      rfl
    · rfl

/-- A removal that names any other revision is a conflict. -/
theorem removeDocument_of_stale (token : Nat → String)
    (hheld : store.held? name id = some current) {revision : String}
    (hstale : current.revision ≠ revision) :
    store.removeDocument token name id revision = .error (.conflict id name) := by
  obtain ⟨db, hdb, hcurrent⟩ := Option.bind_eq_some_iff.1 hheld
  rw [removeDocument_eq, database_eq_ok_iff.2 hdb]
  show (Store.record db name id >>= fun current => if current.revision = revision then _ else _) = _
  rw [record_eq_ok_iff.2 hcurrent]
  exact if_neg hstale

/-- What is not held cannot be removed. -/
theorem removeDocument_of_missing (token : Nat → String) {db : Database}
    (hdb : store.databases.get? name = some db) (hheld : store.held? name id = none)
    (revision : String) :
    store.removeDocument token name id revision = .error (.notFound id name) := by
  rw [held?_of_get? hdb] at hheld
  rw [removeDocument_eq, database_eq_ok_iff.2 hdb]
  show (Store.record db name id >>= fun current => if current.revision = revision then _ else _) = _
  rw [Store.record, hheld]
  rfl

/-- A save that names any other revision fails. -/
theorem saveDocument_of_stale (token : Nat → String) {body : Document} {revision : String}
    (hbody : body.get? Field.revision = some (.string revision))
    (hstale : ∀ record, store.held? name id = some record → record.revision ≠ revision) :
    ∃ e, store.saveDocument token name (some id) body = .error e := by
  refine exists_error_of_not_ok fun hsave => ?_
  obtain ⟨record, hheld, hrev⟩ := (saveDocument_succeeds_iff hbody).1 hsave
  exact hstale record hheld hrev

end Store

end DocStore
