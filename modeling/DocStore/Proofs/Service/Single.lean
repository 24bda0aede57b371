/-
  Single documents through a service.

  What a service does to a single document is one request behind an opening and, for changes, a
  reading behind that (`writeAndGet`).  A removal without a revision reads first.  The lemmas below
  turn a step of the settled store into a run of the operation.
-/
import DocStore.Proofs.Service.Opened
import DocStore.Proofs.Store.Writes

namespace DocStore

namespace Service

variable {token : Nat → String} {model : String} {paginate : Paginate} {handle : Handle Store}
  {id : String}

/-- A request that is answered leaves the store that the answer says, in an open handle. -/
theorem runOn_askOpened_ok {request : Request} {answer : request.Answer} {next : Store}
    (h : (handle.settled model).store.step token request = .ok (answer, next)) :
    ((overMemory token model paginate).askOpened request).runOn handle =
      (.ok answer, ⟨next, true⟩) := by
  rw [askOpened, Action.runOn_bind_ok _ (runOn_opened handle), runOn_ask, h]
  rfl

/-- One that fails leaves what the opening has left. -/
theorem runOn_askOpened_error {request : Request} {e : StoreError}
    (h : (handle.settled model).store.step token request = .error e) :
    ((overMemory token model paginate).askOpened request).runOn handle =
      (.error e, handle.settled model) := by
  rw [askOpened, Action.runOn_bind_ok _ (runOn_opened handle), runOn_ask, h]

/-- What is held is shown. -/
theorem runOn_fetch {record : Record} (hheld : handle.store.held? model id = some record) :
    ((overMemory token model paginate).fetch id).runOn handle =
      (.ok (record.shown id), handle.settled model) := by
  have hget : (handle.settled model).store.getDocument model id = .ok (record.shown id) :=
    Store.getDocument_eq_ok_iff.2 ⟨record, (held?_settled handle model model id).trans hheld, rfl⟩
  have hstep : (handle.settled model).store.step token (.getDocument model id) =
      .ok (record.shown id, (handle.settled model).store) := by
    rw [Store.step_getDocument, hget]
    rfl
  exact runOn_askOpened_ok hstep

/-- A get of what is held shows it in public form. -/
theorem runOn_get {record : Record} (hheld : handle.store.held? model id = some record) :
    ((overMemory token model paginate).get id).runOn handle =
      (.ok (record.shown id).toPublic, handle.settled model) := by
  have hfetch : (reported ((overMemory token model paginate).fetch id)).runOn handle =
      (.ok (record.shown id), handle.settled model) := by
    rw [reported, Action.runOn_mapError, runOn_fetch hheld]
    rfl
  exact Action.runOn_bind_ok _ hfetch

/-- What is not held cannot be read. -/
theorem runOn_fetch_absent {db : Database}
    (hdb : (handle.settled model).store.databases.get? model = some db)
    (hheld : handle.store.held? model id = none) :
    ((overMemory token model paginate).fetch id).runOn handle =
      (.error (.notFound id model), handle.settled model) := by
  have hget := Store.getDocument_of_absent hdb ((held?_settled handle model model id).trans hheld)
  have hstep : (handle.settled model).store.step token (.getDocument model id) =
      .error (.notFound id model) := by
    rw [Store.step_getDocument, hget]
    rfl
  exact runOn_askOpened_error hstep

/-- A get of anything else reports what is missing, and where. -/
theorem runOn_get_absent {db : Database}
    (hdb : (handle.settled model).store.databases.get? model = some db)
    (hheld : handle.store.held? model id = none) :
    ((overMemory token model paginate).get id).runOn handle =
      (.error (.notFound (StoreError.notFound id model).message), handle.settled model) := by
  refine Action.runOn_bind_error _ ?_
  rw [reported, Action.runOn_mapError, runOn_fetch_absent hdb hheld]
  rfl

/-- A write behind which a document is read. -/
def writeAndGet {σ : Type} (service : Service σ) (request : Request) (id : String) :
    Operation σ Document := do
  let _ ← reported (service.askOpened request)
  service.get id

/-- Behind a write that succeeds, what it left is shown. -/
theorem runOn_writeAndGet {request : Request} {answer : request.Answer} {next : Store}
    {record : Record}
    (hstep : (handle.settled model).store.step token request = .ok (answer, next))
    (hheld : next.held? model id = some record) :
    ((overMemory token model paginate).writeAndGet request id).runOn handle =
      (.ok (record.shown id).toPublic, ⟨next, true⟩) := by
  have hwrite : (reported ((overMemory token model paginate).askOpened request)).runOn handle =
      (.ok answer, ⟨next, true⟩) := by
    rw [reported, Action.runOn_mapError, runOn_askOpened_ok hstep]
    rfl
  -- Behind the write the handle is settled already.
  exact (Action.runOn_bind_ok _ hwrite).trans (runOn_get hheld)

/-- A write that fails is the end of it. -/
theorem runOn_writeAndGet_error {request : Request} {e : StoreError}
    (hstep : (handle.settled model).store.step token request = .error e) :
    ((overMemory token model paginate).writeAndGet request id).runOn handle =
      (.error (ServiceError.ofStore e), handle.settled model) := by
  refine Action.runOn_bind_error _ ?_
  rw [reported, Action.runOn_mapError, runOn_askOpened_error hstep]
  rfl

/-- A patch is a merge behind which the document is read. -/
theorem patch_eq {σ : Type} (service : Service σ) (id : String) (data : Document) :
    service.patch id data =
      service.writeAndGet (.mergeDocument service.model id (patchFields data)) id := rfl

/-- Where nothing is held, a patch has nothing to write over. -/
theorem runOn_patch_absent {db : Database}
    (hdb : (handle.settled model).store.databases.get? model = some db)
    (hheld : handle.store.held? model id = none) (data : Document) :
    ((overMemory token model paginate).patch id data).runOn handle =
      (.error (.notFound (StoreError.notFound id model).message), handle.settled model) := by
  have hmerge := Store.mergeDocument_of_absent token hdb
    ((held?_settled handle model model id).trans hheld) (patchFields data)
  have hstep : (handle.settled model).store.step token
      (.mergeDocument model id (patchFields data)) = .error (.notFound id model) := hmerge
  rw [patch_eq]
  exact runOn_writeAndGet_error hstep

/-! ## Removals -/

/-- A removal without a revision removes what it reads. -/
theorem runOn_remove_held {record : Record} (hheld : handle.store.held? model id = some record)
    (hwf : record.WellFormed) :
    ∃ next, ((overMemory token model paginate).remove id none).runOn handle =
        (.ok ⟨id, Store.revisionText (record.seq + 1) (token handle.store.issued)⟩, next) ∧
      ∀ n i, next.store.held? n i =
        if n = model ∧ i = id then none else handle.store.held? n i := by
  have hsettled := (held?_settled handle model model id).trans hheld
  have hread : ((overMemory token model paginate).revisionFor id none).runOn
      (handle.settled model) = (.ok record.revision, handle.settled model) := by
    have hrevision : (record.shown id).revision? = some record.revision :=
      Document.revision?_of_text (hwf.get?_shown_revision id)
    refine (Action.runOn_bind_ok _ (runOn_fetch hsettled)).trans ?_
    rw [hrevision]
    rfl
  -- The revision was read just now, so it is the current one.
  obtain ⟨next, hremove, hnext, -⟩ := Store.removeDocument_of_current token hsettled
  rw [Handle.settled_issued] at hremove
  have hask : ((overMemory token model paginate).ask
      (.removeDocument model id record.revision)).runOn (handle.settled model) =
        (.ok ⟨id, Store.revisionText (record.seq + 1) (token handle.store.issued)⟩,
          ⟨next, true⟩) := by
    rw [runOn_ask, Store.step_removeDocument, hremove]
    rfl
  refine ⟨⟨next, true⟩, ?_, fun n i => ?_⟩
  · rw [remove, reported, Action.runOn_mapError, Action.runOn_bind_ok _ (runOn_opened handle),
      Action.runOn_bind_ok _ hread]
    dsimp only [overMemory] at hask ⊢
    rw [hask]
    rfl
  · rw [hnext, held?_settled]

/-- Where nothing is held, a removal has nothing to read. -/
theorem runOn_remove_absent {db : Database}
    (hdb : (handle.settled model).store.databases.get? model = some db)
    (hheld : handle.store.held? model id = none) :
    ((overMemory token model paginate).remove id none).runOn handle =
      (.error (.notFound (StoreError.notFound id model).message), handle.settled model) := by
  have hsettled := (held?_settled handle model model id).trans hheld
  have hread : ((overMemory token model paginate).revisionFor id none).runOn
      (handle.settled model) = (.error (.notFound id model), handle.settled model) :=
    Action.runOn_bind_error _ (runOn_fetch_absent hdb hsettled)
  rw [remove, reported, Action.runOn_mapError, Action.runOn_bind_ok _ (runOn_opened handle),
    Action.runOn_bind_error _ hread]
  rfl

end Service

end DocStore
