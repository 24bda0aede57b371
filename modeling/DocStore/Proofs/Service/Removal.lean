/-
  Removals among other clients.

  A removal without a revision reads the document first and then removes it under the revision that
  it read.  The two requests are not one step: others may make any requests in between.
  `Backend.interleaved` is a backend on which they do, each time that a document was read.

  `remove_is_safe` says what comes of this.  If nobody wrote to the document in between, it is
  removed, and it is the one that was read.  If somebody did, nothing is removed, because the
  revision that was read is current no more, even where the document was removed and created again
  and its writes are counted from one again.  In either case nothing is tried twice.
-/
import DocStore.Proofs.Service.Opened
import DocStore.Proofs.Store.Interference
import DocStore.Proofs.Store.Watching
import DocStore.Proofs.Store.Writes

namespace DocStore

namespace Backend

variable {σ : Type}

/-- Makes requests one after another and goes on whatever comes of them. -/
def askAll {ε : Type} (backend : Backend σ) : List Request → Action σ ε Unit
  | [] => pure ()
  | request :: rest => do
      let _ ← (backend.answer request).attempt
      askAll backend rest

/-- The backend on which others make these requests each time that a document was read. -/
def interleaved (backend : Backend σ) (others : List Request) : Backend σ where
  answer
    | .getDocument database id => do
        let outcome ← (backend.answer (.getDocument database id)).attempt
        backend.askAll others
        .ofExcept outcome
    | request => backend.answer request
  token := backend.token

end Backend

namespace Store

variable {token : Nat → String} {store : Store}

/-- Whoever makes requests, the store answers them one after another. -/
theorem runOn_askAll {ε : Type} (token : Nat → String) (store : Store) (requests : List Request) :
    ((backend token).askAll requests : Action Store ε Unit).runOn store =
      (.ok (), (respondAll token [] store requests).2) := by
  induction requests generalizing store with
  | nil => rfl
  | cons request rest ih =>
    have hfirst : ((backend token).answer request).runOn store =
        ((((backend token).answer request).runOn store).1,
          (store.respond token request).2) := by
      rw [← answer_snd]
    rw [Backend.askAll, Action.runOn_bind_attempt _ hfirst, ih, respondAll_cons]

/-- A document is read as it was before the others went on. -/
theorem runOn_interleaved_get {name id : String} {record : Record}
    (hheld : store.held? name id = some record) (others : List Request) :
    (((backend token).interleaved others).answer (.getDocument name id)).runOn store =
      (.ok (record.shown id), (respondAll token [] store others).2) := by
  have hget : ((backend token).answer (.getDocument name id)).runOn store =
      (.ok (record.shown id), store) := by
    rw [runOn_getDocument, getDocument_eq_ok_iff.2 ⟨record, hheld, rfl⟩]
  refine (Action.runOn_bind_attempt _ hget).trans ?_
  exact Action.runOn_bind_ok _ (runOn_askAll token store others)

end Store

namespace Service

/-- A service over a store in memory that others use too: each time that it has read a document,
    they make these requests.  What is watched is what the service asks for itself. -/
def amongOthers (token : Nat → String) (others : List Request) (model : String)
    (paginate : Paginate) : Service (Traced Store) :=
  ⟨((Store.backend token).interleaved others).traced, model, paginate⟩

/-- What an opening asks for where the database is there. -/
def opening (model : String) (ready : Bool) : List Exchange :=
  if ready then [] else [⟨.databaseExists model, .ok true⟩]

variable {token : Nat → String} {others : List Request} {model id : String} {paginate : Paginate}
  {store : Store}

/-- Where the database is there, making sure of it is one request. -/
theorem runOn_ensureExists_present (hpresent : (store.databases.get? model).isSome) :
    (amongOthers token others model paginate).ensureExists.runOn ⟨⟨store, []⟩, false⟩ =
      (.ok (), ⟨⟨store, opening model false⟩, false⟩) := by
  have hask : ((amongOthers token others model paginate).ask (.databaseExists model)).runOn
      ⟨⟨store, []⟩, false⟩ = (.ok (store.databases.contains model),
        ⟨⟨store, [⟨.databaseExists model, .ok (store.databases.contains model)⟩]⟩, false⟩) := rfl
  have hcontains : store.databases.contains model = true := hpresent
  rw [hcontains] at hask
  exact Action.runOn_bind_ok _ hask

/-- Where the database is there, an opening changes nothing in the store. -/
theorem runOn_opened_present (hpresent : (store.databases.get? model).isSome) (ready : Bool) :
    (amongOthers token others model paginate).opened.runOn ⟨⟨store, []⟩, ready⟩ =
      (.ok (), ⟨⟨store, opening model ready⟩, true⟩) := by
  rw [opened, Action.runOn_bind_ok _ (Action.runOn_get _)]
  cases ready with
  | true => rfl
  | false =>
    show Action.runOn (_ >>= _) _ = _
    rw [Action.runOn_bind_ok _ (runOn_ensureExists_present hpresent)]
    rfl

/-- The service reads the document as it is, and the others go on. -/
theorem runOn_fetch_among {record : Record} (hheld : store.held? model id = some record)
    (made : List Exchange) :
    ((amongOthers token others model paginate).fetch id).runOn ⟨⟨store, made⟩, true⟩ =
      (.ok (record.shown id), ⟨⟨(Store.respondAll token [] store others).2,
        ⟨.getDocument model id, .ok (record.shown id)⟩ :: made⟩, true⟩) := by
  have hopened : (amongOthers token others model paginate).opened.runOn ⟨⟨store, made⟩, true⟩ =
      (.ok (), ⟨⟨store, made⟩, true⟩) := rfl
  rw [fetch, askOpened, Action.runOn_bind_ok _ hopened, ask, runOn_onStore]
  dsimp only [amongOthers]
  rw [Backend.runOn_traced, Store.runOn_interleaved_get hheld]

/-- A removal without a revision reads once and asks once for the removal of what it read. -/
theorem runOn_remove {record : Record} (hheld : store.held? model id = some record)
    (hwf : record.WellFormed) (ready : Bool) {removal : Except StoreError Receipt} {next : Store}
    (hremoval : ((Store.backend token).answer (.removeDocument model id record.revision)).runOn
      (Store.respondAll token [] store others).2 = (removal, next)) :
    ((amongOthers token others model paginate).remove id none).runOn ⟨⟨store, []⟩, ready⟩ =
      (removal.mapError ServiceError.ofStore,
        ⟨⟨next, ⟨.removeDocument model id record.revision, removal⟩ ::
          ⟨.getDocument model id, .ok (record.shown id)⟩ :: opening model ready⟩, true⟩) := by
  have hpresent : (store.databases.get? model).isSome := by
    obtain ⟨db, hdb, -⟩ := Option.bind_eq_some_iff.1 hheld
    rw [hdb]
    rfl
  have hrevision : (record.shown id).revision? = some record.revision :=
    Document.revision?_of_text (hwf.get?_shown_revision id)
  have hread : ((amongOthers token others model paginate).revisionFor id none).runOn
      ⟨⟨store, opening model ready⟩, true⟩ =
        (.ok record.revision, ⟨⟨(Store.respondAll token [] store others).2,
          ⟨.getDocument model id, .ok (record.shown id)⟩ :: opening model ready⟩, true⟩) := by
    rw [revisionFor]
    refine (Action.runOn_bind_ok _ (runOn_fetch_among hheld _)).trans ?_
    rw [hrevision]
    rfl
  rw [remove, reported, Action.runOn_mapError,
    Action.runOn_bind_ok _ (runOn_opened_present hpresent ready), Action.runOn_bind_ok _ hread,
    ask, runOn_onStore]
  -- The others go on behind a reading only.
  have hothers : ((Store.backend token).interleaved others).answer
      (.removeDocument model id record.revision) =
        (Store.backend token).answer (.removeDocument model id record.revision) := rfl
  dsimp only [amongOthers]
  rw [Backend.runOn_traced, hothers, hremoval]

end Service

/-- **Reading and then removing is safe among others.**  Take any state that a store in memory can
    be in, a document held in it, and any requests that others make between the reading and the
    removal, where no token is drawn twice.
    The service asks once for the document and once for the removal of what it read, and behind an
    opening for nothing else.
    If no write of the others was to the document, the one that was read is still there, and it is
    removed and nothing else.
    If some write of theirs was, nothing is changed, and the removal fails: with a conflict where a
    document stands in that place then, and as not found where none does. -/
theorem remove_is_safe {token : Nat → String} {past : List Exchange} {store : Store}
    (reached : Store.Reached token past store) {model id : String} {record : Record}
    (held : store.held? model id = some record) (others : List Request)
    (distinct : DrawsDistinct token (Store.respondAll token [] store others).2.issued)
    (paginate : Paginate) (ready : Bool) :
    let theirs := writes (Store.respondAll token [] store others).1
    let between := (Store.respondAll token [] store others).2
    let run := ((Service.amongOthers token others model paginate).remove id none).runOn
      ⟨⟨store, []⟩, ready⟩
    run.2.store.trace.map Exchange.request =
      (Service.opening model ready).map Exchange.request ++
        [.getDocument model id, .removeDocument model id record.revision] ∧
    (¬ Touched theirs model id →
      between.held? model id = some record ∧
      run.1 = .ok ⟨id, Store.revisionText (record.seq + 1) (token between.issued)⟩ ∧
      (∀ n i, run.2.store.store.held? n i =
        if n = model ∧ i = id then none else between.held? n i) ∧
      ∀ n, (run.2.store.store.databases.get? n).isSome = (between.databases.get? n).isSome) ∧
    (Touched theirs model id →
      run.2.store.store = between ∧
      run.1 = match between.held? model id with
        | some _ => .error (.conflict (StoreError.conflict id model).message)
        | none => .error (.notFound (StoreError.notFound id model).message)) := by
  intro theirs between run
  have hwf := reached.wellFormed model id record held
  rcases hremoval : ((Store.backend token).answer (.removeDocument model id record.revision)).runOn
    between with ⟨removal, next⟩
  have hrun : run = _ := Service.runOn_remove held hwf ready hremoval
  rw [hrun]
  refine ⟨?trace, ?untouched, ?touched⟩
  case trace =>
    cases ready <;> rfl
  case untouched =>
    intro huntouched
    have hbetween := (Store.held?_respondAll_of_untouched huntouched).trans held
    obtain ⟨left, hremove, hheld, hdatabases⟩ := Store.removeDocument_of_current token hbetween
    have hstep : (Store.respondAll token [] store others).2.step token
        (.removeDocument model id record.revision) = .ok (_, left) := hremove
    rw [Store.runOn_answer_ok hstep] at hremoval
    cases hremoval
    exact ⟨hbetween, rfl, hheld, hdatabases⟩
  case touched =>
    intro htouched
    cases hbetween : (Store.respondAll token [] store others).2.held? model id with
    | some current =>
      have hstale := Store.outdated_of_touched reached distinct htouched held hbetween
      have hstep : (Store.respondAll token [] store others).2.step token
          (.removeDocument model id record.revision) = .error (.conflict id model) :=
        Store.removeDocument_of_stale token hbetween hstale
      rw [Store.runOn_answer_error hstep] at hremoval
      cases hremoval
      exact ⟨rfl, rfl⟩
    | none =>
      -- The others may have removed the document, but not its database.
      obtain ⟨db, hdb, -⟩ := Option.bind_eq_some_iff.1 held
      obtain ⟨db', hdb'⟩ := Option.isSome_iff_exists.1
        (Store.keepsDatabases_respondAll token store others model (by rw [hdb]; rfl))
      have hstep : (Store.respondAll token [] store others).2.step token
          (.removeDocument model id record.revision) = .error (.notFound id model) :=
        Store.removeDocument_of_missing token hdb' hbetween _
      rw [Store.runOn_answer_error hstep] at hremoval
      cases hremoval
      exact ⟨rfl, rfl⟩

/-- The history and the store of a document that was created. -/
def createdOnce : List Exchange × Store :=
  Store.respondAll Store.countedToken [] (Store.empty true)
    [.createDatabase "notes", .saveDocument "notes" (some "a") []]

/-- The requests of others who remove the document and create it again. -/
def recreation : List Request :=
  [.removeDocument "notes" "a" (Store.revisionText 1 (Store.countedToken 1)),
    .saveDocument "notes" (some "a") []]

/-- The document that was created again has the number of the one that was read, and is kept. -/
theorem recreated_in_between_is_kept :
    Store.Reached Store.countedToken createdOnce.1 createdOnce.2 ∧
    createdOnce.2.held? "notes" "a" =
      some ⟨1, Store.revisionText 1 (Store.countedToken 1), []⟩ ∧
    DrawsDistinct Store.countedToken
      (Store.respondAll Store.countedToken [] createdOnce.2 recreation).2.issued ∧
    Touched (writes (Store.respondAll Store.countedToken [] createdOnce.2 recreation).1)
      "notes" "a" ∧
    (((Service.amongOthers Store.countedToken recreation "notes" {}).remove "a" none).runOn
        ⟨⟨createdOnce.2, []⟩, false⟩).1 =
      .error (.conflict "Document update conflict on a in database notes") := by
  have reached : Store.Reached Store.countedToken createdOnce.1 createdOnce.2 :=
    (Store.Reached.empty true).respondAll _
  have held : createdOnce.2.held? "notes" "a" =
      some ⟨1, Store.revisionText 1 (Store.countedToken 1), []⟩ := rfl
  have distinct : DrawsDistinct Store.countedToken
      (Store.respondAll Store.countedToken [] createdOnce.2 recreation).2.issued := by decide
  have touched : Touched
      (writes (Store.respondAll Store.countedToken [] createdOnce.2 recreation).1)
      "notes" "a" := by decide
  obtain ⟨-, -, fails⟩ := remove_is_safe reached held recreation distinct {} false
  refine ⟨reached, held, distinct, touched, (fails touched).2.trans ?_⟩
  rfl

end DocStore
