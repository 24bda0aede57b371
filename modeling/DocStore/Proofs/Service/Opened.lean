/-
  A service over a store in memory, and the states that it can be in.

  Opening never fails over such a store: what could go wrong is that the database is there already,
  and that counts as success.  `runOn_opened` says what it does; `Handle.settled` is the handle
  behind it.

  Whatever opening, drawing tokens and requests of services keep (`Service.Stable`), every operation
  keeps (`Service.Stable.next`).

  `Service.Reached` is what the handle of a service can be after any requests, of this service and
  of others.  It is stable, so all operations lead from such a handle to such a handle
  (`Service.Reached.next`).  Two facts hold of all of them: the store has a history, and a service
  that believes that its database exists is right.
-/
import DocStore.Proofs.Service.Calls
import DocStore.Proofs.Store.History

namespace DocStore

/-- The store with a database under this name, an empty one if there was none. -/
def Store.ensured (store : Store) (name : String) : Store :=
  match store.databases.get? name with
  | some _ => store
  | none => { store with databases := store.databases.insert name Table.empty }

/-- The handle behind an opening. -/
def Handle.settled (handle : Handle Store) (model : String) : Handle Store :=
  ⟨if handle.ready then handle.store else handle.store.ensured model, true⟩

/-- Opening has nothing to do with views. -/
theorem Handle.settled_transientViews (handle : Handle Store) (model : String) :
    (handle.settled model).store.transientViews = handle.store.transientViews := by
  rw [settled, Store.ensured]
  cases handle.ready <;> cases handle.store.databases.get? model <;> rfl

/-- No token is drawn for it. -/
theorem Handle.settled_issued (handle : Handle Store) (model : String) :
    (handle.settled model).store.issued = handle.store.issued := by
  rw [settled, Store.ensured]
  cases handle.ready <;> cases handle.store.databases.get? model <;> rfl

namespace Store

/-- Asking for a database makes sure of it, also where the request fails. -/
theorem respond_createDatabase (token : Nat → String) (store : Store) (name : String) :
    (store.respond token (.createDatabase name)).2 = store.ensured name := by
  have contains : store.databases.contains name = (store.databases.get? name).isSome := rfl
  rw [respond_eq, step_createDatabase, createDatabase_eq, contains, ensured]
  cases store.databases.get? name <;> rfl

/-- A database that is missing is there afterwards, and empty. -/
theorem get?_ensured (store : Store) (name : String) :
    (store.ensured name).databases.get? name =
      some ((store.databases.get? name).getD Table.empty) := by
  rw [ensured]
  cases hdb : store.databases.get? name with
  | some db => exact hdb
  | none => exact Table.get?_insert_self _ _ _

/-- An empty database holds nothing, so nothing is held that was not. -/
theorem held?_ensured (store : Store) (name n i : String) :
    (store.ensured name).held? n i = store.held? n i := by
  rw [ensured]
  cases hdb : store.databases.get? name with
  | some db => rfl
  | none => exact (createDatabase_quiet (createDatabase_eq_ok_iff.2 ⟨hdb, rfl⟩)).2.2 n i

/-- What a backend does to the store when it is asked. -/
theorem answer_snd (token : Nat → String) (store : Store) (request : Request) :
    (((backend token).answer request).runOn store).2 = (store.respond token request).2 := rfl

end Store

/-- If the service believes that its database exists, it is right. -/
def Handle.Truthful (handle : Handle Store) (model : String) : Prop :=
  handle.ready = true → (handle.store.databases.get? model).isSome

/-- Then the database is there behind an opening, with the documents that it had. -/
theorem Handle.get?_settled {handle : Handle Store} {model : String}
    (h : handle.Truthful model) :
    (handle.settled model).store.databases.get? model =
      some ((handle.store.databases.get? model).getD Table.empty) := by
  show (if handle.ready then handle.store
    else handle.store.ensured model).databases.get? model = _
  split
  · rename_i hready
    obtain ⟨db, hdb⟩ := Option.isSome_iff_exists.1 (h hready)
    rw [hdb, Option.getD_some]
  · exact Store.get?_ensured _ _

/-- After opening, what the service believes is true. -/
theorem Handle.Truthful.settled {handle : Handle Store} {model : String}
    (h : handle.Truthful model) : (handle.settled model).Truthful model := by
  intro _
  rw [Handle.get?_settled h]
  rfl

namespace Service

/-- A service over a store in memory. -/
def overMemory (token : Nat → String) (model : String) (paginate : Paginate) : Service Store :=
  ⟨Store.backend token, model, paginate⟩

variable {token : Nat → String} {model : String} {paginate : Paginate}

/-! ## Opening -/

/-- Asking is a step of the store. -/
theorem runOn_ask (handle : Handle Store) (request : Request) :
    ((overMemory token model paginate).ask request).runOn handle =
      match handle.store.step token request with
      | .ok (answer, next) => (.ok answer, ⟨next, handle.ready⟩)
      | .error e => (.error e, handle) := by
  rw [ask, runOn_onStore, overMemory, Store.runOn_answer]
  cases handle.store.step token request <;> rfl

/-- Making sure of the database never fails. -/
theorem runOn_ensureExists (handle : Handle Store) :
    (overMemory token model paginate).ensureExists.runOn handle =
      (.ok (), ⟨handle.store.ensured model, handle.ready⟩) := by
  have hexists : ((overMemory token model paginate).ask (.databaseExists model)).runOn handle =
      (.ok (handle.store.databases.get? model).isSome, handle) := rfl
  rw [ensureExists]
  refine (Action.runOn_bind_ok _ hexists).trans ?_
  rw [Store.ensured]
  cases hdb : handle.store.databases.get? model with
  | some db => rfl
  | none =>
    -- The database is asked for only where there is none, so the request cannot fail.
    have hcreate : ((overMemory token model paginate).ask (.createDatabase model)).runOn handle =
        (.ok (), ⟨{ handle.store with
          databases := handle.store.databases.insert model Table.empty }, handle.ready⟩) := by
      have hstep : handle.store.step token (.createDatabase model) = .ok ((), _) :=
        Store.createDatabase_eq_ok_iff.2 ⟨hdb, rfl⟩
      rw [runOn_ask, hstep]
    exact (Action.runOn_bind_attempt _ hcreate).trans rfl

/-- Opening never fails, and settles the handle. -/
theorem runOn_opened (handle : Handle Store) :
    (overMemory token model paginate).opened.runOn handle = (.ok (), handle.settled model) := by
  rw [Handle.settled]
  cases hready : handle.ready with
  | true =>
    rw [runOn_opened_ready _ hready]
    obtain ⟨store, ready⟩ := handle
    cases hready
    rfl
  | false =>
    rw [runOn_opened_unready _ hready, runOn_ensureExists]
    rfl

/-- Opening changes nothing about what is held. -/
theorem held?_settled (handle : Handle Store) (model n i : String) :
    (handle.settled model).store.held? n i = handle.store.held? n i := by
  show Store.held? (if handle.ready then handle.store else handle.store.ensured model) n i = _
  split
  · rfl
  · exact handle.store.held?_ensured model n i

theorem wellFormed_settled {handle : Handle Store} (h : handle.store.WellFormed) (model : String) :
    (handle.settled model).store.WellFormed := by
  intro name id record hheld
  rw [held?_settled] at hheld
  exact h name id record hheld

/-! ## The states of a service -/

/-- What the handle of a service over a store in memory can be, whatever was asked of the store
    before the service was built and since, by this service or by others. -/
inductive Reached (token : Nat → String) (model : String) : Handle Store → Prop
  | built {past store} (h : Store.Reached token past store) : Reached token model ⟨store, false⟩
  | asked {handle} (h : Reached token model handle) (request : Request) :
      Reached token model ⟨(handle.store.respond token request).2, handle.ready⟩
  | drew {handle} (h : Reached token model handle) :
      Reached token model ⟨handle.store.afterDraw, handle.ready⟩
  | opened {handle} (h : Reached token model handle) :
      Reached token model (handle.settled model)

/-- Behind every reached handle stands a history of requests. -/
theorem Reached.history {handle : Handle Store} (h : Reached token model handle) :
    ∃ past, Store.Reached token past handle.store := by
  induction h with
  | built h => exact ⟨_, h⟩
  | asked _ request ih =>
    obtain ⟨past, hpast⟩ := ih
    exact ⟨_, hpast.asked request⟩
  | drew _ ih =>
    obtain ⟨past, hpast⟩ := ih
    exact ⟨past, hpast.drew⟩
  | @opened handle _ ih =>
    obtain ⟨past, hpast⟩ := ih
    show ∃ past, Store.Reached token past
      (if handle.ready then handle.store else handle.store.ensured model)
    split
    · exact ⟨past, hpast⟩
    · -- What an opening does to the store is what one request does.
      rw [← Store.respond_createDatabase token]
      exact ⟨_, hpast.asked _⟩

theorem Reached.wellFormed {handle : Handle Store} (h : Reached token model handle) :
    handle.store.WellFormed := by
  obtain ⟨past, hpast⟩ := h.history
  exact hpast.wellFormed

/-- A service that believes that its database exists is right. -/
theorem Reached.database {handle : Handle Store} (h : Reached token model handle) :
    handle.Truthful model := by
  induction h with
  | built _ => exact fun hready => nomatch hready
  | asked _ request ih =>
    exact fun hready => Store.keepsDatabases_respond token _ request model (ih hready)
  | drew _ ih => exact ih
  | opened _ ih => exact ih.settled

/-- So behind an opening the database is there, with the documents that it had. -/
theorem Reached.get?_settled {handle : Handle Store} (h : Reached token model handle) :
    (handle.settled model).store.databases.get? model =
      some ((handle.store.databases.get? model).getD Table.empty) :=
  Handle.get?_settled h.database

/-! ## What operations keep -/

/-- What opening, drawing a token and every request of a service keep. -/
structure Stable (token : Nat → String) (model : String) (inv : Handle Store → Prop) : Prop where
  opened : ∀ handle, inv handle → inv (handle.settled model)
  drew : ∀ handle, inv handle → inv ⟨handle.store.afterDraw, handle.ready⟩
  asked : ∀ handle, inv handle → ∀ request : Request, request.Bare →
    inv ⟨(handle.store.respond token request).2, handle.ready⟩

/-- Operations lead from reached handles to reached handles. -/
theorem stable_reached : Stable token model (Reached token model) where
  opened _ h := h.opened
  drew _ h := h.drew
  asked _ h request _ := h.asked request

/-- They never make a service believe in a database that is not there. -/
theorem stable_truthful : Stable token model fun handle => handle.Truthful model where
  opened _ h := h.settled
  drew _ h := h
  asked _ h request _ hready := Store.keepsDatabases_respond token _ request model (h hready)

/-- No database goes away. -/
theorem stable_database (name : String) :
    Stable token model fun handle => (handle.store.databases.get? name).isSome where
  opened handle h := by
    show ((if handle.ready then handle.store
      else handle.store.ensured model).databases.get? name).isSome
    split
    · exact h
    · rw [← Store.respond_createDatabase token]
      exact Store.keepsDatabases_respond token _ _ name h
  drew _ h := h
  asked _ h request _ := Store.keepsDatabases_respond token _ request name h

theorem stable_wellFormed : Stable token model fun handle => handle.store.WellFormed where
  opened _ h := wellFormed_settled h model
  drew _ h := h
  asked _ h request _ := h.respond request

end Service

/-- What is stable, every operation of the service keeps. -/
theorem Service.Stable.next {token : Nat → String} {model : String} {inv : Handle Store → Prop}
    (stable : Service.Stable token model inv) {handle : Handle Store} (h : inv handle)
    (paginate : Paginate) (call : Call) :
    inv (call.next (Service.overMemory token model paginate) handle) := by
  have opened : Action.Keeps inv (overMemory token model paginate).opened := by
    intro handle h
    rw [runOn_opened]
    exact stable.opened handle h
  have asked : ∀ request : Request, request.Proper model →
      Action.Keeps inv ((overMemory token model paginate).ask request) := by
    intro request proper handle h
    have hasked := stable.asked handle h request proper.bare
    rwa [← Store.answer_snd] at hasked
  rw [← Call.snd_runOn_run]
  exact call.keeps opened asked (fun handle h => stable.drew handle h) handle h

/-- Every operation of the service leads from what its handle can be to what it can be. -/
theorem Service.Reached.next {token : Nat → String} {model : String} {handle : Handle Store}
    (h : Service.Reached token model handle) (paginate : Paginate) (call : Call) :
    Service.Reached token model (call.next (Service.overMemory token model paginate) handle) :=
  stable_reached.next h paginate call

end DocStore
