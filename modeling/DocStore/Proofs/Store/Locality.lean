/-
  Requests are atomic and local.

  The operations act on a store in place, so a request that fails could leave it changed.  None
  does: every exit of every operation comes before its first change (`Memory.atomic_answer`), and
  the exits are known (`Store.Exit`).  A request that is answered changed no more than its kind
  allows:
  requests that read change nothing, a new database is all that its creation adds, and a write
  changes one place in one database, which is named by the receipt that the writer gets.
  `requests_are_atomic_and_local` says so for every request to every store, whatever the store
  holds and wherever the request comes from.

  As a request that fails leaves nothing behind, it may as well not be made
  (`Store.respondAll_answered`): without those of a row that fail, the others are answered as they
  were and lead to the same store.
-/
import DocStore.Proofs.Store.Exits
import DocStore.Proofs.Store.Interference

namespace DocStore

namespace Store

variable {token : Nat → String} {store next : Store} {name id : String}

/-- Nothing but what is held in one place of a database has changed. -/
structure ChangesOnly (store : Store) (name id : String) (next : Store) : Prop where
  database : ∃ db db', store.databases.get? name = some db ∧
    next.databases.get? name = some db' ∧ ∀ i, i ≠ id → db'.get? i = db.get? i
  others : ∀ n, n ≠ name → next.databases.get? n = store.databases.get? n
  transientViews : next.transientViews = store.transientViews

/-- A write left a document under the identifier and the revision that its receipt names. -/
def Left (store : Store) (name : String) (receipt : Receipt) : Prop :=
  (store.held? name receipt.id).map Record.revision = some receipt.revision

end Store

/-- What a request that is answered does to the store. -/
def Request.Does : (request : Request) → request.Answer → Store → Store → Prop
  | .createDatabase name, _, store, next =>
      store.databases.get? name = none ∧
        next = { store with databases := store.databases.insert name Table.empty }
  | .saveDocument name given _, receipt, store, next =>
      (∀ id, given = some id → receipt.id = id) ∧ store.ChangesOnly name receipt.id next ∧
        next.Left name receipt
  | .mergeDocument name id _, receipt, store, next =>
      receipt.id = id ∧ store.ChangesOnly name receipt.id next ∧ next.Left name receipt
  | .removeDocument name id _, receipt, store, next =>
      receipt.id = id ∧ store.ChangesOnly name receipt.id next ∧
        next.held? name receipt.id = none
  | .createView name view _, receipt, store, next =>
      receipt.id = view.designId ∧ store.ChangesOnly name receipt.id next ∧
        next.Left name receipt
  | .databaseExists _, _, store, next => next = store
  | .getDocument _ _, _, store, next => next = store
  | .evaluateTransient _ _ _, _, store, next => next = store
  | .invokeView _ _ _, _, store, next => next = store

namespace Store

variable {token : Nat → String} {store next : Store} {name id : String}

/-- A database put in place of one that differs from it in one place changes that place only. -/
theorem changesOnly_insert {db db' : Database} {issued : Nat}
    (hdb : store.databases.get? name = some db) (hplace : ∀ i, i ≠ id → db'.get? i = db.get? i) :
    store.ChangesOnly name id
      { store with databases := store.databases.insert name db', issued := issued } where
  database := ⟨db, db', hdb, Table.get?_insert_self _ _ _, hplace⟩
  others _ hn := Table.get?_insert_of_ne _ _ (Ne.symm hn)
  transientViews := rfl

/-- A record written to a database is all that changes, and its receipt names it. -/
theorem does_write {db : Database} {record : Record} {drawn : Nat}
    (hdb : store.databases.get? name = some db) :
    store.ChangesOnly name id (store.write db name id record drawn).2 ∧
      (store.write db name id record drawn).2.Left name
        (store.write db name id record drawn).1 := by
  refine ⟨changesOnly_insert hdb fun i hi => Table.get?_insert_of_ne _ _ (Ne.symm hi), ?_⟩
  have hnext : (store.write db name id record drawn).2.databases.get? name =
      some (db.insert id record) := Table.get?_insert_self _ _ _
  have hheld : (store.write db name id record drawn).2.held? name id = some record :=
    (held?_of_get? hnext id).trans (Table.get?_insert_self _ _ _)
  exact congrArg (Option.map Record.revision) hheld

/-- A save files under the identifier given, or under the one that it was offered. -/
theorem does_saveDocument {given : Option String} {body : Document} {receipt : Receipt}
    (h : store.saveDocument token name given body = .ok (receipt, next)) :
    (∀ id, given = some id → receipt.id = id) ∧ store.ChangesOnly name receipt.id next ∧
      next.Left name receipt := by
  obtain ⟨named, db, seq, -, hdb, -, hwrite⟩ := saveDocument_eq_ok_iff.1 h
  cases hwrite
  refine ⟨?_, does_write hdb⟩
  rintro id rfl
  rfl

/-- What a request does when it is answered, one case for each kind of request. -/
theorem does_of_step {request : Request} {answer : request.Answer}
    (h : store.step token request = .ok (answer, next)) : request.Does answer store next := by
  cases request with
  | databaseExists name =>
    cases h
    rfl
  | createDatabase name =>
    obtain ⟨hnone, hnext⟩ := createDatabase_eq_ok_iff.1 h
    exact ⟨hnone, congrArg Prod.snd hnext⟩
  | getDocument name id => exact (Memory.reads_getDocument name id).snd_of_stepOn h
  | saveDocument name given body => exact does_saveDocument h
  | mergeDocument name id changes =>
    obtain ⟨db, current, hdb, -, hwrite⟩ := mergeDocument_eq_ok_iff.1 h
    cases hwrite
    exact ⟨rfl, does_write hdb⟩
  | removeDocument name id revision =>
    obtain ⟨db, current, hdb, -, -, hresult⟩ := removeDocument_eq_ok_iff.1 h
    cases hresult
    refine ⟨rfl, changesOnly_insert hdb fun i hi => Table.get?_erase_of_ne _ (Ne.symm hi), ?_⟩
    -- The place is free now.
    rw [held?_insert, if_pos rfl]
    exact Table.get?_erase_self _ _
  | evaluateTransient name view options =>
    exact (Memory.reads_evaluateTransient name view options).snd_of_stepOn h
  | createView name view definition =>
    obtain ⟨hid, hwrite⟩ := does_saveDocument h
    exact ⟨hid view.designId rfl, hwrite⟩
  | invokeView name view options =>
    exact (Memory.reads_invokeView name view options).snd_of_stepOn h

/-! ## Without the requests that fail -/

/-- The exchange of a request that is answered, and of one that fails. -/
theorem respond_of_ok {request : Request} {answer : request.Answer}
    (h : store.step token request = .ok (answer, next)) :
    store.respond token request = (⟨request, .ok answer⟩, next) := by
  rw [respond_eq, h]

/-- A request that fails is on record with its error, and the store is what it was. -/
theorem respond_of_error {request : Request} {e : StoreError}
    (h : store.step token request = .error e) :
    store.respond token request = (⟨request, .error e⟩, store) := by
  rw [respond_eq, h]

/-- The exchanges in which a request was answered, latest first. -/
def answered (exchanges : List Exchange) : List Exchange :=
  exchanges.filter fun exchange => exchange.outcome.isOk

/-- Of one more exchange in front of all others, an answer is kept and a failure is not. -/
theorem answered_concat_ok (later : List Exchange) (request : Request)
    (answer : request.Answer) :
    answered (later ++ [⟨request, .ok answer⟩]) = answered later ++ [⟨request, .ok answer⟩] :=
  List.filter_append ..

theorem answered_concat_error (later : List Exchange) (request : Request) (e : StoreError) :
    answered (later ++ [⟨request, .error e⟩]) = answered later :=
  (List.filter_append ..).trans (List.append_nil _)

/-- Made without those that fail, requests are answered as they were and lead to the same store. -/
theorem respondAll_answered (token : Nat → String) (store : Store) (requests : List Request) :
    respondAll token [] store
        ((answered (respondAll token [] store requests).1).reverse.map Exchange.request) =
      (answered (respondAll token [] store requests).1,
        (respondAll token [] store requests).2) := by
  induction requests generalizing store with
  | nil => rfl
  | cons request rest ih =>
    rw [respondAll_cons]
    cases hstep : store.step token request with
    | error e =>
      -- The rest meets the store that the failed request met.
      rw [respond_of_error hstep, answered_concat_error]
      exact ih store
    | ok result =>
      rw [respond_of_ok hstep, answered_concat_ok, List.reverse_concat, List.map_cons,
        respondAll_cons, respond_of_ok hstep, ih]

end Store

/-- **Requests are atomic and local.**  Take any request to any store.  It fails with an error
    exactly on the exit with that error, and then it leaves the store exactly as it was.  If it is
    answered, it does to the store what its kind allows and nothing else: reading requests change
    nothing, creating a database adds an empty one where there was none, and a write changes nothing
    but what is held in one database under the identifier that its receipt names, which is the
    identifier that was given if one was.
    So a row of requests leads to the same store, with the same answers, without those of them that
    fail. -/
theorem requests_are_atomic_and_local (token : Nat → String) (store : Store) :
    (∀ request : Request,
      let run := ((Store.backend token).answer request).runOn store
      (∀ e, run.1 = .error e ↔ Store.Exit token store request e) ∧
      (∀ e, run.1 = .error e → run.2 = store) ∧
      ∀ answer, run.1 = .ok answer → request.Does answer store run.2) ∧
    (∀ requests : List Request,
      let run := Store.respondAll token [] store requests
      Store.respondAll token [] store ((Store.answered run.1).reverse.map Exchange.request) =
        (Store.answered run.1, run.2)) := by
  -- Where a request fails is known from its step, and that it leaves nothing behind is known from
  -- its run.
  refine ⟨fun request => ⟨fun e => ?exits, ?atomic, fun answer h => ?place⟩,
    Store.respondAll_answered token store⟩
  case exits =>
    rw [← Store.step_eq_error_iff, Store.step, Action.stepOn_eq_error_iff]
    rfl
  case atomic => exact Memory.atomic_answer token request store
  case place =>
    exact Store.does_of_step (Action.stepOn_eq_ok_iff.2 (Prod.ext h rfl))

/-- A store that holds one document, with five under `n`. -/
def noteStored : Store :=
  (Store.respondAll Store.countedToken [] (Store.empty true)
    [.createDatabase "notes", .saveDocument "notes" (some "a") [("n", .int32 5)]]).2

/-- A save that names no revision fails over it, a merge is answered. -/
theorem failed_save_is_left_out :
    let save : Request := .saveDocument "notes" (some "a") [("n", .int32 7)]
    let merge : Request := .mergeDocument "notes" "a" [("n", .int32 6)]
    let saved := ((Store.backend Store.countedToken).answer save).runOn noteStored
    let merged := ((Store.backend Store.countedToken).answer merge).runOn noteStored
    let receipt : Receipt := ⟨"a", Store.revisionText 2 (Store.countedToken 2)⟩
    let both := Store.respondAll Store.countedToken [] noteStored [save, merge]
    Store.Exit Store.countedToken noteStored save (.conflict "a" "notes") ∧
    saved.1 = .error (.conflict "a" "notes") ∧ saved.2 = noteStored ∧
    merged.1 = .ok receipt ∧ merge.Does receipt noteStored merged.2 ∧
    Store.respondAll Store.countedToken [] noteStored [merge] =
      (Store.answered both.1, both.2) := by
  obtain ⟨single, row⟩ := requests_are_atomic_and_local Store.countedToken noteStored
  obtain ⟨exits, atomic, -⟩ := single (.saveDocument "notes" (some "a") [("n", .int32 7)])
  obtain ⟨-, -, written⟩ := single (.mergeDocument "notes" "a" [("n", .int32 6)])
  refine ⟨(exits _).1 rfl, rfl, atomic _ rfl, rfl, written _ rfl, ?_⟩
  exact row [.saveDocument "notes" (some "a") [("n", .int32 7)],
    .mergeDocument "notes" "a" [("n", .int32 6)]]

end DocStore
