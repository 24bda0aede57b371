/-
  Databases are isolated from each other.

  A store answers a request from one database, the one that the request is about.  There are two
  sides to this.  What the request changes is in that database (`Store.get?_respond_other`).  And
  what it is answered, and what it leaves there, depends on nothing that other databases hold: over
  two stores that agree about the database and about the tokens to come, all steps come to the same
  (`Store.Agree.step`).

  A service asks for its own database only, in every operation and on every path of it, so both
  carry over: the first as what one service keeps, the second as two services in step.
-/
import DocStore.Proofs.Service.Opened

namespace DocStore

open DocStore.Action (InStep Keeps StepsAlike)

namespace Store

/-! ## What a request changes -/

/-- A request puts another database in place of the one that it is about, or does nothing. -/
theorem step_databases {token : Nat → String} {store : Store} {request : Request}
    {result : request.Answer × Store} (h : store.step token request = .ok result) :
    result.2.databases = store.databases ∨
      ∃ db, result.2.databases = store.databases.insert request.database db := by
  cases request with
  | databaseExists name =>
    cases h
    exact Or.inl rfl
  | createDatabase name =>
    obtain ⟨-, rfl⟩ := createDatabase_eq_ok_iff.1 h
    exact Or.inr ⟨_, rfl⟩
  | saveDocument name id body =>
    obtain ⟨_, db, seq, -, -, -, rfl⟩ := saveDocument_eq_ok_iff.1 h
    exact Or.inr ⟨_, rfl⟩
  | mergeDocument name id changes =>
    obtain ⟨db, current, -, -, rfl⟩ := mergeDocument_eq_ok_iff.1 h
    exact Or.inr ⟨_, rfl⟩
  | removeDocument name id revision =>
    obtain ⟨db, current, -, -, -, rfl⟩ := removeDocument_eq_ok_iff.1 h
    exact Or.inr ⟨_, rfl⟩
  | createView name view definition =>
    obtain ⟨_, db, seq, -, -, -, rfl⟩ := saveDocument_eq_ok_iff.1 h
    exact Or.inr ⟨_, rfl⟩
  -- What only reads leaves the whole store as it was.
  | getDocument name id =>
    exact Or.inl (congrArg databases ((Memory.reads_getDocument name id).snd_of_stepOn h))
  | evaluateTransient name view options =>
    have hsame := (Memory.reads_evaluateTransient name view options).snd_of_stepOn h
    exact Or.inl (congrArg databases hsame)
  | invokeView name view options =>
    have hsame := (Memory.reads_invokeView name view options).snd_of_stepOn h
    exact Or.inl (congrArg databases hsame)

/-- All other databases are what they were, also if the request fails. -/
theorem get?_respond_other (token : Nat → String) (store : Store) {request : Request}
    {other : String} (hne : other ≠ request.database) :
    (store.respond token request).2.databases.get? other = store.databases.get? other := by
  rw [respond_eq]
  cases hstep : store.step token request with
  | error e => rfl
  | ok result =>
    show result.2.databases.get? other = store.databases.get? other
    rcases step_databases hstep with hsame | ⟨db, hinsert⟩
    · rw [hsame]
    · rw [hinsert, Table.get?_insert, if_neg hne]

/-! ## What a request is answered from -/

/-- Two stores, each with tokens of its own, that agree about one database, about whether they
    evaluate views, and about the tokens to come. -/
structure Agree (name : String) (token token' : Nat → String) (store store' : Store) : Prop where
  database : store.databases.get? name = store'.databases.get? name
  transientViews : store.transientViews = store'.transientViews
  tokens : ∀ n, token (store.issued + n) = token' (store'.issued + n)

namespace Agree

variable {name : String} {token token' : Nat → String} {store store' : Store}
  (agree : Agree name token token' store store')

include agree

/-- The database is found by both or by neither. -/
theorem database_eq : store.database name = store'.database name := by
  rw [Store.database, Store.database, agree.database]

/-- Stores go on agreeing if they file the same database and draw as many tokens. -/
theorem insert (db : Database) (drawn : Nat) : Agree name token token'
    { store with databases := store.databases.insert name db, issued := store.issued + drawn }
    { store' with
      databases := store'.databases.insert name db, issued := store'.issued + drawn } where
  database := by rw [Table.get?_insert_self, Table.get?_insert_self]
  transientViews := agree.transientViews
  tokens n := by
    rw [Nat.add_assoc, Nat.add_assoc]
    exact agree.tokens (drawn + n)

/-- Drawing a token does not touch databases. -/
theorem draw : Agree name token token' store.afterDraw store'.afterDraw where
  database := agree.database
  transientViews := agree.transientViews
  tokens n := by
    show token (store.issued + 1 + n) = token' (store'.issued + 1 + n)
    rw [Nat.add_assoc, Nat.add_assoc]
    exact agree.tokens (1 + n)

/-- Reading leaves both as they are. -/
theorem reading {α : Type} {answer answer' : Except StoreError α} (h : answer = answer') :
    StepsAlike (Agree name token token') (store.reading answer) (store'.reading answer') := by
  subst h
  cases answer with
  | error e => exact .error e
  | ok a => exact .ok a agree

/-- The database is made on both sides, or was there on both. -/
theorem createDatabase : StepsAlike (Agree name token token')
    (store.createDatabase name) (store'.createDatabase name) := by
  have hcontains : store.databases.contains name = store'.databases.contains name :=
    congrArg Option.isSome agree.database
  rw [createDatabase_eq, createDatabase_eq, hcontains]
  split
  · exact .error _
  · exact .ok () (agree.insert Table.empty 0)

/-- A save meets the same database, and the tokens drawn for it are the same. -/
theorem saveDocument (id : Option String) (body : Document) :
    StepsAlike (Agree name token token') (store.saveDocument token name id body)
      (store'.saveDocument token' name id body) := by
  have hassigned : token store.issued = token' store'.issued := agree.tokens 0
  rw [saveDocument_eq, saveDocument_eq, agree.database_eq, hassigned, agree.tokens 1]
  refine .bind _ fun named => .bind _ fun db => ?_
  dsimp only
  split
  · exact .error _
  · exact .ok _ (agree.insert _ 2)

theorem mergeDocument (id : String) (changes : Document) :
    StepsAlike (Agree name token token') (store.mergeDocument token name id changes)
      (store'.mergeDocument token' name id changes) := by
  have hdrawn : token store.issued = token' store'.issued := agree.tokens 0
  rw [mergeDocument_eq, mergeDocument_eq, agree.database_eq, hdrawn]
  exact .bind _ fun db => .bind _ fun current => .ok _ (agree.insert _ 1)

theorem removeDocument (id revision : String) :
    StepsAlike (Agree name token token') (store.removeDocument token name id revision)
      (store'.removeDocument token' name id revision) := by
  have hdrawn : token store.issued = token' store'.issued := agree.tokens 0
  rw [removeDocument_eq, removeDocument_eq, agree.database_eq, hdrawn]
  refine .bind _ fun db => .bind _ fun current => ?_
  split
  · exact .ok _ (agree.insert _ 1)
  · exact .error _

theorem runView (view : Definition) (options : ViewOptions) :
    store.runView name view options = store'.runView name view options := by
  rw [runView_eq, runView_eq, documents_eq, documents_eq, agree.database_eq]

theorem getDocument (id : String) : store.getDocument name id = store'.getDocument name id := by
  rw [getDocument_eq, getDocument_eq, agree.database_eq]

/-- Whether views are evaluated is a matter of settings that both share. -/
theorem evaluateTransient (view : Definition) (options : ViewOptions) :
    store.evaluateTransient name view options = store'.evaluateTransient name view options := by
  rw [evaluateTransient_eq, evaluateTransient_eq, agree.transientViews, agree.runView]

theorem invokeView (view : ViewName) (options : ViewOptions) :
    store.invokeView name view options = store'.invokeView name view options := by
  have hrun : (fun definition => store.runView name definition options) =
      fun definition => store'.runView name definition options :=
    funext fun definition => agree.runView definition options
  rw [invokeView_eq, invokeView_eq, agree.getDocument, hrun]

/-- A step comes to the same over stores that agree about its database. -/
theorem step (request : Request) (own : request.database = name) :
    StepsAlike (Agree name token token') (store.step token request)
      (store'.step token' request) := by
  subst own
  cases request with
  -- Existence is a matter of the one database.
  | databaseExists name =>
    have hcontains : store.databases.contains name = store'.databases.contains name :=
      congrArg Option.isSome agree.database
    rw [step_databaseExists, step_databaseExists, hcontains]
    exact .ok _ agree
  | createDatabase name => exact agree.createDatabase
  | getDocument name id =>
    rw [step_getDocument, step_getDocument]
    exact agree.reading (agree.getDocument id)
  | saveDocument name id body => exact agree.saveDocument id body
  | mergeDocument name id changes => exact agree.mergeDocument id changes
  | removeDocument name id revision => exact agree.removeDocument id revision
  | evaluateTransient name view options =>
    rw [step_evaluateTransient, step_evaluateTransient]
    exact agree.reading (agree.evaluateTransient view options)
  | createView name view definition => exact agree.saveDocument _ _
  | invokeView name view options =>
    rw [step_invokeView, step_invokeView]
    exact agree.reading (agree.invokeView view options)

end Agree

end Store

/-- Two handles of a service that agree about its database: whether it is known to exist, what it
    holds, and what is drawn for it. -/
structure Handle.Agree (model : String) (token token' : Nat → String)
    (handle handle' : Handle Store) : Prop where
  ready : handle.ready = handle'.ready
  store : Store.Agree model token token' handle.store handle'.store

/-- Whatever is put in place of the other databases, the handle still agrees. -/
theorem Handle.agree_of_replaced (token : Nat → String) {model : String} (handle : Handle Store)
    {databases : Table Database}
    (h : handle.store.databases.get? model = databases.get? model) :
    Handle.Agree model token token handle
      ⟨{ handle.store with databases := databases }, handle.ready⟩ where
  ready := rfl
  store := { database := h, transientViews := rfl, tokens := fun _ => rfl }

namespace Service

/-- Services with databases of one name are in step over stores that agree about it. -/
theorem alike_agreeing (token token' : Nat → String) (model : String) (paginate : Paginate) :
    Alike (Handle.Agree model token token') (overMemory token model paginate)
      (overMemory token' model paginate) := by
  have asked : ∀ request : Request, request.database = model →
      InStep (Handle.Agree model token token') ((overMemory token model paginate).ask request)
        ((overMemory token' model paginate).ask request) := by
    intro request own
    refine inStep_onStore_iff.2 fun ready ready' => ?_
    -- Requests are atomic, so it is enough that their steps are alike.
    refine .of_steps (Memory.atomic_answer token request) (Memory.atomic_answer token' request)
      fun store store' agree => ?_
    show StepsAlike _ (store.step token request) (store'.step token' request)
    have hstep := agree.store.step request own
    generalize store.step token request = left at hstep ⊢
    generalize store'.step token' request = right at hstep ⊢
    cases hstep with
    | ok answer hnext => exact .ok answer ⟨agree.ready, hnext⟩
    | error e => exact .error e
  exact {
    model := rfl
    paginate := rfl
    opened := inStep_opened rfl (fun _ _ agree => agree.ready) (fun _ _ agree => ⟨rfl, agree.store⟩)
      asked
    asked := fun request proper => asked request proper.own
    drew := by
      intro handle handle' agree
      exact ⟨congrArg Except.ok (agree.store.tokens 0), agree.ready, agree.store.draw⟩ }

/-- An operation leaves all databases but that of its service as they are. -/
theorem keeps_others (token : Nat → String) (model : String) (paginate : Paginate)
    {other : String} (hne : other ≠ model) (found : Option Database) (call : Call) :
    Keeps (fun handle => handle.store.databases.get? other = found)
      (call.run (overMemory token model paginate)) := by
  have responded : ∀ (store : Store) (request : Request), request.database = model →
      store.databases.get? other = found →
        (store.respond token request).2.databases.get? other = found := by
    intro store request own hfound
    rw [Store.get?_respond_other token store (own ▸ hne), hfound]
  refine call.keeps ?_ (fun request proper handle hfound => ?_) fun _ hfound => hfound
  · intro handle hfound
    rw [runOn_opened]
    show (if handle.ready then handle.store
      else handle.store.ensured model).databases.get? other = found
    split
    · exact hfound
    · -- What an opening does to the store is what one request does.
      rw [← Store.respond_createDatabase token]
      exact responded handle.store (.createDatabase model) rfl hfound
  · have hrespond := responded handle.store request proper.own hfound
    rwa [← Store.answer_snd] at hrespond

end Service

/-- **Databases are isolated.**  Over every store and for every operation of a service, on every
    path of it, whether it succeeds or fails: all databases but that of the service are exactly what
    they were.
    And it makes no difference what they hold.  From another handle that agrees about the database
    of the service, about whether that is known to exist, and about the tokens to come, the
    operation has the same outcome, and the handles behind it agree again. -/
theorem databases_are_isolated (token : Nat → String) (model : String) (paginate : Paginate)
    (handle : Handle Store) (call : Call) :
    let run := (call.run (Service.overMemory token model paginate)).runOn handle
    (∀ other, other ≠ model →
      run.2.store.databases.get? other = handle.store.databases.get? other) ∧
    ∀ (token' : Nat → String) (handle' : Handle Store),
      Handle.Agree model token token' handle handle' →
        let run' := (call.run (Service.overMemory token' model paginate)).runOn handle'
        run.1 = run'.1 ∧ Handle.Agree model token token' run.2 run'.2 := by
  intro run
  constructor
  · intro other hne
    exact Service.keeps_others token model paginate hne _ call handle rfl
  · intro token' handle' agree
    exact call.inStep (Service.alike_agreeing token token' model paginate) handle handle' agree

/-- A database beside an empty one. -/
def besideEmpty : Handle Store :=
  ⟨⟨(Table.empty.insert "item" Table.empty).insert "order" Table.empty, true, 0⟩, false⟩

/-- The databases of which the other one holds a document. -/
def filledOrders : Table Database :=
  (Table.empty.insert "item" Table.empty).insert "order" (Table.empty.insert "a" ⟨1, "1-x", []⟩)

/-- It is not seen in a document that is created. -/
theorem orders_unseen_by_items :
    let run := fun handle : Handle Store =>
      ((Call.create (.single [("size", .int32 1)])).run
        (Service.overMemory Store.countedToken "item" {})).runOn handle
    let besideFilled : Handle Store := ⟨{ besideEmpty.store with databases := filledOrders }, false⟩
    besideEmpty.store.databases.get? "order" ≠ filledOrders.get? "order" ∧
    (run besideEmpty).1 = (run besideFilled).1 ∧
    (run besideEmpty).2.store.databases.get? "item" =
      (run besideFilled).2.store.databases.get? "item" ∧
    (run besideFilled).2.store.databases.get? "order" = filledOrders.get? "order" := by
  intro run besideFilled
  have hitems : besideEmpty.store.databases.get? "item" = filledOrders.get? "item" := by
    have hne : "order" ≠ "item" := by decide
    rw [besideEmpty, filledOrders, Table.get?_insert_of_ne _ _ hne, Table.get?_insert_of_ne _ _ hne]
  -- The two stores differ in the other database.
  have horders : besideEmpty.store.databases.get? "order" ≠ filledOrders.get? "order" := by
    rw [besideEmpty, filledOrders, Table.get?_insert_self, Table.get?_insert_self]
    intro h
    cases h
  have agree := Handle.agree_of_replaced Store.countedToken besideEmpty hitems
  obtain ⟨houtcome, hbehind⟩ := (databases_are_isolated Store.countedToken "item" {} besideEmpty
    (.create (.single [("size", .int32 1)]))).2 Store.countedToken besideFilled agree
  have hfilled := (databases_are_isolated Store.countedToken "item" {} besideFilled
    (.create (.single [("size", .int32 1)]))).1 "order" (by decide)
  exact ⟨horders, houtcome, hbehind.store.database, hfilled⟩

end DocStore
