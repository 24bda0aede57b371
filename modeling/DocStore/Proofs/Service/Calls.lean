/-
  The operations of a service as data, and what they have in common.

  `Call` lists the operations with what they are called with; a raw find is the find of what its
  query splits into and has no entry of its own.

  All that an operation does with its backend is opening, drawing tokens, and asking for documents
  and views of the database of the service (`Request.Proper`).  `Call.inStep` draws the conclusion:
  two services that are in step whenever they do one of these three are in step in every operation,
  whatever their backends are.  What one service keeps in these three, it keeps in every operation
  (`Call.keeps`); that is the case of a service that is compared with itself.

  Opening is made of requests for the database itself, so services that agree about what is open
  need only be in step in asking (`Service.inStep_opened`).
-/
import DocStore.Proofs.Document.Public
import DocStore.Service.Find
import DocStore.Service.Write

namespace DocStore

/-- What the request asks to be stored, if anything, has no field under the callers' name of the
    identifier. -/
def Request.Bare : Request → Prop
  | .saveDocument _ _ body => body.get? Field.publicId = none
  | .mergeDocument _ _ changes => changes.get? Field.publicId = none
  | _ => True

/-- Whether a request is for documents or views, and not for a database as such. -/
def Request.Inside : Request → Prop
  | .databaseExists _ => False
  | .createDatabase _ => False
  | _ => True

/-- What a service over this database asks for once it has been opened. -/
structure Request.Proper (database : String) (request : Request) : Prop where
  own : request.database = database
  inside : request.Inside
  bare : request.Bare

/-- An operation of a service, with what it is called with. -/
inductive Call where
  | connect
  | find (query : Document) (filters : Filters)
  | get (id : String)
  | create (payload : Payload)
  | patch (id : String) (data : Document)
  | update (payload : Payload)
  | remove (id : String) (revision : Option String)
deriving Inhabited

/-- The handle behind an operation, whatever came of it. -/
def Call.next {σ : Type} (service : Service σ) (handle : Handle σ) : Call → Handle σ
  | .connect => (service.connect.runOn handle).2
  | .find query filters => ((service.find query filters).runOn handle).2
  | .get id => ((service.get id).runOn handle).2
  | .create payload => ((service.create payload).runOn handle).2
  | .patch id data => ((service.patch id data).runOn handle).2
  | .update payload => ((service.update payload).runOn handle).2
  | .remove id revision => ((service.remove id revision).runOn handle).2

/-- What an operation of a service answers. -/
inductive Reply where
  | connected
  | page (page : Page)
  | document (doc : Document)
  | created (payload : Payload)
  | documents (docs : List Document)
  | removed (receipt : Receipt)
deriving Inhabited

/-- The documents of an answer, in order. -/
def Reply.shown : Reply → List Document
  | .connected => []
  | .page found => found.data
  | .document doc => [doc]
  | .created (.single doc) => [doc]
  | .created (.batch docs) => docs
  | .documents docs => docs
  | .removed _ => []

/-- An operation with its answer. -/
def Call.run {σ : Type} (service : Service σ) : Call → Operation σ Reply
  | .connect => do
      service.connect
      return .connected
  | .find query filters => return .page (← service.find query filters)
  | .get id => return .document (← service.get id)
  | .create payload => return .created (← service.create payload)
  | .patch id data => return .document (← service.patch id data)
  | .update payload => return .documents (← service.update payload)
  | .remove id revision => return .removed (← service.remove id revision)

/-- Dressing up the answer changes nothing about the handle. -/
theorem Call.snd_runOn_run {σ : Type} (service : Service σ) (handle : Handle σ) (call : Call) :
    ((call.run service).runOn handle).2 = call.next service handle := by
  cases call <;> exact congrArg Prod.snd (Action.runOn_bind_pure _ _ _)

/-! ## Opening

  Only the outcome of the two requests for the database matters, and whether the service was open.
-/

namespace Service

open DocStore.Action (InStep)

variable {σ τ : Type} {R : Handle σ → Handle τ → Prop}

/-- What is done to a store is done to the store of a handle. -/
theorem runOn_onStore {ε α : Type} (action : Action σ ε α) (handle : Handle σ) :
    (onStore action).runOn handle =
      ((action.runOn handle.store).1, ⟨(action.runOn handle.store).2, handle.ready⟩) := rfl

/-- What is open is not opened again. -/
theorem runOn_opened_ready (service : Service σ) {handle : Handle σ} (h : handle.ready = true) :
    service.opened.runOn handle = (.ok (), handle) := by
  rw [opened, Action.runOn_bind_ok _ (Action.runOn_get handle), h]
  rfl

/-- Otherwise opening is making sure of the database, and only a success is remembered. -/
theorem runOn_opened_unready (service : Service σ) {handle : Handle σ} (h : handle.ready = false) :
    service.opened.runOn handle = match service.ensureExists.runOn handle with
      | (.ok (), next) => (.ok (), { next with ready := true })
      | (.error e, next) => (.error e, next) := by
  rw [opened, Action.runOn_bind_ok _ (Action.runOn_get handle), h]
  show Action.runOn (_ >>= _) handle = _
  rw [Action.runOn_bind]
  rcases service.ensureExists.runOn handle with ⟨_ | _, next⟩ <;> rfl

/-- Making sure of a database is two questions, with the same decision on the same answers. -/
theorem inStep_ensureExists {service : Service σ} {other : Service τ}
    (model : service.model = other.model)
    (asked : ∀ request : Request, request.database = service.model →
      InStep R (service.ask request) (other.ask request)) :
    InStep R service.ensureExists other.ensureExists := by
  rw [ensureExists, ensureExists, ← model]
  refine (asked (.databaseExists service.model) rfl).bind fun there => ?_
  split
  · exact .pure _
  · refine .bind (.attempt (asked (.createDatabase service.model) rfl)) fun outcome => ?_
    split
    · exact .pure _
    · exact .pure _
    · exact .throw _

/-- Services that agree about what is open, and are in step in asking, are so in opening. -/
theorem inStep_opened {service : Service σ} {other : Service τ}
    (model : service.model = other.model)
    (ready : ∀ handle handle', R handle handle' → handle.ready = handle'.ready)
    (known : ∀ handle handle', R handle handle' →
      R { handle with ready := true } { handle' with ready := true })
    (asked : ∀ request : Request, request.database = service.model →
      InStep R (service.ask request) (other.ask request)) :
    InStep R service.opened other.opened := by
  intro handle handle' hrel
  -- Either both are open and do nothing, or neither is and both make sure of the database.
  cases hready : handle.ready with
  | true =>
    rw [runOn_opened_ready service hready,
      runOn_opened_ready other ((ready _ _ hrel).symm.trans hready)]
    exact ⟨rfl, hrel⟩
  | false =>
    obtain ⟨hsame, hnext⟩ := inStep_ensureExists model asked handle handle' hrel
    rw [runOn_opened_unready service hready,
      runOn_opened_unready other ((ready _ _ hrel).symm.trans hready)]
    rcases hrun : service.ensureExists.runOn handle with ⟨outcome, next⟩
    rcases hrun' : other.ensureExists.runOn handle' with ⟨outcome', next'⟩
    rw [hrun, hrun'] at hsame hnext
    cases hsame
    cases outcome with
    | error e => exact ⟨rfl, hnext⟩
    | ok _ => exact ⟨rfl, known _ _ hnext⟩

end Service

/-! ## Two services in step

  One lemma for every operation, each following its program: opening, requests and draws are in
  step by assumption, and what is decided in between is decided from the same answers. -/

/-- Backends that are in step in answering and in drawing tokens are so in running plans. -/
theorem Plan.inStep_run {σ τ : Type} {R : σ → τ → Prop} {backend : Backend σ} {other : Backend τ}
    {database : String}
    (answered : ∀ request : Request, request.Proper database →
      Action.InStep R (backend.answer request) (other.answer request))
    (drew : Action.InStep R backend.token other.token) (plan : Plan) (options : ViewOptions) :
    Action.InStep R (plan.run backend database options) (plan.run other database options) := by
  cases plan with
  | stored name => exact answered _ ⟨rfl, trivial, trivial⟩
  | transient view =>
    -- The plan goes on in three steps exactly if views are refused, which both sides are told
    -- alike.
    refine .bind (.attempt (answered _ ⟨rfl, trivial, trivial⟩)) fun outcome => ?_
    split
    · refine .bind drew fun fresh => .bind (answered _ ⟨rfl, trivial, trivial⟩) fun receipt => ?_
      exact .bind (.attempt (answered _ ⟨rfl, trivial, trivial⟩)) fun result =>
        .bind (.attempt (answered _ ⟨rfl, trivial, trivial⟩)) fun _ => .ofExcept result
    · exact .ofExcept _

namespace Service

open DocStore.Action (InStep)

variable {σ τ : Type} {R : Handle σ → Handle τ → Prop} {service : Service σ} {other : Service τ}

/-- Two services over databases of one name and with the same settings, which are in step when they
    open, when they ask for what operations ask for, and when they draw tokens. -/
structure Alike (R : Handle σ → Handle τ → Prop) (service : Service σ) (other : Service τ) :
    Prop where
  model : service.model = other.model
  paginate : service.paginate = other.paginate
  opened : InStep R service.opened other.opened
  asked : ∀ request : Request, request.Proper service.model →
    InStep R (service.ask request) (other.ask request)
  drew : InStep R (onStore service.backend.token) (onStore other.backend.token)

/-- What is done to the store leaves the flag of the handle as it is. -/
theorem inStep_onStore_iff {ε α : Type} {x : Action σ ε α} {y : Action τ ε α} :
    InStep R (onStore x) (onStore y) ↔
      ∀ ready ready', InStep (fun s t => R ⟨s, ready⟩ ⟨t, ready'⟩) x y :=
  ⟨fun h ready ready' s t => h ⟨s, ready⟩ ⟨t, ready'⟩,
    fun h handle handle' => h handle.ready handle'.ready handle.store handle'.store⟩

/-- A save is proper if its body has no field under the callers' name of the identifier. -/
theorem proper_save (model : String) (id : Option String) {body : Document}
    (h : body.get? Field.publicId = none) : Request.Proper model (.saveDocument model id body) :=
  ⟨rfl, trivial, h⟩

/-- The fields that a caller may write never have the callers' name of the identifier. -/
theorem get?_patchFields_publicId (doc : Document) :
    (patchFields doc).get? Field.publicId = none := by
  rw [Document.patchFields_eq]
  exact (Document.bare_fields doc).no_publicId

section

variable (alike : Alike R service other)

include alike

/-- A request behind an opening. -/
theorem inStep_askOpened {request : Request} (proper : request.Proper service.model) :
    InStep R (service.askOpened request) (other.askOpened request) :=
  alike.opened.bind fun _ => alike.asked request proper

theorem inStep_fetch (id : String) : InStep R (service.fetch id) (other.fetch id) := by
  rw [fetch, fetch, ← alike.model]
  exact inStep_askOpened alike ⟨rfl, trivial, trivial⟩

theorem inStep_get (id : String) : InStep R (service.get id) (other.get id) :=
  ((inStep_fetch alike id).mapError _).bind fun _ => .pure _

/-- What is saved for a new document has no public identifier, so the save is proper. -/
theorem inStep_createOne (doc : Document) :
    InStep R (service.createOne doc) (other.createOne doc) := by
  unfold createOne
  rw [← alike.model]
  exact (alike.asked _ (proper_save _ _ (get?_patchFields_publicId doc))).bind fun _ => .pure _

/-- A batch is created one document after another, behind one opening. -/
theorem inStep_create (payload : Payload) :
    InStep R (service.create payload) (other.create payload) := by
  refine .mapError _ (alike.opened.bind fun _ => ?_)
  cases payload with
  | single doc => exact (inStep_createOne alike doc).bind fun _ => .pure _
  | batch docs => exact (InStep.each (inStep_createOne alike) docs).bind fun _ => .pure _

/-- A patch merges the fields that a caller may write, and gets the document. -/
theorem inStep_patch (id : String) (data : Document) :
    InStep R (service.patch id data) (other.patch id data) := by
  rw [patch, patch, ← alike.model]
  refine .bind (.mapError _ (inStep_askOpened alike ⟨rfl, trivial, ?_⟩)) fun _ =>
    inStep_get alike id
  exact get?_patchFields_publicId data

/-- Whether there is a revision decides between a patch and a save, on both sides alike. -/
theorem inStep_updateOne (id : String) (doc : Document) :
    InStep R (service.updateOne id doc) (other.updateOne id doc) := by
  rw [updateOne, updateOne, ← alike.model]
  split
  · exact inStep_patch alike id doc
  · refine .bind (.mapError _ (inStep_askOpened alike (proper_save _ _ ?_))) fun _ =>
      inStep_get alike id
    exact Entries.get?_erase_self _ _

/-- A batch is updated one target after another; the targets are a matter of the input alone. -/
theorem inStep_update (payload : Payload) :
    InStep R (service.update payload) (other.update payload) := by
  cases payload with
  | single doc => exact .throw _
  | batch docs =>
    exact (InStep.ofExcept _).bind fun targets =>
      .each (fun target => inStep_updateOne alike target.1 target.2) targets

/-- A revision that was not given is looked up. -/
theorem inStep_revisionFor (id : String) (revision : Option String) :
    InStep R (service.revisionFor id revision) (other.revisionFor id revision) := by
  cases revision with
  | some revision => exact .pure _
  | none =>
    refine (inStep_fetch alike id).bind fun doc => ?_
    split
    · exact .pure _
    · exact .throw _

/-- A removal asks for a revision first, behind the same opening. -/
theorem inStep_remove (id : String) (revision : Option String) :
    InStep R (service.remove id revision) (other.remove id revision) := by
  rw [remove, remove, ← alike.model]
  exact .mapError _ (alike.opened.bind fun _ => (inStep_revisionFor alike id revision).bind fun _ =>
    alike.asked _ ⟨rfl, trivial, trivial⟩)

theorem inStep_run (plan : Plan) (options : ViewOptions) :
    InStep R (onStore (plan.run service.backend service.model options))
      (onStore (plan.run other.backend other.model options)) := by
  refine inStep_onStore_iff.2 fun ready ready' => ?_
  rw [← alike.model]
  exact Plan.inStep_run
    (fun request proper => inStep_onStore_iff.1 (alike.asked request proper) ready ready')
    (inStep_onStore_iff.1 alike.drew ready ready') plan options

/-- A find runs its plan behind an opening. -/
theorem inStep_find (query : Document) (filters : Filters) :
    InStep R (service.find query filters) (other.find query filters) := by
  rw [find, find, ← alike.paginate]
  refine (InStep.ofExcept _).bind fun plan => .bind (.mapError _ ?_) fun _ => .pure _
  exact alike.opened.bind fun _ => inStep_run alike plan _

end

end Service

open DocStore.Action (InStep Keeps)

/-- Services that are in step in opening, asking and drawing tokens are so in every operation. -/
theorem Call.inStep {σ τ : Type} {R : Handle σ → Handle τ → Prop} {service : Service σ}
    {other : Service τ} (alike : Service.Alike R service other) (call : Call) :
    InStep R (call.run service) (call.run other) := by
  cases call with
  | connect => exact (alike.opened.mapError _).bind fun _ => .pure _
  | find query filters => exact (Service.inStep_find alike query filters).bind fun _ => .pure _
  | get id => exact (Service.inStep_get alike id).bind fun _ => .pure _
  | create payload => exact (Service.inStep_create alike payload).bind fun _ => .pure _
  | patch id data => exact (Service.inStep_patch alike id data).bind fun _ => .pure _
  | update payload => exact (Service.inStep_update alike payload).bind fun _ => .pure _
  | remove id revision => exact (Service.inStep_remove alike id revision).bind fun _ => .pure _

/-- What a service keeps in opening, asking and drawing tokens, it keeps in every operation. -/
theorem Call.keeps {σ : Type} {inv : Handle σ → Prop} {service : Service σ}
    (opened : Keeps inv service.opened)
    (asked : ∀ request : Request, request.Proper service.model → Keeps inv (service.ask request))
    (drew : Keeps inv (Service.onStore service.backend.token)) (call : Call) :
    Keeps inv (call.run service) := by
  -- A service is in step with itself, from handles that are the same and have the property.
  have alike : Service.Alike (fun handle other => handle = other ∧ inv handle) service service := {
    model := rfl
    paginate := rfl
    opened := Action.keeps_iff_inStep.1 opened
    asked := fun request proper => Action.keeps_iff_inStep.1 (asked request proper)
    drew := Action.keeps_iff_inStep.1 drew }
  exact Action.keeps_iff_inStep.2 (call.inStep alike)

end DocStore
