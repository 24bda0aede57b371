/-
  Readers do not see revisions.

  Take two stores that hold documents with the same bodies in the same places, under revisions that
  may differ (`Store.SameBodies`).  Who reads from them, by `get` or by a find that is blind to
  revisions, gets the same from both (`Shared.SameBodies.reply_eq`).  Behind that, and behind finds
  that are not blind, they are still alike (`Shared.SameBodies.turn`).

  A find over a store that evaluates stored views only writes a design document under an identifier
  that it draws, and what comes of that depends on whether the identifier is taken.  So where tokens
  are still to be drawn, the two sides have to draw the same one, or none that names something held
  (`Store.DrawsAlike`).
-/
import DocStore.Proofs.Find.Blind
import DocStore.Proofs.Service.Shared
import DocStore.Proofs.Service.Single

namespace DocStore

/-! ## Stores with the same bodies

  A relation between stores that reading keeps: opening and drawing do, and so does everything
  that leaves what is held as it is. -/

/-- Both stores hold documents with the same bodies in the same places, treat views alike, and have
    drawn equally many tokens. -/
structure Store.SameBodies (store other : Store) : Prop where
  bodies : ∀ name id,
    (store.held? name id).map Record.body = (other.held? name id).map Record.body
  transientViews : store.transientViews = other.transientViews
  issued : store.issued = other.issued
  left : store.WellFormed
  right : other.WellFormed

/-- From here on, both sides draw the same tokens for temporary design documents, or such under
    which nothing is held.  A store that evaluates views needs none. -/
def Store.DrawsAlike (token token' : Nat → String) (store : Store) : Prop :=
  store.transientViews = false → ∀ n, store.issued ≤ n → token n = token' n ∨ ∀ model,
    store.held? model (Plan.temporaryName (token n)).designId = none ∧
      store.held? model (Plan.temporaryName (token' n)).designId = none

namespace Store

variable {token token' : Nat → String} {store other : Store} {model : String}

/-- The same places are empty. -/
theorem SameBodies.eq_none_iff (h : store.SameBodies other) (name id : String) :
    store.held? name id = none ↔ other.held? name id = none := by
  rw [← Option.map_eq_none_iff, h.bodies, Option.map_eq_none_iff]

/-- A place is empty on both sides, or holds the same body on both. -/
theorem SameBodies.cases (h : store.SameBodies other) (name id : String) :
    (store.held? name id = none ∧ other.held? name id = none) ∨
      ∃ record record', store.held? name id = some record ∧ other.held? name id = some record' ∧
        record.body = record'.body := by
  have hbody := h.bodies name id
  cases hheld : store.held? name id with
  | none => exact Or.inl ⟨rfl, (h.eq_none_iff name id).1 hheld⟩
  | some record =>
    cases hheld' : other.held? name id with
    | none => cases hheld.symm.trans ((h.eq_none_iff name id).2 hheld')
    | some record' =>
      rw [hheld, hheld'] at hbody
      exact Or.inr ⟨record, record', rfl, rfl, Option.some.inj hbody⟩

/-- So every two databases of one name hold the same bodies. -/
theorem SameBodies.databases (h : store.SameBodies other) {db db' : Database}
    (hdb : store.databases.get? model = some db) (hdb' : other.databases.get? model = some db') :
    db.SameBodies db' := by
  intro id
  rw [← held?_of_get? hdb, ← held?_of_get? hdb']
  exact h.bodies model id

/-- Where one of them is replaced by a store with the same documents, the other by one too, they
    stay alike. -/
theorem SameBodies.congr (h : store.SameBodies other) {next next' : Store}
    (hheld : ∀ n i, next.held? n i = store.held? n i)
    (hheld' : ∀ n i, next'.held? n i = other.held? n i)
    (htransient : next.transientViews = next'.transientViews)
    (hissued : next.issued = next'.issued) : next.SameBodies next' where
  bodies n i := by
    rw [hheld, hheld']
    exact h.bodies n i
  transientViews := htransient
  issued := hissued
  left n i record hrecord := h.left n i record ((hheld n i).symm.trans hrecord)
  right n i record hrecord := h.right n i record ((hheld' n i).symm.trans hrecord)

/-- Opening leaves them alike. -/
theorem SameBodies.settled {handle handle' : Handle Store}
    (h : handle.store.SameBodies handle'.store) (model : String) :
    (handle.settled model).store.SameBodies (handle'.settled model).store := by
  refine h.congr (Service.held?_settled handle model) (Service.held?_settled handle' model) ?_ ?_
  · rw [Handle.settled_transientViews, Handle.settled_transientViews, h.transientViews]
  · rw [Handle.settled_issued, Handle.settled_issued, h.issued]

/-- The store with this many more tokens drawn. -/
def drew (store : Store) (n : Nat) : Store :=
  { store with issued := store.issued + n }

/-- So does drawing equally many tokens. -/
theorem SameBodies.drew (h : store.SameBodies other) (n : Nat) :
    (store.drew n).SameBodies (other.drew n) :=
  h.congr (fun _ _ => rfl) (fun _ _ => rfl) h.transientViews (congrArg (· + n) h.issued)

/-- A store that holds the same and has drawn more is further on in the same supply. -/
theorem DrawsAlike.congr {next : Store} (h : store.DrawsAlike token token')
    (hheld : ∀ n i, next.held? n i = store.held? n i)
    (htransient : next.transientViews = store.transientViews)
    (hissued : store.issued ≤ next.issued) : next.DrawsAlike token token' := by
  intro hviews n hn
  rcases h (htransient.symm.trans hviews) n (Nat.le_trans hissued hn) with heq | hfree
  · exact Or.inl heq
  · refine Or.inr fun model => ?_
    rw [hheld, hheld]
    exact hfree model

/-- The next temporary design document finds its place free on both sides, or the same place taken
    on both. -/
theorem DrawsAlike.cases (h : store.DrawsAlike token token') (hsame : store.SameBodies other)
    (hviews : store.transientViews = false) (model : String) :
    (store.held? model (Plan.temporaryName (token store.issued)).designId = none ∧
      other.held? model (Plan.temporaryName (token' other.issued)).designId = none) ∨
    (token store.issued = token' other.issued ∧ ∃ record record',
      store.held? model (Plan.temporaryName (token store.issued)).designId = some record ∧
        other.held? model (Plan.temporaryName (token' other.issued)).designId = some record') := by
  rw [← hsame.issued]
  -- The next token is the same one on both sides, or names nothing that is held.
  rcases h hviews store.issued (Nat.le_refl _) with heq | hfree
  · rw [← heq]
    rcases hsame.cases model (Plan.temporaryName (token store.issued)).designId with
      hnone | ⟨record, record', hheld, hheld', -⟩
    · exact Or.inl hnone
    · exact Or.inr ⟨rfl, record, record', hheld, hheld'⟩
  · have hright := (hsame.eq_none_iff _ _).1 (hfree model).2
    exact Or.inl ⟨(hfree model).1, hright⟩

end Store

/-! ## Running a plan

  A plan is run on both stores.  Where it has a design document written, the stores differ in
  between, but not behind it. -/

/-- A find is blind to revisions if what it runs is: the predicate that its query compiles to, or
    the one that stands in the design document of the view that it names. -/
def Plan.Blind (store : Store) (model : String) : Plan → Prop
  | .transient view => view.predicate.Blind
  | .stored name => ∀ record definition, store.held? model name.designId = some record →
      Definition.ofDesign (record.shown name.designId) name.view = .ok definition →
        definition.predicate.Blind

/-- Whether a plan is blind is a matter of what is held. -/
theorem Plan.Blind.congr {store next : Store} {model : String} {plan : Plan}
    (h : plan.Blind store model) (hheld : ∀ n i, next.held? n i = store.held? n i) :
    plan.Blind next model := by
  cases plan with
  | transient view => exact h
  | stored name =>
    intro record definition hrecord
    exact h record definition ((hheld _ _).symm.trans hrecord)

namespace Store

variable {store : Store} {model : String} {db : Database}

/-- A stored view scans its database with what its design document says. -/
theorem invokeView_of_held (hdb : store.databases.get? model = some db) {name : ViewName}
    {record : Record} (hheld : store.held? model name.designId = some record)
    (options : ViewOptions) :
    store.invokeView model name options =
      (Definition.ofDesign (record.shown name.designId) name.view).map fun view =>
        view.evaluate (db.entries.map fun entry => entry.2.shown entry.1) options := by
  rw [invokeView_eq, getDocument_eq_ok_iff.2 ⟨record, hheld, rfl⟩]
  show (Definition.ofDesign _ name.view >>= fun view => store.runView model view options) = _
  cases Definition.ofDesign (record.shown name.designId) name.view with
  | error e => rfl
  | ok view =>
    exact runView_of_get? hdb view options

end Store

/-- Two runs of a plan: where it is blind they come to the same page, and in any case they leave the
    stores that they met, with equally many more tokens drawn. -/
structure Plan.RunAlike (blind : Prop) (filters : Filters) (limit skip : Nat)
    (store other : Store) (run run' : Except StoreError ViewResult × Store) : Prop where
  page : blind → run.1.map (Service.pageOf filters limit skip) =
    run'.1.map (Service.pageOf filters limit skip)
  drawn : ∃ n, run.2 = store.drew n ∧ run'.2 = other.drew n

namespace Plan

variable {token token' : Nat → String} {store other : Store} {model : String} {db db' : Database}

/-- A stored view is read from design documents with the same body, so it is the same view. -/
theorem runAlike_stored (h : store.SameBodies other) (hdb : store.databases.get? model = some db)
    (hdb' : other.databases.get? model = some db') (name : ViewName) (filters : Filters)
    (limit skip : Nat) :
    RunAlike ((Plan.stored name).Blind store model) filters limit skip store other
      (((Plan.stored name).run (Store.backend token) model ⟨some limit, skip⟩).runOn store)
      (((Plan.stored name).run (Store.backend token') model ⟨some limit, skip⟩).runOn other) := by
  have hbodies := h.databases hdb hdb'
  rw [run, run, Store.runOn_invokeView, Store.runOn_invokeView]
  refine ⟨fun blind => ?_, 0, rfl, rfl⟩
  rcases h.cases model name.designId with
    ⟨hnone, hnone'⟩ | ⟨record, record', hheld, hheld', hbody⟩
  · rw [Store.invokeView_of_absent hdb hnone, Store.invokeView_of_absent hdb' hnone']
  · -- Both design documents say the same, because both have the same body.
    have hplain : record.plain = record'.plain := by
      rw [Record.plain, Record.plain, hbody]
    have hdesign : Definition.ofDesign (record'.shown name.designId) name.view =
        Definition.ofDesign (record.shown name.designId) name.view := by
      rw [← Definition.ofDesign_plain, ← hplain, Definition.ofDesign_plain]
    rw [Store.invokeView_of_held hdb hheld, Store.invokeView_of_held hdb' hheld', hdesign]
    cases hview : Definition.ofDesign (record.shown name.designId) name.view with
    | error e => rfl
    | ok view =>
      exact congrArg Except.ok (Service.pageOf_evaluate_congr filters limit skip hbodies
        (h.left.database hdb) (h.right.database hdb') (blind record view hheld hview))

/-- A view of the moment is evaluated on both sides, or takes a design document on both. -/
theorem runAlike_transient (h : store.SameBodies other)
    (draws : store.DrawsAlike token token') (hdb : store.databases.get? model = some db)
    (hdb' : other.databases.get? model = some db') (view : Definition) (filters : Filters)
    (limit skip : Nat) :
    RunAlike view.predicate.Blind filters limit skip store other
      (((Plan.transient view).run (Store.backend token) model ⟨some limit, skip⟩).runOn store)
      (((Plan.transient view).run (Store.backend token') model ⟨some limit, skip⟩).runOn
        other) := by
  have hbodies := h.databases hdb hdb'
  have hwf := h.left.database hdb
  have hwf' := h.right.database hdb'
  cases hviews : store.transientViews with
  | true =>
    rw [runOn_transient token store hdb hviews,
      runOn_transient token' other hdb' (h.transientViews.symm.trans hviews)]
    exact ⟨fun blind => congrArg Except.ok (Service.pageOf_evaluate_congr filters limit skip hbodies
      hwf hwf' blind), 0, rfl, rfl⟩
  | false =>
    have hviews' : other.transientViews = false := h.transientViews.symm.trans hviews
    have hheld := Store.held?_of_get? hdb
    have hheld' := Store.held?_of_get? hdb'
    -- Where the place is taken, it is on both sides, and both report the same conflict.
    rcases draws.cases h hviews model with
      ⟨hfree, hfree'⟩ | ⟨htoken, record, record', htaken, htaken'⟩
    · rw [runOn_stored token store hdb hviews ((hheld _).symm.trans hfree),
        runOn_stored token' other hdb' hviews' ((hheld' _).symm.trans hfree')]
      refine ⟨fun blind => ?_, 4, rfl, rfl⟩
      cases hread : view.predicate.reread with
      | error e => rfl
      | ok predicate =>
        exact congrArg Except.ok (Service.pageOf_evaluate_congr filters limit skip hbodies hwf hwf'
          (blind.reread hread))
    · rw [run_of_taken hdb hviews ((hheld _).symm.trans htaken),
        run_of_taken hdb' hviews' ((hheld' _).symm.trans htaken'), htoken]
      exact ⟨fun _ => rfl, 1, rfl, rfl⟩

/-- Whatever the plan, its two runs are alike. -/
theorem runAlike (h : store.SameBodies other) (draws : store.DrawsAlike token token')
    (hdb : store.databases.get? model = some db) (hdb' : other.databases.get? model = some db')
    (plan : Plan) (filters : Filters) (limit skip : Nat) :
    RunAlike (plan.Blind store model) filters limit skip store other
      ((plan.run (Store.backend token) model ⟨some limit, skip⟩).runOn store)
      ((plan.run (Store.backend token') model ⟨some limit, skip⟩).runOn other) := by
  cases plan with
  | transient view => exact runAlike_transient h draws hdb hdb' view filters limit skip
  | stored name => exact runAlike_stored h hdb hdb' name filters limit skip

end Plan

/-! ## Reading through a service

  A get and a find, from alike handles, as one statement about each. -/

/-- The operations that only read documents. -/
def Call.Reads : Call → Prop
  | .find _ _ => True
  | .get _ => True
  | _ => False

/-- A read is blind to revisions if it asks for one document, or is a find that is. -/
def Call.Blind (store : Store) (model : String) : Call → Prop
  | .find query filters => ∀ plan, Service.plan query filters = .ok plan → plan.Blind store model
  | .get _ => True
  | _ => False

/-- Only reads are blind. -/
theorem Call.Blind.reads {store : Store} {model : String} {call : Call}
    (h : call.Blind store model) : call.Reads := by
  cases call <;> trivial

/-- Two reads, the first one from this handle: where they are blind they are answered alike, and
    they leave stores that are alike and hold what was held. -/
structure Service.ReadAlike {α : Type} (blind : Prop) (handle : Handle Store)
    (run run' : Except ServiceError α × Handle Store) : Prop where
  answer : blind → run.1 = run'.1
  store : run.2.store.SameBodies run'.2.store
  held : ∀ n i, run.2.store.held? n i = handle.store.held? n i
  issued : handle.store.issued ≤ run.2.store.issued

namespace Service

variable {token token' : Nat → String} {model : String} {handle other : Handle Store}

/-- What is answered may be dressed up. -/
theorem ReadAlike.map {α β : Type} {blind : Prop} {x y : Operation Store α}
    (h : ReadAlike blind handle (x.runOn handle) (y.runOn other)) (f : α → β) :
    ReadAlike blind handle
      (Action.runOn (do return f (← x)) handle) (Action.runOn (do return f (← y)) other) := by
  rw [Action.runOn_bind_pure, Action.runOn_bind_pure]
  exact ⟨fun blind => congrArg (Except.map f) (h.answer blind), h.store, h.held, h.issued⟩

/-- A get shows what is held without its revision being asked for. -/
theorem readAlike_get (h : handle.store.SameBodies other.store) (truthful : handle.Truthful model)
    (truthful' : other.Truthful model) (paginate : Paginate) (id : String) :
    ReadAlike True handle (((overMemory token model paginate).get id).runOn handle)
      (((overMemory token' model paginate).get id).runOn other) := by
  have hstore := h.settled model
  have hheld := held?_settled handle model
  have hissued := Nat.le_of_eq (handle.settled_issued model).symm
  rcases h.cases model id with ⟨hnone, hnone'⟩ | ⟨record, record', hget, hget', hbody⟩
  · rw [runOn_get_absent (Handle.get?_settled truthful) hnone,
      runOn_get_absent (Handle.get?_settled truthful') hnone']
    exact ⟨fun _ => rfl, hstore, hheld, hissued⟩
  · have hshown := Record.toPublic_apply_congr hbody .all id
    rw [runOn_get hget, runOn_get hget']
    exact ⟨fun _ => congrArg Except.ok hshown, hstore, hheld, hissued⟩

/-- A find is answered alike if its plan is blind, and leaves what it met in any case. -/
theorem readAlike_find (h : handle.store.SameBodies other.store)
    (draws : handle.store.DrawsAlike token token') (truthful : handle.Truthful model)
    (truthful' : other.Truthful model) (paginate : Paginate) (query : Document)
    (filters : Filters) :
    ReadAlike (∀ plan, Service.plan query filters = .ok plan → plan.Blind handle.store model)
      handle (((overMemory token model paginate).find query filters).runOn handle)
      (((overMemory token' model paginate).find query filters).runOn other) := by
  -- Input that is refused touches no store.
  cases hplan : Service.plan query filters with
  | error e =>
    rw [runOn_find_unplanned handle hplan, runOn_find_unplanned other hplan]
    exact ⟨fun _ => rfl, h, fun _ _ => rfl, Nat.le_refl _⟩
  | ok plan =>
    have hheld := held?_settled handle model
    have hissued := handle.settled_issued model
    have hdraws := draws.congr hheld (handle.settled_transientViews model)
      (Nat.le_of_eq hissued.symm)
    obtain ⟨hpage, n, hleft, hright⟩ := Plan.runAlike (h.settled model) hdraws
      (Handle.get?_settled truthful) (Handle.get?_settled truthful') plan filters
      (paginate.limit filters.limit) (filters.skip.getD 0)
    rw [runOn_find_planned handle hplan, runOn_find_planned other hplan]
    dsimp only
    rw [hleft, hright]
    refine ⟨fun blind => ?_, (h.settled model).drew n, hheld, ?_⟩
    · -- Failures are reported as they are, whatever is made of results.
      have hmap : ∀ outcome : Except StoreError ViewResult,
          (outcome.mapError ServiceError.ofStore).map (pageOf filters
            (paginate.limit filters.limit) (filters.skip.getD 0)) =
          (outcome.map (pageOf filters (paginate.limit filters.limit)
            (filters.skip.getD 0))).mapError ServiceError.ofStore := by
        intro outcome
        cases outcome <;> rfl
      rw [hmap, hmap, hpage ((blind plan rfl).congr hheld)]
    · show handle.store.issued ≤ (handle.settled model).store.issued + n
      omega

/-- Both services read alike. -/
theorem readAlike_run (h : handle.store.SameBodies other.store)
    (draws : handle.store.DrawsAlike token token') (truthful : handle.Truthful model)
    (truthful' : other.Truthful model) (paginate : Paginate) {call : Call} (reads : call.Reads) :
    ReadAlike (call.Blind handle.store model) handle
      ((call.run (overMemory token model paginate)).runOn handle)
      ((call.run (overMemory token' model paginate)).runOn other) := by
  cases call with
  | find query filters =>
    exact (readAlike_find h draws truthful truthful' paginate query filters).map Reply.page
  | get id => exact (readAlike_get h truthful truthful' paginate id).map Reply.document
  | _ => exact reads.elim

end Service

/-! ## Several services

  One store and several services on either side, taking turns; so the two stay alike over reads in
  any number. -/

namespace Shared

variable {token token' : Nat → String} {services : Nat → Service.Settings} {shared other : Shared}

/-- What a service answers in its turn. -/
def reply (token : Nat → String) (services : Nat → Service.Settings) (shared : Shared)
    (turn : Nat × Call) : Except ServiceError Reply :=
  ((turn.2.run ((services turn.1).over token)).runOn (shared.handle turn.1)).1

/-- Two stores with the same bodies, each with services that know what is there, and with supplies
    that they draw alike from. -/
structure SameBodies (token token' : Nat → String) (services : Nat → Service.Settings)
    (shared other : Shared) : Prop where
  store : shared.store.SameBodies other.store
  draws : shared.store.DrawsAlike token token'
  left : shared.Truthful services
  right : other.Truthful services

/-- Every service reads alike in its turn. -/
theorem SameBodies.readAlike (h : SameBodies token token' services shared other) (i : Nat)
    {call : Call} (reads : call.Reads) :
    Service.ReadAlike (call.Blind shared.store (services i).model) (shared.handle i)
      ((call.run ((services i).over token)).runOn (shared.handle i))
      ((call.run ((services i).over token')).runOn (other.handle i)) :=
  Service.readAlike_run h.store h.draws (h.left i) (h.right i) (services i).paginate reads

/-- A blind read is answered alike. -/
theorem SameBodies.reply_eq (h : SameBodies token token' services shared other) {i : Nat}
    {call : Call} (blind : call.Blind shared.store (services i).model) :
    shared.reply token services (i, call) = other.reply token' services (i, call) :=
  (h.readAlike i blind.reads).answer blind

/-- Behind a read, blind or not, the two are still alike. -/
theorem SameBodies.turn (h : SameBodies token token' services shared other) (i : Nat)
    {call : Call} (reads : call.Reads) :
    SameBodies token token' services (shared.turn token services (i, call))
      (other.turn token' services (i, call)) := by
  obtain ⟨-, hstore, hheld, hissued⟩ := h.readAlike i reads
  rw [Call.snd_runOn_run] at hstore hheld hissued
  rw [Call.snd_runOn_run] at hstore
  have htransient := shared.transientViews_run token services [(i, call)]
  exact ⟨hstore, h.draws.congr hheld htransient hissued, h.left.turn token i call,
    h.right.turn token' i call⟩

/-- So they are behind any number of reads. -/
theorem SameBodies.run (h : SameBodies token token' services shared other)
    {turns : List (Nat × Call)} (reads : ∀ turn ∈ turns, turn.2.Reads) :
    SameBodies token token' services (shared.run token services turns)
      (other.run token' services turns) := by
  -- Induction on the turns, with both sides stepping together.
  induction turns generalizing shared other with
  | nil => exact h
  | cons turn rest ih =>
    have hfirst := h.turn turn.1 (reads turn List.mem_cons_self)
    exact ih hfirst fun later hmem => reads later (List.mem_cons_of_mem _ hmem)

end Shared

end DocStore
