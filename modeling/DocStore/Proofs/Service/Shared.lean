/-
  Several services over one store.

  Services that work on the same store take turns.  Each of them has its own model, its own
  settings, and its own belief whether its database exists; the store is common to all.  A run is a
  list of turns, each an operation of one service.

  Whatever the turns were, every service finds a handle that it could have reached by itself
  (`Sound.reached`): what others do to the store is, to it, only requests that somebody made.
  Nothing that is held has a field under the names of identifier and revision (`Sound.bare`),
  because no request of a service asks for one.  And a store does not change its mind about views.
-/
import DocStore.Proofs.Service.Opened

namespace DocStore

namespace Store

variable {token : Nat → String} {store next : Store}

/-! ## What requests keep

  Properties of a store that the requests of services keep, whichever service makes them. -/

/-- Everything that the store holds is bare. -/
def Bare (store : Store) : Prop :=
  ∀ name id record, store.held? name id = some record → record.body.Bare

/-- What is left in one place decides whether everything stays bare. -/
theorem Bare.place {name id : String} {left : Option Record} (h : store.Bare)
    (hleft : ∀ record, left = some record → record.body.Bare)
    (hheld : ∀ n i, next.held? n i = if n = name ∧ i = id then left else store.held? n i) :
    next.Bare := by
  intro n i record hrecord
  rw [hheld] at hrecord
  split at hrecord
  · exact hleft record hrecord
  · exact h n i record hrecord

/-- Bareness is a matter of what is held. -/
theorem Bare.congr (h : store.Bare) (hheld : ∀ n i, next.held? n i = store.held? n i) :
    next.Bare := by
  intro n i record hrecord
  exact h n i record ((hheld n i).symm.trans hrecord)

/-- A body without its identifiers and revision is bare. -/
theorem bare_stripped {body : Document} (h : body.get? Field.publicId = none) :
    Document.Bare (stripped body) where
  no_id := (get?_stripped body).1
  no_revision := (get?_stripped body).2
  no_publicId := Entries.get?_erase_eq_none (Entries.get?_erase_eq_none h _) _

theorem bare_writable {changes : Document} (h : changes.get? Field.publicId = none) :
    Document.Bare (writable changes) where
  no_id := (get?_writable changes).1
  no_revision := (get?_writable changes).2
  no_publicId := Entries.get?_erase_eq_none (Entries.get?_erase_eq_none h _) _

/-- A save of such a body keeps the store bare. -/
theorem Bare.saveDocument {name : String} {id : Option String} {body : Document}
    {result : Receipt × Store} (h : store.Bare) (hbody : body.get? Field.publicId = none)
    (hsave : store.saveDocument token name id body = .ok result) : result.2.Bare := by
  obtain ⟨_, db, seq, -, hdb, -, rfl⟩ := saveDocument_eq_ok_iff.1 hsave
  refine h.place ?_ (held?_insert_place hdb fun i => Table.get?_insert db _ i _)
  rintro _ ⟨⟩
  exact bare_stripped hbody

/-- Requests of services leave everything bare. -/
theorem Bare.respond (h : store.Bare) {request : Request} (bare : request.Bare) :
    (store.respond token request).2.Bare := by
  rw [Store.respond_eq]
  cases hstep : store.step token request with
  | error e => exact h
  | ok result =>
    show result.2.Bare
    cases request with
    | databaseExists name =>
      cases hstep
      exact h
    | createDatabase name => exact h.congr (createDatabase_quiet hstep).2.2
    | getDocument name id =>
      rw [(Memory.reads_getDocument name id).snd_of_stepOn hstep]
      exact h
    | saveDocument name id body => exact h.saveDocument bare hstep
    | mergeDocument name id changes =>
      obtain ⟨db, current, hdb, hcurrent, rfl⟩ := mergeDocument_eq_ok_iff.1 hstep
      refine h.place ?_ (held?_insert_place hdb fun i => Table.get?_insert db id i _)
      -- Bare fields are written over a bare body.
      rintro _ ⟨⟩
      exact (h name id current ((held?_of_get? hdb id).trans hcurrent)).overlay (bare_writable bare)
    | removeDocument name id revision =>
      obtain ⟨db, current, hdb, -, -, rfl⟩ := removeDocument_eq_ok_iff.1 hstep
      refine h.place ?_ (held?_insert_place hdb fun i => Table.get?_erase db id i)
      rintro _ ⟨⟩
    | evaluateTransient name view options =>
      rw [(Memory.reads_evaluateTransient name view options).snd_of_stepOn hstep]
      exact h
    | createView name view definition =>
      have hdesign : (definition.toDesign view.view).get? Field.publicId = none := rfl
      exact h.saveDocument hdesign hstep
    | invokeView name view options =>
      rw [(Memory.reads_invokeView name view options).snd_of_stepOn hstep]
      exact h

/-- Whether a store evaluates views does not change. -/
theorem respond_transientViews (token : Nat → String) (store : Store) (request : Request) :
    (store.respond token request).2.transientViews = store.transientViews := by
  rw [Store.respond_eq]
  cases hstep : store.step token request with
  | error e => rfl
  | ok result =>
    show result.2.transientViews = store.transientViews
    cases request with
    | databaseExists name =>
      cases hstep
      rfl
    | createDatabase name =>
      obtain ⟨-, rfl⟩ := createDatabase_eq_ok_iff.1 hstep
      rfl
    | saveDocument name id body =>
      obtain ⟨_, db, seq, -, -, -, rfl⟩ := saveDocument_eq_ok_iff.1 hstep
      rfl
    | mergeDocument name id changes =>
      obtain ⟨db, current, -, -, rfl⟩ := mergeDocument_eq_ok_iff.1 hstep
      rfl
    | removeDocument name id revision =>
      obtain ⟨db, current, -, -, -, rfl⟩ := removeDocument_eq_ok_iff.1 hstep
      rfl
    | createView name view definition =>
      obtain ⟨_, db, seq, -, -, -, rfl⟩ := saveDocument_eq_ok_iff.1 hstep
      rfl
    | getDocument name id => rw [(Memory.reads_getDocument name id).snd_of_stepOn hstep]
    | evaluateTransient name view options =>
      rw [(Memory.reads_evaluateTransient name view options).snd_of_stepOn hstep]
    | invokeView name view options =>
      rw [(Memory.reads_invokeView name view options).snd_of_stepOn hstep]

end Store

namespace Service

variable {token : Nat → String} {model : String}

/-- So a service keeps it bare whatever it does: its requests are proper. -/
theorem stable_bare : Stable token model fun handle => handle.store.Bare where
  opened handle h := h.congr (held?_settled handle model)
  drew _ h := h
  asked _ h _ bare := h.respond bare

/-- No request changes how a store treats views. -/
theorem stable_transientViews (transientViews : Bool) :
    Stable token model fun handle => handle.store.transientViews = transientViews where
  opened handle h := (handle.settled_transientViews model).trans h
  drew _ h := h
  asked _ h request _ := (Store.respond_transientViews token _ request).trans h

/-- What one service does to the store, another one could have seen happen. -/
theorem stable_other (other : String) (ready : Bool) :
    Stable token model fun handle => Reached token other ⟨handle.store, ready⟩ where
  opened handle h := by
    show Reached token other
      ⟨if handle.ready then handle.store else handle.store.ensured model, ready⟩
    split
    · exact h
    · rw [← Store.respond_createDatabase token]
      exact h.asked _
  drew _ h := h.drew
  asked _ h request _ := h.asked request

/-- What makes one service different from another one over the same store. -/
structure Settings where
  model : String
  paginate : Paginate
deriving DecidableEq, Inhabited, Repr

/-- The service with these settings. -/
def Settings.over (token : Nat → String) (settings : Settings) : Service Store :=
  overMemory token settings.model settings.paginate

end Service

/-- A store with the services that work on it, each with its belief whether its database exists. -/
structure Shared where
  store : Store
  ready : Nat → Bool

namespace Shared

variable {token : Nat → String} {services : Nat → Service.Settings} {transientViews : Bool}
  {shared : Shared}

/-! ## Turns

  An operation of one service is a step of the whole; what each service believes about its
  database is its own affair. -/

/-- An empty store with services that were just built. -/
def empty (transientViews : Bool) : Shared :=
  ⟨Store.empty transientViews, fun _ => false⟩

/-- The handle of one of the services. -/
def handle (shared : Shared) (i : Nat) : Handle Store :=
  ⟨shared.store, shared.ready i⟩

/-- What is behind a turn of one of the services, which left this handle. -/
def behind (shared : Shared) (i : Nat) (next : Handle Store) : Shared :=
  ⟨next.store, fun j => if j = i then next.ready else shared.ready j⟩

/-- A service goes on from where its operation left it. -/
theorem handle_behind_self (shared : Shared) (i : Nat) (next : Handle Store) :
    (shared.behind i next).handle i = next := by
  show (⟨next.store, if i = i then next.ready else shared.ready i⟩ : Handle Store) = next
  rw [if_pos rfl]

/-- Others find the new store, and know what they knew. -/
theorem handle_behind_of_ne {i j : Nat} (h : j ≠ i) (next : Handle Store) :
    (shared.behind i next).handle j = ⟨next.store, shared.ready j⟩ := by
  show (⟨next.store, if j = i then next.ready else shared.ready j⟩ : Handle Store) = _
  rw [if_neg h]

/-- One turn: an operation of one of the services. -/
def turn (token : Nat → String) (services : Nat → Service.Settings) (shared : Shared)
    (turn : Nat × Call) : Shared :=
  shared.behind turn.1 (turn.2.next ((services turn.1).over token) (shared.handle turn.1))

/-- One turn after another. -/
def run (token : Nat → String) (services : Nat → Service.Settings) (shared : Shared)
    (turns : List (Nat × Call)) : Shared :=
  turns.foldl (turn token services) shared

/-- What holds of a store and its services at all times. -/
structure Sound (token : Nat → String) (services : Nat → Service.Settings) (transientViews : Bool)
    (shared : Shared) : Prop where
  reached : ∀ i, Service.Reached token (services i).model (shared.handle i)
  bare : shared.store.Bare
  transientViews : shared.store.transientViews = transientViews

/-- The empty store is sound for every service. -/
theorem sound_empty (token : Nat → String) (services : Nat → Service.Settings)
    (transientViews : Bool) : Sound token services transientViews (empty transientViews) where
  reached _ := .built (.empty transientViews)
  bare name id record hheld := by
    cases (Store.held?_empty transientViews name id).symm.trans hheld
  transientViews := rfl

/-- What one service does is sound to all: to the others it is interference. -/
theorem Sound.turn (h : Sound token services transientViews shared) (i : Nat) (call : Call) :
    Sound token services transientViews (shared.turn token services (i, call)) where
  reached j := by
    by_cases hj : j = i
    · subst hj
      have hown := (h.reached j).next (services j).paginate call
      have hhandle : (shared.turn token services (j, call)).handle j =
          call.next ((services j).over token) (shared.handle j) := handle_behind_self _ _ _
      rw [hhandle]
      exact hown
    · -- To any other service this call is one of somebody else on the store that they share.
      have stable : Service.Stable token (services i).model fun handle =>
          Service.Reached token (services j).model ⟨handle.store, shared.ready j⟩ :=
        Service.stable_other _ _
      have hbefore : Service.Reached token (services j).model
          ⟨(shared.handle i).store, shared.ready j⟩ := h.reached j
      have hother := stable.next hbefore (services i).paginate call
      have hhandle : (shared.turn token services (i, call)).handle j =
          ⟨(call.next ((services i).over token) (shared.handle i)).store, shared.ready j⟩ :=
        handle_behind_of_ne hj _
      rw [hhandle]
      exact hother
  bare := Service.stable_bare.next h.bare (services i).paginate call
  transientViews :=
    (Service.stable_transientViews transientViews).next h.transientViews (services i).paginate call

theorem Sound.run (h : Sound token services transientViews shared) (turns : List (Nat × Call)) :
    Sound token services transientViews (shared.run token services turns) := by
  induction turns generalizing shared with
  | nil => exact h
  | cons turn rest ih => exact ih (h.turn turn.1 turn.2)

/-! ## Turns that draw from another supply

  What is shown here does not depend on which tokens were drawn before, so it can be used where
  two runs are compared that draw different ones. -/

/-- Every service that believes that its database exists is right. -/
def Truthful (services : Nat → Service.Settings) (shared : Shared) : Prop :=
  ∀ i, (shared.handle i).Truthful (services i).model

/-- No database disappears, so nobody remembers one that is gone. -/
theorem Truthful.turn (h : shared.Truthful services) (token : Nat → String) (i : Nat)
    (call : Call) : (shared.turn token services (i, call)).Truthful services := by
  intro j
  by_cases hj : j = i
  · subst hj
    have hhandle : (shared.turn token services (j, call)).handle j =
        call.next ((services j).over token) (shared.handle j) := handle_behind_self _ _ _
    rw [hhandle]
    exact Service.stable_truthful.next (h j) (services j).paginate call
  · have hhandle : (shared.turn token services (i, call)).handle j =
        ⟨(call.next ((services i).over token) (shared.handle i)).store, shared.ready j⟩ :=
      handle_behind_of_ne hj _
    rw [hhandle]
    -- The database of another service stays where it is while this one works.
    intro hready
    have hbefore : ((shared.handle i).store.databases.get? (services j).model).isSome :=
      h j hready
    exact (Service.stable_database (services j).model).next hbefore (services i).paginate call

theorem Truthful.run (h : shared.Truthful services) (token : Nat → String)
    (turns : List (Nat × Call)) : (shared.run token services turns).Truthful services := by
  induction turns generalizing shared with
  | nil => exact h
  | cons turn rest ih => exact ih (h.turn token turn.1 turn.2)

/-- What opening, drawing and requests keep of a store, runs keep. -/
theorem keeps_run (inv : Store → Prop)
    (stable : ∀ model, Service.Stable token model fun handle => inv handle.store)
    (h : inv shared.store) (turns : List (Nat × Call)) :
    inv (shared.run token services turns).store := by
  induction turns generalizing shared with
  | nil => exact h
  | cons turn rest ih =>
    have hhandle : inv (shared.handle turn.1).store := h
    exact ih ((stable (services turn.1).model).next hhandle (services turn.1).paginate turn.2)

theorem transientViews_run (token : Nat → String) (services : Nat → Service.Settings)
    (shared : Shared) (turns : List (Nat × Call)) :
    (shared.run token services turns).store.transientViews = shared.store.transientViews :=
  keeps_run (fun store => store.transientViews = shared.store.transientViews)
    (fun _ => Service.stable_transientViews _) rfl turns

end Shared

end DocStore
