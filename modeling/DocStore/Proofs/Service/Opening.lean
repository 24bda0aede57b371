/-
  A service opens once, and before anything else.

  `Opening` lists what making sure of the database can ask for, with what comes of it: five courses,
  three of which succeed.  Opening an open service asks for nothing, so to open twice is to open
  once (`Service.opened_opened`).  Operations open in several places, some of them again and again,
  but all that do anything open before they do anything else.  As an equation: to open in front of
  such an operation changes nothing (`Service.OpensFirst`).  A run on a service that is not open is
  therefore an opening, and behind a success a run on one that is; and there no request is made that
  is not for documents or views of the database (`Call.stays_inside`).

  This says of every operation what it asks for (`Visit`).  What it says of a run of any number of
  operations is an invariant of the requests so far and of what the service remembers (`Gate`).
-/
import DocStore.Proofs.Service.Refusal
import DocStore.Proofs.Store.Watching

namespace DocStore

/-- What making sure of a database asks for, in this order, and what comes of it. -/
inductive Opening (model : String) : List Exchange → Except StoreError Unit → Prop
  | there : Opening model [⟨.databaseExists model, .ok true⟩] (.ok ())
  | unknown (e : StoreError) : Opening model [⟨.databaseExists model, .error e⟩] (.error e)
  | created :
      Opening model [⟨.databaseExists model, .ok false⟩, ⟨.createDatabase model, .ok ()⟩] (.ok ())
  /-- Somebody else was quicker. -/
  | createdByOthers (name : String) :
      Opening model [⟨.databaseExists model, .ok false⟩,
        ⟨.createDatabase model, .error (.databaseExists name)⟩] (.ok ())
  | notCreated {e : StoreError} (h : ∀ name, e ≠ .databaseExists name) :
      Opening model [⟨.databaseExists model, .ok false⟩, ⟨.createDatabase model, .error e⟩]
        (.error e)

/-- The answers by which a service knows that its database exists. -/
inductive Exchange.Confirms (model : String) : Exchange → Prop
  | there : Confirms model ⟨.databaseExists model, .ok true⟩
  | created : Confirms model ⟨.createDatabase model, .ok ()⟩
  | createdByOthers (name : String) :
      Confirms model ⟨.createDatabase model, .error (.databaseExists name)⟩

/-- One of the exchanges says that the database exists. -/
def Confirmed (model : String) (trace : List Exchange) : Prop :=
  ∃ exchange ∈ trace, exchange.Confirms model

/-- Every exchange is about the database, and it is for documents or views exactly if the database
    is known to exist by then: no sooner, and afterwards nothing else. -/
def Gated (model : String) (trace : List Exchange) : Prop :=
  ∀ earlier exchange later, trace = earlier ++ exchange :: later →
    exchange.request.database = model ∧
      (exchange.request.Inside ↔ Confirmed model earlier)

/-- All exchanges are about documents or views of the database. -/
def AllInside (model : String) (exchanges : List Exchange) : Prop :=
  ∀ exchange ∈ exchanges, exchange.request.Inside ∧ exchange.request.database = model

/-- The operation ends without need of the backend: its input was refused, or it is an update
    without documents. -/
def Call.Idle (call : Call) (outcome : Except ServiceError Reply) : Prop :=
  (∃ fault, outcome = .error (.invalidInput fault)) ∨ call = .update (.batch [])

/-- What an operation of a service asks for, by whether the service is open before it, with its
    outcome and with whether the service is open behind it. -/
inductive Visit (model : String) (call : Call) :
    Bool → List Exchange → Except ServiceError Reply → Bool → Prop
  | idle {outcome : Except ServiceError Reply} (ready : Bool) (idle : call.Idle outcome) :
      Visit model call ready [] outcome ready
  | notOpened {asked : List Exchange} {e : StoreError} (opening : Opening model asked (.error e))
      (busy : ¬ call.Idle (.error (.ofStore e))) :
      Visit model call false asked (.error (.ofStore e)) false
  | opened {asked rest : List Exchange} {outcome : Except ServiceError Reply}
      (opening : Opening model asked (.ok ())) (busy : ¬ call.Idle outcome)
      (inside : AllInside model rest) :
      Visit model call false (asked ++ rest) outcome true
  | known {rest : List Exchange} {outcome : Except ServiceError Reply} (busy : ¬ call.Idle outcome)
      (inside : AllInside model rest) :
      Visit model call true rest outcome true

/-! ## Openings

  What a watched service has in its trace after making sure of its database, case by case. -/

namespace Service

variable {σ α β : Type} (service : Service σ)

/-- A watched service keeps one exchange of every request. -/
theorem ask_watched (handle : Handle (Traced σ)) (request : Request) :
    ∃ outcome next, (service.watched.ask request).runOn handle = (outcome, ⟨next, handle.ready⟩) ∧
      next.trace = handle.store.trace ++ [⟨request, outcome⟩] :=
  ⟨_, _, rfl, List.reverse_cons⟩

/-- What making sure of the database does on a watched service. -/
theorem ensureExists_watched (handle : Handle (Traced σ)) :
    ∃ asked outcome next, service.watched.ensureExists.runOn handle =
        (outcome, ⟨next, handle.ready⟩) ∧
      next.trace = handle.store.trace ++ asked ∧ Opening service.model asked outcome := by
  obtain ⟨there, first, hthere, hfirst⟩ :=
    service.ask_watched handle (.databaseExists service.model)
  cases there with
  | error e => exact ⟨_, _, _, Action.runOn_bind_error _ hthere, hfirst, .unknown e⟩
  | ok there =>
    cases there with
    | true => exact ⟨_, _, _, Action.runOn_bind_ok _ hthere, hfirst, .there⟩
    | false =>
      obtain ⟨created, last, hcreated, hlast⟩ :=
        service.ask_watched ⟨first, handle.ready⟩ (.createDatabase service.model)
      -- The two requests stand one behind the other at the end of the trace.
      have htrace : last.trace = handle.store.trace ++
          [⟨.databaseExists service.model, .ok false⟩,
            ⟨.createDatabase service.model, created⟩] := by
        rw [hlast, hfirst, List.append_assoc]
        rfl
      have hrun : ∀ result, Action.runOn _ _ = result →
          service.watched.ensureExists.runOn handle = result :=
        fun result h => (Action.runOn_bind_ok _ hthere).trans
          ((Action.runOn_bind_attempt _ hcreated).trans h)
      cases created with
      | ok _ => exact ⟨_, _, _, hrun _ rfl, htrace, .created⟩
      | error e =>
        -- Only one error counts as success: that the database exists.
        by_cases hexists : ∃ name, e = .databaseExists name
        · obtain ⟨name, rfl⟩ := hexists
          exact ⟨_, _, _, hrun _ rfl, htrace, .createdByOthers name⟩
        · have hother : ∀ name, e ≠ .databaseExists name := fun name h => hexists ⟨name, h⟩
          refine ⟨_, _, _, hrun _ ?_, htrace, .notCreated hother⟩
          cases e with
          | databaseExists name => exact absurd rfl (hother name)
          | _ => rfl

/-- What opening does on a watched service that is not open: the service is open behind it if it
    succeeds. -/
theorem opened_watched {handle : Handle (Traced σ)} (h : handle.ready = false) :
    ∃ asked outcome next, service.watched.opened.runOn handle = (outcome, next) ∧
      next.store.trace = handle.store.trace ++ asked ∧ Opening service.model asked outcome ∧
      next.ready = outcome.isOk := by
  obtain ⟨asked, outcome, next, hrun, htrace, hopening⟩ := service.ensureExists_watched handle
  have hopened := runOn_opened_unready service.watched h
  rw [hrun] at hopened
  cases outcome with
  | ok _ => exact ⟨asked, _, _, hopened, htrace, hopening, rfl⟩
  | error e => exact ⟨asked, _, _, hopened, htrace, hopening, h⟩

/-! ## Operations open first

  That an operation begins with an opening is stated as an equation, so it passes from the first
  part of a program to the whole by associativity, without a look at the rest. -/

/-- To open twice is to open once, also where it fails. -/
theorem opened_opened : (do service.opened; service.opened) = service.opened := by
  funext handle
  show (service.opened >>= fun _ => service.opened).runOn handle = service.opened.runOn handle
  -- An open service stays open; otherwise the first opening decides what the second one finds.
  cases hready : handle.ready with
  | true => rw [Action.runOn_bind_ok _ (runOn_opened_ready service hready)]
  | false =>
    have hopened := runOn_opened_unready service hready
    rcases hrun : service.ensureExists.runOn handle with ⟨e | _, next⟩
    · rw [hrun] at hopened
      rw [Action.runOn_bind_error _ hopened, hopened]
    · rw [hrun] at hopened
      rw [Action.runOn_bind_ok _ hopened, hopened]
      exact runOn_opened_ready service rfl

/-- To open in front of the operation changes nothing. -/
def OpensFirst (operation : Operation σ α) : Prop :=
  (do reported service.opened; operation) = operation

variable {service}

/-- To open is to open first. -/
theorem opensFirst_opened : OpensFirst service (reported service.opened) := by
  have hreported := Action.mapError_bind ServiceError.ofStore service.opened fun _ => service.opened
  rw [opened_opened] at hreported
  exact hreported.symm

/-- An operation whose first part opens first does so itself. -/
theorem OpensFirst.bind {x : Operation σ α} (hx : OpensFirst service x) (f : α → Operation σ β) :
    OpensFirst service (x >>= f) := by
  -- The opening in front belongs to the first part.
  rw [OpensFirst, ← bind_assoc, hx]

/-- What opens and then goes on opens first, also where its errors are reported. -/
theorem opensFirst_reported (f : Unit → Action (Handle σ) StoreError α) :
    OpensFirst service (reported (service.opened >>= f)) := by
  have hsplit : reported (service.opened >>= f) =
      reported service.opened >>= fun done => reported (f done) := Action.mapError_bind _ _ _
  rw [hsplit]
  exact opensFirst_opened.bind _

theorem opensFirst_get (id : String) : OpensFirst service (service.get id) :=
  (opensFirst_reported _).bind _

theorem opensFirst_patch (id : String) (data : Document) :
    OpensFirst service (service.patch id data) :=
  (opensFirst_reported _).bind _

/-- An update of one document opens first, be it by a patch or by a save. -/
theorem opensFirst_updateOne (id : String) (doc : Document) :
    OpensFirst service (service.updateOne id doc) := by
  rw [updateOne]
  split
  · exact opensFirst_patch id doc
  · exact (opensFirst_reported _).bind _

/-- A find with a plan opens first. -/
theorem opensFirst_find {query : Document} {filters : Filters} {planned : Plan}
    (hplan : plan query filters = .ok planned) :
    OpensFirst service (service.find query filters) := by
  rw [find, hplan]
  -- What is planned is known before the first request.
  show OpensFirst service (pure planned >>= _)
  rw [pure_bind]
  exact (opensFirst_reported _).bind _

/-- A batch that is not empty opens with its first document. -/
theorem opensFirst_update {doc : Document} {rest : List Document}
    {named : List (String × Document)} (htargets : targets (doc :: rest) = .ok named) :
    OpensFirst service (service.update (.batch (doc :: rest))) := by
  -- The targets are known before the first request.
  obtain ⟨id, others, -, -, rfl⟩ := targets_cons_eq_ok_iff.1 htargets
  rw [update, htargets]
  show OpensFirst service (pure ((id, doc) :: others) >>= _)
  rw [pure_bind]
  exact (opensFirst_updateOne id doc).bind _

end Service

open Service (OpensFirst opensFirst_reported) in
/-- An operation opens first unless its input is refused or it is an update without documents. -/
theorem Call.opensFirst {σ : Type} (service : Service σ) {call : Call}
    (accepted : ∀ fault, ¬ call.Refused fault) (nonempty : call ≠ .update (.batch [])) :
    OpensFirst service (call.run service) := by
  cases call with
  | connect => exact Service.opensFirst_opened.bind _
  | find query filters =>
    obtain ⟨planned, hplan⟩ := Call.exists_plan accepted
    exact (Service.opensFirst_find hplan).bind _
  | get id => exact (Service.opensFirst_get id).bind _
  | create payload => exact (opensFirst_reported _).bind _
  | patch id data => exact (Service.opensFirst_patch id data).bind _
  | update payload =>
    cases payload with
    | single doc => exact absurd (.notABatch doc) (accepted _)
    | batch docs =>
      -- A batch without elements is the one accepted call that does not open the service.
      cases docs with
      | nil => exact absurd rfl nonempty
      | cons doc rest =>
        obtain ⟨named, htargets⟩ := Call.exists_targets accepted
        exact (Service.opensFirst_update htargets).bind _
  | remove id revision => exact (opensFirst_reported _).bind _

/-! ## What an operation asks for

  An operation that opens first is an opening and then a run on an open service.  On an open
  service it asks for documents and views of the database, by the induction over programs that
  `Call.keeps` has done once and for all. -/

section

variable {σ : Type} (service : Service σ)

/-- The service is open, and since an earlier handle it asked for nothing but documents and views of
    its database. -/
structure StayedInside (model : String) (before now : Handle (Traced σ)) : Prop where
  ready : now.ready = true
  asked : ∃ rest, now.store.trace = before.store.trace ++ rest ∧ AllInside model rest

variable {service}

/-- One more request for a document or a view of the database. -/
theorem StayedInside.ask {before now : Handle (Traced σ)}
    (h : StayedInside service.model before now) {request : Request}
    (proper : request.Proper service.model) :
    StayedInside service.model before ((service.watched.ask request).runOn now).2 := by
  obtain ⟨outcome, next, hask, hnext⟩ := service.ask_watched now request
  obtain ⟨rest, htrace, hrest⟩ := h.asked
  rw [hask]
  refine ⟨h.ready, rest ++ [⟨request, outcome⟩], ?_, fun exchange hmem => ?_⟩
  · rw [hnext, htrace, List.append_assoc]
  · rcases List.mem_append.1 hmem with hmem | hmem
    · exact hrest exchange hmem
    · cases List.mem_singleton.1 hmem
      exact ⟨proper.inside, proper.own⟩

variable (service)

/-- On an open service an operation asks for documents and views of the database only. -/
theorem Call.stays_inside {handle : Handle (Traced σ)} (h : handle.ready = true) (call : Call) :
    StayedInside service.model handle ((call.run service.watched).runOn handle).2 := by
  have opened : Action.Keeps (StayedInside service.model handle) service.watched.opened := by
    intro now hnow
    rw [Service.runOn_opened_ready _ hnow.ready]
    exact hnow
  have drew : Action.Keeps (StayedInside service.model handle)
      (Service.onStore service.watched.backend.token) :=
    fun _ hnow => ⟨hnow.ready, hnow.asked⟩
  exact call.keeps opened (fun _ proper _ hnow => hnow.ask proper) drew handle
    ⟨h, [], (List.append_nil _).symm, nofun⟩

/-- On an open service an operation goes right ahead. -/
theorem Call.visit_ready {handle : Handle (Traced σ)} {call : Call} (hready : handle.ready = true) :
    let run := (call.run service.watched).runOn handle
    ¬ call.Idle run.1 → ∃ asked, run.2.store.trace = handle.store.trace ++ asked ∧
      Visit service.model call true asked run.1 run.2.ready := by
  intro run busy
  obtain ⟨hnext, rest, htrace, hrest⟩ := call.stays_inside service hready
  have hopen : run.2.ready = true := hnext
  rw [hopen]
  exact ⟨rest, htrace, .known busy hrest⟩

/-- On any other it makes an opening, and ends there if that fails. -/
theorem Call.visit_unready {handle : Handle (Traced σ)} {call : Call}
    (hready : handle.ready = false)
    (opensFirst : Service.OpensFirst service.watched (call.run service.watched)) :
    let run := (call.run service.watched).runOn handle
    ¬ call.Idle run.1 → ∃ asked, run.2.store.trace = handle.store.trace ++ asked ∧
      Visit service.model call false asked run.1 run.2.ready := by
  intro run busy
  have hfirst : run = ((do Service.reported service.watched.opened; call.run service.watched)
      : Operation (Traced σ) Reply).runOn handle := by
    rw [opensFirst]
  obtain ⟨asked, outcome, next, hopened, htrace, hopening, hnext⟩ := service.opened_watched hready
  have hreported : (Service.reported service.watched.opened).runOn handle =
      (outcome.mapError ServiceError.ofStore, next) := by
    rw [Service.reported, Action.runOn_mapError, hopened]
  cases outcome with
  | error e =>
    rw [Action.runOn_bind_error _ hreported] at hfirst
    have hready' : next.ready = false := hnext
    rw [hfirst] at busy ⊢
    rw [hready']
    exact ⟨asked, htrace, .notOpened hopening busy⟩
  | ok _ =>
    -- Behind the opening the operation runs on an open service.
    rw [Action.runOn_bind_ok _ hreported] at hfirst
    obtain ⟨hlast, rest, hmore, hrest⟩ := call.stays_inside service hnext
    rw [← hfirst] at hlast hmore
    rw [hlast]
    refine ⟨asked ++ rest, ?_, .opened hopening busy hrest⟩
    rw [hmore, htrace, List.append_assoc]

/-- What an operation asks for on a watched service. -/
theorem Call.visit (handle : Handle (Traced σ)) (call : Call) :
    let run := (call.run service.watched).runOn handle
    ∃ asked, run.2.store.trace = handle.store.trace ++ asked ∧
      Visit service.model call handle.ready asked run.1 run.2.ready := by
  intro run
  by_cases hrefused : ∃ fault, call.Refused fault
  · obtain ⟨fault, hfault⟩ := hrefused
    have hrun : run = (.error (.invalidInput fault), handle) :=
      Call.runOn_run_of_refused service.watched handle hfault
    rw [hrun]
    exact ⟨[], (List.append_nil _).symm, .idle _ (Or.inl ⟨fault, rfl⟩)⟩
  -- Neither refused input nor an empty batch gets as far as the backend.
  by_cases hempty : call = .update (.batch [])
  · have hrun : run = (.ok (.documents []), handle) := by
      subst hempty
      rfl
    rw [hrun]
    exact ⟨[], (List.append_nil _).symm, .idle _ (Or.inr hempty)⟩
  have busy : ¬ call.Idle run.1 := by
    rintro (⟨fault, houtcome⟩ | h)
    · exact hrefused ⟨fault, Call.refused_of_runOn_run houtcome⟩
    · exact hempty h
  have opensFirst := Call.opensFirst service.watched (fun fault h => hrefused ⟨fault, h⟩) hempty
  cases hready : handle.ready with
  | true => exact Call.visit_ready service hready busy
  | false => exact Call.visit_unready service hready opensFirst busy

end

/-! ## Runs of any length

  Two things are carried from operation to operation: that the trace is gated, and that the
  service remembers what the trace says. -/

section

variable {model : String} {trace asked rest : List Exchange}

/-- A confirmation stands in one part or in the other. -/
theorem confirmed_append :
    Confirmed model (trace ++ asked) ↔ Confirmed model trace ∨ Confirmed model asked := by
  simp only [Confirmed, List.mem_append, or_and_right, exists_or]

/-- It is the first exchange, or one behind it. -/
theorem confirmed_cons {exchange : Exchange} :
    Confirmed model (exchange :: rest) ↔ exchange.Confirms model ∨ Confirmed model rest :=
  List.exists_mem_cons_iff _ _ _

theorem not_confirmed_nil : ¬ Confirmed model [] :=
  nofun

/-- An opening confirms that the database exists exactly if it succeeds. -/
theorem Opening.confirmed_iff {outcome : Except StoreError Unit}
    (opening : Opening model asked outcome) : Confirmed model asked ↔ outcome = .ok () := by
  -- To be told that there is no such database confirms nothing.
  have hask : ¬ Exchange.Confirms model ⟨.databaseExists model, .ok false⟩ := nofun
  cases opening with
  | there => exact ⟨fun _ => rfl, fun _ => confirmed_cons.2 (Or.inl .there)⟩
  | created =>
    exact ⟨fun _ => rfl, fun _ => confirmed_cons.2 (Or.inr (confirmed_cons.2 (Or.inl .created)))⟩
  | createdByOthers name =>
    exact ⟨fun _ => rfl,
      fun _ => confirmed_cons.2 (Or.inr (confirmed_cons.2 (Or.inl (.createdByOthers name))))⟩
  | unknown e =>
    rw [confirmed_cons, or_iff_left not_confirmed_nil]
    exact ⟨nofun, nofun⟩
  | @notCreated e h =>
    rw [confirmed_cons, or_iff_right hask, confirmed_cons, or_iff_left not_confirmed_nil]
    refine ⟨fun hconfirms => ?_, nofun⟩
    cases hconfirms with
    | createdByOthers name => exact absurd rfl (h name)

theorem gated_nil : Gated model [] := by
  intro earlier exchange later h
  cases earlier <;> cases h

/-- One more exchange keeps a trace gated if it is right where it stands, at the end. -/
theorem Gated.concat (h : Gated model trace) {exchange : Exchange}
    (own : exchange.request.database = model)
    (inside : exchange.request.Inside ↔ Confirmed model trace) :
    Gated model (trace ++ [exchange]) := by
  intro earlier other later hsplit
  -- The exchange asked about is the new one, or it stands in the old part.
  rcases List.eq_nil_or_concat later with rfl | ⟨front, last, rfl⟩
  · obtain ⟨rfl, hlast⟩ := List.append_inj' hsplit rfl
    cases hlast
    exact ⟨own, inside⟩
  · rw [List.concat_eq_append, ← List.cons_append, ← List.append_assoc] at hsplit
    obtain ⟨rfl, -⟩ := List.append_inj' hsplit rfl
    exact h earlier other front rfl

/-- Once the database is known to exist, documents and views may be asked for. -/
theorem Gated.append_inside (h : Gated model trace) (confirmed : Confirmed model trace)
    (inside : AllInside model rest) : Gated model (trace ++ rest) := by
  -- Induction on what is asked: each exchange joins the trace, which stays confirmed.
  induction rest generalizing trace with
  | nil =>
    rw [List.append_nil]
    exact h
  | cons exchange rest ih =>
    obtain ⟨hinside, hown⟩ := inside exchange List.mem_cons_self
    have hnext : Gated model (trace ++ [exchange]) :=
      h.concat hown ⟨fun _ => confirmed, fun _ => hinside⟩
    rw [List.append_cons]
    exact ih hnext (confirmed_append.2 (Or.inl confirmed)) fun other hmem =>
      inside other (List.mem_cons_of_mem _ hmem)

/-- As long as it is not, the database itself may be asked for. -/
theorem Gated.append_opening (h : Gated model trace) (unknown : ¬ Confirmed model trace)
    {outcome : Except StoreError Unit} (opening : Opening model asked outcome) :
    Gated model (trace ++ asked) := by
  have hexists : ∀ there, Gated model (trace ++ [⟨.databaseExists model, there⟩]) :=
    fun there => h.concat rfl ⟨False.elim, unknown⟩
  have hcreate : ∀ created, Gated model (trace ++
      [⟨.databaseExists model, .ok false⟩, ⟨.createDatabase model, created⟩]) := by
    intro created
    -- Between the two requests of an opening nothing has been confirmed yet.
    have hstill : ¬ Confirmed model (trace ++ [⟨.databaseExists model, .ok false⟩]) := by
      rw [confirmed_append, or_iff_right unknown, confirmed_cons, or_iff_left not_confirmed_nil]
      exact nofun
    rw [List.append_cons]
    exact (hexists _).concat rfl ⟨False.elim, hstill⟩
  cases opening with
  | there => exact hexists _
  | unknown e => exact hexists _
  | created => exact hcreate _
  | createdByOthers name => exact hcreate _
  | notCreated _ => exact hcreate _

end

/-- What holds of a watched service between its operations: its trace is gated, and it is open
    exactly if its trace says that the database exists. -/
structure Gate {σ : Type} (model : String) (handle : Handle (Traced σ)) : Prop where
  gated : Gated model handle.store.trace
  ready_iff : handle.ready = true ↔ Confirmed model handle.store.trace

/-- A visit keeps the gate. -/
theorem Gate.next {σ : Type} {model : String} {handle next : Handle (Traced σ)} {call : Call}
    {asked : List Exchange} {outcome : Except ServiceError Reply} (gate : Gate model handle)
    (htrace : next.store.trace = handle.store.trace ++ asked)
    (visit : Visit model call handle.ready asked outcome next.ready) : Gate model next := by
  obtain ⟨hgated, hready⟩ := gate
  -- Only the two flags matter of the handles, and a visit is a case analysis over them.
  generalize handle.ready = before at hready visit
  generalize hbehind : next.ready = behind at visit
  suffices h : Gated model (handle.store.trace ++ asked) ∧
      (behind = true ↔ Confirmed model (handle.store.trace ++ asked)) by
    rw [← htrace, ← hbehind] at h
    exact ⟨h.1, h.2⟩
  -- The visit says by itself whether the service is open behind it; the trace has to agree.
  cases visit with
  | idle _ _ =>
    rw [List.append_nil]
    exact ⟨hgated, hready⟩
  | notOpened opening _ =>
    have hunknown : ¬ Confirmed model handle.store.trace := fun h => nomatch hready.2 h
    have hstill : ¬ Confirmed model asked := fun h => nomatch opening.confirmed_iff.1 h
    refine ⟨hgated.append_opening hunknown opening, nofun, fun h => ?_⟩
    rcases confirmed_append.1 h with h | h
    · exact absurd h hunknown
    · exact absurd h hstill
  | @opened made rest _ opening _ inside =>
    have hunknown : ¬ Confirmed model handle.store.trace := fun h => nomatch hready.2 h
    have hknown : Confirmed model (handle.store.trace ++ made) :=
      confirmed_append.2 (Or.inr (opening.confirmed_iff.2 rfl))
    rw [← List.append_assoc]
    exact ⟨(hgated.append_opening hunknown opening).append_inside hknown inside,
      fun _ => confirmed_append.2 (Or.inl hknown), fun _ => rfl⟩
  | known _ inside =>
    have hknown := hready.1 rfl
    exact ⟨hgated.append_inside hknown inside,
      fun _ => confirmed_append.2 (Or.inl hknown), fun _ => rfl⟩

namespace Service

variable {σ : Type}

/-- The handle behind operations, one after another, whatever came of them. -/
def behindAll (service : Service σ) (handle : Handle σ) (calls : List Call) : Handle σ :=
  calls.foldl (fun handle call => call.next service handle) handle

/-- So the gate is kept by operations in any number. -/
theorem gate_behindAll (service : Service σ) (calls : List Call) {handle : Handle (Traced σ)}
    (gate : Gate service.model handle) :
    Gate service.model (service.watched.behindAll handle calls) := by
  -- Induction on the operations, from any handle with a gate.
  induction calls generalizing handle with
  | nil => exact gate
  | cons call rest ih =>
    obtain ⟨asked, htrace, hvisit⟩ := call.visit service handle
    rw [Call.snd_runOn_run] at htrace hvisit
    exact ih (gate.next htrace hvisit)

/-- Watching changes nothing: a watched service is in step with the service itself. -/
theorem alike_watched (service : Service σ) :
    Alike (fun watched handle => watched.store.store = handle.store ∧ watched.ready = handle.ready)
      service.watched service := by
  -- Watching adds a record of the request and changes nothing else.
  have asked : ∀ request : Request, Action.InStep
      (fun watched handle => watched.store.store = handle.store ∧ watched.ready = handle.ready)
      (service.watched.ask request) (service.ask request) := by
    rintro request watched ⟨_, _⟩ ⟨rfl, rfl⟩
    exact ⟨rfl, rfl, rfl⟩
  exact {
    model := rfl
    paginate := rfl
    opened := inStep_opened rfl (fun _ _ h => h.2) (fun _ _ h => ⟨h.1, rfl⟩) fun request _ =>
      asked request
    asked := fun request _ => asked request
    drew := by
      rintro watched ⟨_, _⟩ ⟨rfl, rfl⟩
      exact ⟨rfl, rfl, rfl⟩ }

end Service

/-- **A service opens once, and opening gates whatever else it does.**  Take any service over any
    backend, and any operations one after another, of which each may succeed or fail.
    In everything that was asked so far, a request is for documents or views exactly if there was an
    answer before it by which the database exists; so there is none before the first success, and
    nothing but such requests afterwards.  The service is open exactly if there was such an answer.
    Whatever operation comes next visits the backend as `Visit` says: on a service that is not open
    it makes an opening, and goes on or ends with the error of the opening by whether that succeeds.
    All this is what the service does also if nobody watches. -/
theorem service_opens_once {σ : Type} (service : Service σ) (store : σ) (calls : List Call) :
    let handle := service.watched.behindAll ⟨⟨store, []⟩, false⟩ calls
    Gated service.model handle.store.trace ∧
    (handle.ready = true ↔ Confirmed service.model handle.store.trace) ∧
    ∀ call : Call,
      let run := (call.run service.watched).runOn handle
      (∃ asked, run.2.store.trace = handle.store.trace ++ asked ∧
        Visit service.model call handle.ready asked run.1 run.2.ready) ∧
      (call.run service).runOn ⟨handle.store.store, handle.ready⟩ =
        (run.1, ⟨run.2.store.store, run.2.ready⟩) := by
  intro handle
  have hstart : Gate service.model (⟨⟨store, []⟩, false⟩ : Handle (Traced σ)) :=
    ⟨gated_nil, nofun, fun h => absurd h not_confirmed_nil⟩
  obtain ⟨hgated, hready⟩ := service.gate_behindAll calls hstart
  refine ⟨hgated, hready, fun call => ⟨call.visit service handle, ?_⟩⟩
  obtain ⟨hsame, hstore, hopen⟩ := call.inStep service.alike_watched handle
    ⟨handle.store.store, handle.ready⟩ ⟨rfl, rfl⟩
  rw [hsame, hstore, hopen]

end DocStore
