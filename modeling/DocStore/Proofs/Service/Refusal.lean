/-
  Input that a service refuses.

  There are three kinds (`Call.Refused`): a find by the name of a view that is no such name, an
  update with a single document, and an update with a batch in which a document, wherever it stands,
  names no stored one.  All of them are found out before the service opens, so a refusal is neither
  preceded nor followed by anything (`Call.runOn_run_of_refused`).

  That nothing else is reported as bad input has two reasons.  What a backend reports is translated
  by its status, and no status means bad input (`ServiceError.ofStore_ne_invalidInput`).  And behind
  its checks an operation is put together from reported actions only, so it reports none itself
  (`Operation.Accepts`).
-/
import DocStore.Proofs.Service.Calls
import DocStore.Store.Watched

namespace DocStore

/-- The service over its backend with a record of what that is asked and answers. -/
def Service.watched {σ : Type} (service : Service σ) : Service (Traced σ) :=
  ⟨service.backend.traced, service.model, service.paginate⟩

/-! ## Documents that name no stored one

  The checks that an operation makes on its input, each with what it fails on. -/

namespace Document

/-- Under neither name of the identifier there is text that is not empty. -/
def Nameless (doc : Document) : Prop :=
  ∀ key ∈ [Field.id, Field.publicId], ∀ text, doc.get? key = some (.string text) → text = ""

/-- No text is what a field without text shows, and a field with empty text. -/
theorem text?_eq_none_iff {doc : Document} {key : String} :
    doc.text? key = none ↔ ∀ text, doc.get? key = some (.string text) → text = "" := by
  rw [text?, Option.filter_eq_none_iff]
  constructor
  · intro h text htext
    have hempty := h text (by rw [htext]; rfl)
    rw [Bool.not_eq_true', Bool.not_eq_false, String.isEmpty_iff] at hempty
    exact hempty
  · intro h text htext
    obtain ⟨value, hvalue, hstring⟩ := Option.bind_eq_some_iff.1 htext
    -- Only strings are text, and this one must be empty.
    cases value with
    | string s =>
      cases hstring
      rw [h text hvalue]
      decide
    | _ => cases hstring

/-- A document names no stored one exactly if neither field has text in it. -/
theorem namedBy?_eq_none_iff {doc : Document} : doc.namedBy? = none ↔ doc.Nameless := by
  have hboth : doc.Nameless ↔ doc.text? Field.id = none ∧ doc.text? Field.publicId = none := by
    rw [text?_eq_none_iff, text?_eq_none_iff, Nameless, List.forall_mem_cons,
      List.forall_mem_singleton]
  rw [hboth, namedBy?]
  -- The first name goes before the second; both must fail.
  cases doc.text? Field.id with
  | none => exact ⟨fun h => ⟨rfl, h⟩, fun h => h.2⟩
  | some id => exact ⟨fun h => (nomatch h), fun h => (nomatch h.1)⟩

end Document

namespace Service

/-- The target of a document that names one stands in front of those of the rest. -/
theorem targets_cons {doc : Document} {id : String} (h : doc.namedBy? = some id)
    (rest : List Document) : targets (doc :: rest) = (targets rest).map ((id, doc) :: ·) := by
  rw [targets, h]

/-- Targets are found for a batch exactly if they are for its first document and for the rest. -/
theorem targets_cons_eq_ok_iff {doc : Document} {rest : List Document}
    {named : List (String × Document)} :
    targets (doc :: rest) = .ok named ↔
      ∃ id others, doc.namedBy? = some id ∧ targets rest = .ok others ∧
        named = (id, doc) :: others := by
  cases hid : doc.namedBy? with
  | none =>
    rw [targets, hid]
    constructor
    · intro h
      cases h
    · rintro ⟨_, _, h, -, -⟩
      cases h
  | some id =>
    rw [targets_cons hid]
    cases targets rest with
    | error fault =>
      constructor
      · intro h
        cases h
      · rintro ⟨_, _, -, h, -⟩
        cases h
    | ok others =>
      constructor
      · rintro ⟨⟩
        exact ⟨id, others, rfl, rfl, rfl⟩
      · rintro ⟨_, _, ⟨⟩, ⟨⟩, rfl⟩
        rfl

/-- One document that names none is enough, in whatever place. -/
theorem targets_eq_error_iff {docs : List Document} {fault : InputFault} :
    targets docs = .error fault ↔ fault = .noIdentifier ∧ ∃ doc ∈ docs, doc.Nameless := by
  -- Induction on the batch, up to the first document that names none.
  induction docs with
  | nil =>
    constructor
    · intro h
      cases h
    · rintro ⟨-, _, hmem, -⟩
      cases hmem
  | cons doc rest ih =>
    rw [List.exists_mem_cons_iff]
    cases hnamed : doc.namedBy? with
    | none =>
      have hdoc : doc.Nameless := Document.namedBy?_eq_none_iff.1 hnamed
      rw [targets, hnamed]
      constructor
      · rintro ⟨⟩
        exact ⟨rfl, Or.inl hdoc⟩
      · rintro ⟨rfl, -⟩
        rfl
    | some id =>
      have hdoc : ¬ doc.Nameless := by
        rw [← Document.namedBy?_eq_none_iff, hnamed]
        exact nofun
      -- A document that names one leaves the decision to the rest.
      have hrest : targets (doc :: rest) = .error fault ↔ targets rest = .error fault := by
        rw [targets_cons hnamed]
        cases targets rest with
        | error e => exact Iff.rfl
        | ok others => exact ⟨fun h => (nomatch h), fun h => (nomatch h)⟩
      rw [hrest, ih, or_iff_right hdoc]

/-- If every document names one, there are targets. -/
theorem targets_of_named {docs : List Document} (h : ∀ doc ∈ docs, doc.namedBy?.isSome) :
    ∃ named, targets docs = .ok named := by
  cases htargets : targets docs with
  | ok named => exact ⟨named, rfl⟩
  | error fault =>
    obtain ⟨-, doc, hmem, hnameless⟩ := targets_eq_error_iff.1 htargets
    have hnamed := h doc hmem
    rw [Document.namedBy?_eq_none_iff.2 hnameless] at hnamed
    cases hnamed

/-- A find has no plan exactly if it asks for a view by what is no name of one. -/
theorem plan_eq_error_iff {query : Document} {filters : Filters} {fault : InputFault} :
    plan query filters = .error fault ↔
      ∃ name, filters.view = some name ∧ ViewName.ofText? name = none ∧
        fault = .badViewName name := by
  rw [plan]
  cases hview : filters.view with
  | none =>
    constructor
    · intro h
      cases h
    · rintro ⟨_, h, -⟩
      cases h
  | some name =>
    dsimp only
    cases hread : ViewName.ofText? name with
    | some view =>
      constructor
      · intro h
        cases h
      · rintro ⟨_, ⟨⟩, hunread, -⟩
        rw [hread] at hunread
        cases hunread
    | none =>
      constructor
      · rintro ⟨⟩
        exact ⟨name, rfl, hread, rfl⟩
      · rintro ⟨_, ⟨⟩, -, rfl⟩
        rfl

end Service

/-- The input of the operation is refused, for this reason. -/
inductive Call.Refused : Call → InputFault → Prop
  | badViewName (query : Document) {filters : Filters} {name : String}
      (asked : filters.view = some name) (unread : ViewName.ofText? name = none) :
      Refused (.find query filters) (.badViewName name)
  | notABatch (doc : Document) : Refused (.update (.single doc)) .notABatch
  | noIdentifier {docs : List Document} {doc : Document} (mem : doc ∈ docs)
      (nameless : doc.Nameless) : Refused (.update (.batch docs)) .noIdentifier

/-- What is not refused is taken apart: a find has a plan. -/
theorem Call.exists_plan {query : Document} {filters : Filters}
    (accepted : ∀ fault, ¬ (Call.find query filters).Refused fault) :
    ∃ planned, Service.plan query filters = .ok planned := by
  cases hplan : Service.plan query filters with
  | ok planned => exact ⟨planned, rfl⟩
  | error fault =>
    obtain ⟨name, asked, unread, rfl⟩ := Service.plan_eq_error_iff.1 hplan
    exact absurd (.badViewName query asked unread) (accepted _)

/-- And a batch has targets. -/
theorem Call.exists_targets {docs : List Document}
    (accepted : ∀ fault, ¬ (Call.update (.batch docs)).Refused fault) :
    ∃ named, Service.targets docs = .ok named := by
  cases htargets : Service.targets docs with
  | ok named => exact ⟨named, rfl⟩
  | error fault =>
    obtain ⟨rfl, doc, mem, nameless⟩ := Service.targets_eq_error_iff.1 htargets
    exact absurd (.noIdentifier mem nameless) (accepted _)

/-! ## Refused input

  The checks come first in their operations, so a refusal ends the run where it began. -/

namespace Service

variable {σ : Type} {service : Service σ}

/-- A find without a plan does nothing. -/
theorem runOn_find_unplanned (handle : Handle σ) {query : Document} {filters : Filters}
    {fault : InputFault} (hplan : plan query filters = .error fault) :
    (service.find query filters).runOn handle = (.error (.invalidInput fault), handle) := by
  refine Action.runOn_bind_error _ ?_
  rw [hplan]
  rfl

/-- Nor does an update of which a document has no target. -/
theorem runOn_update_untargeted (handle : Handle σ) {docs : List Document} {fault : InputFault}
    (htargets : targets docs = .error fault) :
    (service.update (.batch docs)).runOn handle = (.error (.invalidInput fault), handle) := by
  refine Action.runOn_bind_error _ ?_
  rw [htargets]
  rfl

end Service

/-- A refusal is all that there is to a run, over every backend and from every handle. -/
theorem Call.runOn_run_of_refused {σ : Type} (service : Service σ) (handle : Handle σ) {call : Call}
    {fault : InputFault} (h : call.Refused fault) :
    (call.run service).runOn handle = (.error (.invalidInput fault), handle) := by
  cases h with
  | badViewName query asked unread =>
    have hplan : Service.plan query _ = .error _ :=
      Service.plan_eq_error_iff.2 ⟨_, asked, unread, rfl⟩
    exact Action.runOn_bind_error _ (Service.runOn_find_unplanned handle hplan)
  | notABatch doc => rfl
  | noIdentifier mem nameless =>
    have htargets := Service.targets_eq_error_iff.2 ⟨rfl, _, mem, nameless⟩
    exact Action.runOn_bind_error _ (Service.runOn_update_untargeted handle htargets)

/-! ## All other input

  Behind the checks there is no bad input to report.  As this is a matter of how the operations
  are put together, it is proved by following their parts. -/

/-- No error of a backend is seen as bad input. -/
theorem ServiceError.ofStore_ne_invalidInput (e : StoreError) (fault : InputFault) :
    ServiceError.ofStore e ≠ .invalidInput fault := by
  rw [ofStore]
  split <;> exact nofun

/-- No run of the operation ends with bad input. -/
def Operation.Accepts {σ α : Type} (operation : Operation σ α) : Prop :=
  ∀ handle fault, (operation.runOn handle).1 ≠ .error (.invalidInput fault)

namespace Operation

variable {σ α β : Type}

theorem accepts_pure (a : α) : Accepts (pure a : Operation σ α) :=
  fun _ _ => nofun

/-- Whatever a backend reports, it is not bad input. -/
theorem accepts_reported (action : Action (Handle σ) StoreError α) :
    Accepts (Service.reported action) := by
  intro handle fault h
  rw [Service.reported, Action.runOn_mapError] at h
  cases hrun : (action.runOn handle).1 with
  | ok a =>
    rw [hrun] at h
    cases h
  | error e =>
    rw [hrun] at h
    exact ServiceError.ofStore_ne_invalidInput e fault (Except.error.inj h)

/-- If no part refuses, the whole does not. -/
theorem Accepts.bind {x : Operation σ α} {f : α → Operation σ β} (hx : Accepts x)
    (hf : ∀ a, Accepts (f a)) : Accepts (x >>= f) := by
  intro handle fault
  have hfirst := hx handle fault
  rw [Action.runOn_bind]
  rcases hrun : x.runOn handle with ⟨e | a, next⟩
  · -- An error of the first part is an error of the whole, and it is none that refuses.
    rw [hrun] at hfirst
    exact fun h => hfirst (congrArg Except.error (Except.error.inj h))
  · exact hf a next fault

/-- Nor do any number of operations, one after another. -/
theorem accepts_each {f : α → Operation σ β} (hf : ∀ a, Accepts (f a)) :
    ∀ items, Accepts (Action.each f items)
  | [] => accepts_pure _
  | item :: rest => (hf item).bind fun _ => (accepts_each hf rest).bind fun _ => accepts_pure _

end Operation

namespace Service

open Operation

variable {σ : Type} (service : Service σ)

theorem accepts_get (id : String) : Accepts (service.get id) :=
  (accepts_reported _).bind fun _ => accepts_pure _

theorem accepts_patch (id : String) (data : Document) : Accepts (service.patch id data) :=
  (accepts_reported _).bind fun _ => accepts_get service id

theorem accepts_updateOne (id : String) (doc : Document) : Accepts (service.updateOne id doc) := by
  rw [updateOne]
  split
  · exact accepts_patch service id doc
  · exact (accepts_reported _).bind fun _ => accepts_get service id

/-- With a plan in hand, a find refuses nothing more. -/
theorem accepts_find {query : Document} {filters : Filters} {planned : Plan}
    (hplan : plan query filters = .ok planned) : Accepts (service.find query filters) := by
  rw [find, hplan]
  exact (accepts_pure planned).bind fun _ => (accepts_reported _).bind fun _ => accepts_pure _

/-- With targets for all documents, an update refuses nothing more. -/
theorem accepts_update {docs : List Document} {named : List (String × Document)}
    (htargets : targets docs = .ok named) : Accepts (service.update (.batch docs)) := by
  rw [update, htargets]
  exact (accepts_pure named).bind fun _ =>
    accepts_each (fun target : String × Document => accepts_updateOne service target.1 target.2) _

end Service

open Operation in
/-- An operation whose input is not refused does not report bad input. -/
theorem Call.accepts {σ : Type} (service : Service σ) {call : Call}
    (accepted : ∀ fault, ¬ call.Refused fault) : Accepts (call.run service) := by
  cases call with
  | connect => exact (accepts_reported _).bind fun _ => accepts_pure _
  | find query filters =>
    obtain ⟨planned, hplan⟩ := exists_plan accepted
    exact (service.accepts_find hplan).bind fun _ => accepts_pure _
  | get id => exact (service.accepts_get id).bind fun _ => accepts_pure _
  | create payload => exact (accepts_reported _).bind fun _ => accepts_pure _
  | patch id data => exact (service.accepts_patch id data).bind fun _ => accepts_pure _
  | update payload =>
    -- An update of one document is refused in any case.
    cases payload with
    | single doc => exact absurd (.notABatch doc) (accepted _)
    | batch docs =>
      obtain ⟨named, htargets⟩ := exists_targets accepted
      exact (service.accepts_update htargets).bind fun _ => accepts_pure _
  | remove id revision => exact (accepts_reported _).bind fun _ => accepts_pure _

/-- What is reported as bad input was refused. -/
theorem Call.refused_of_runOn_run {σ : Type} {service : Service σ} {handle : Handle σ} {call : Call}
    {fault : InputFault}
    (h : ((call.run service).runOn handle).1 = .error (.invalidInput fault)) :
    call.Refused fault := by
  -- Refused for another reason it would report that one, and accepted it would report none.
  by_cases hrefused : ∃ other, call.Refused other
  · obtain ⟨other, hother⟩ := hrefused
    rw [runOn_run_of_refused service handle hother] at h
    cases h
    exact hother
  · exact absurd h (accepts service (fun other hother => hrefused ⟨other, hother⟩) handle fault)

/-- **Input is refused before anything is done, and only bad input is.**  Over every backend,
    whatever it answers, and from every handle, opened or not: an operation reports bad input
    exactly if its input is refused, and then for the reason of the refusal.
    In that case the handle is the one from before: nothing was asked, nothing of a batch was
    applied, and the service is as open as it was. -/
theorem bad_input_iff_refused {σ : Type} (service : Service σ) (handle : Handle (Traced σ))
    (call : Call) (fault : InputFault) :
    let run := (call.run service.watched).runOn handle
    (run.1 = .error (.invalidInput fault) ↔ call.Refused fault) ∧
    (run.1 = .error (.invalidInput fault) →
      run.2 = handle ∧ run.2.store.trace = handle.store.trace) := by
  intro run
  have hrefused : call.Refused fault → run = (.error (.invalidInput fault), handle) :=
    Call.runOn_run_of_refused service.watched handle
  refine ⟨⟨Call.refused_of_runOn_run, fun h => ?_⟩, fun h => ?_⟩
  · rw [hrefused h]
  · rw [hrefused (Call.refused_of_runOn_run h)]
    exact ⟨rfl, rfl⟩

/-- Two documents, the second of which has an empty identifier. -/
def unnamedSecond : List Document :=
  [[(Field.id, .string "a"), ("size", .int32 1)], [(Field.id, .string ""), ("size", .int32 2)]]

/-- The first of them is not written, over a store in which it could be. -/
theorem unnamed_second_is_refused :
    let service : Service Store := ⟨Store.backend Store.countedToken, "item", {}⟩
    let handle : Handle (Traced Store) := ⟨⟨Store.empty true, []⟩, true⟩
    let run := ((Call.update (.batch unnamedSecond)).run service.watched).runOn handle
    run.1 = .error (.invalidInput .noIdentifier) ∧ run.2 = handle ∧
      run.2.store.trace = handle.store.trace := by
  intro service handle run
  have hspec := bad_input_iff_refused service handle (.update (.batch unnamedSecond)) .noIdentifier
  have hnameless : Document.Nameless [(Field.id, .string ""), ("size", .int32 2)] := by
    rw [← Document.namedBy?_eq_none_iff]
    decide
  have hmem : [(Field.id, .string ""), ("size", .int32 2)] ∈ unnamedSecond := by
    rw [unnamedSecond]
    exact List.mem_cons_of_mem _ List.mem_cons_self
  have hrefused := hspec.1.2 (.noIdentifier hmem hnameless)
  exact ⟨hrefused, hspec.2 hrefused⟩

end DocStore
