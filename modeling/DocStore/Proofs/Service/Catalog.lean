/-
  A client that knows nothing about revisions.

  Such a client creates single documents, reads them, patches them, updates them without a revision
  and removes them without one.  To it, a service over a store in memory is a table from identifiers
  to fields (`Catalog`).  `Catalog.answer` is the whole of what it needs to know: what each of its
  calls answers, and what it leaves in the table.

  The table and the store are kept side by side.  `Catalog.Mirrors` says what links them: under
  every identifier the table has the body that is held.  A call that is answered from such a pair
  leaves such a pair and is answered by both alike (`Catalog.follows`), and from that, by induction
  on the calls, so are all calls from the empty store on.
-/
import DocStore.Proofs.Service.Creation
import DocStore.Proofs.Service.Shared
import DocStore.Proofs.Service.Update

namespace DocStore

/-! ## The client

  Its calls are some of the operations, and of the answers it sees what is no revision. -/

/-- What a client asks that knows nothing about revisions. -/
inductive PlainCall where
  | create (doc : Document)
  | get (id : String)
  | patch (id : String) (data : Document)
  /-- Updates a batch of one document. -/
  | update (doc : Document)
  | remove (id : String)
deriving Inhabited

/-- What it sees of an answer: documents, or the identifier of what is gone. -/
inductive Sight where
  | shown (docs : List Document)
  | removed (id : String)
deriving Inhabited

/-- What of an answer is no revision. -/
def Reply.sight : Reply → Sight
  | .removed receipt => .removed receipt.id
  | reply => .shown reply.shown

namespace PlainCall

/-- The operation that is called. -/
def operation : PlainCall → Call
  | .create doc => .create (.single doc)
  | .get id => .get id
  | .patch id data => .patch id data
  | .update doc => .update (.batch [doc])
  | .remove id => .remove id none

/-- The call, with what the client sees of its answer. -/
def run {σ : Type} (service : Service σ) (call : PlainCall) : Operation σ Sight := do
  return (← call.operation.run service).sight

/-- No document repeats a field, and what is updated names no revision. -/
def Plain : PlainCall → Prop
  | .create doc => Entries.Distinct doc
  | .get _ => True
  | .patch _ data => Entries.Distinct data
  | .update doc => Entries.Distinct doc ∧ doc.get? Field.revision = none
  | .remove _ => True

instance : (call : PlainCall) → Decidable call.Plain
  | .create doc => inferInstanceAs (Decidable (Entries.Distinct doc))
  | .get _ => .isTrue trivial
  | .patch _ data => inferInstanceAs (Decidable (Entries.Distinct data))
  | .update doc =>
      inferInstanceAs (Decidable (Entries.Distinct doc ∧ doc.get? Field.revision = none))
  | .remove _ => .isTrue trivial

end PlainCall

/-! ## The table

  The specification.  It knows no revisions, no store and no services. -/

/-- Documents by identifier, each as its fields in order. -/
abbrev Catalog := Table Document

namespace Catalog

/-- Writes fields over those under an identifier: the fields that are there keep their positions,
    and new ones stand behind them. -/
def write (model : String) (catalog : Catalog) (id : String) (news : Document) :
    Except ServiceError Sight × Catalog :=
  match catalog.get? id with
  | some fields =>
      (.ok (.shown [Document.under (Entries.overlaid fields news.fields) id]),
        catalog.insert id (Entries.overlaid fields news.fields))
  | none => (.error (.notFound (StoreError.notFound id model).message), catalog)

/-- What a call is answered, and the table behind it, where this identifier is the one that would
    be generated. -/
def answer (model generated : String) (catalog : Catalog) :
    PlainCall → Except ServiceError Sight × Catalog
  | .create doc =>
      match catalog.get? (doc.filedAs generated) with
      | some _ =>
          (.error (.conflict (StoreError.conflict (doc.filedAs generated) model).message), catalog)
      | none =>
          (.ok (.shown [doc.fields.under (doc.filedAs generated)]),
            catalog.insert (doc.filedAs generated) doc.fields)
  | .get id =>
      match catalog.get? id with
      | some fields => (.ok (.shown [fields.under id]), catalog)
      | none => (.error (.notFound (StoreError.notFound id model).message), catalog)
  | .patch id data => write model catalog id data
  | .update doc =>
      match doc.namedBy? with
      | some id => write model catalog id doc
      | none => (.error (.invalidInput .noIdentifier), catalog)
  | .remove id =>
      match catalog.get? id with
      | some _ => (.ok (.removed id), catalog.erase id)
      | none => (.error (.notFound (StoreError.notFound id model).message), catalog)

/-- The answers to calls, one after another, and the table behind them.  Every call comes with the
    identifier that would be generated for it. -/
def answers (model : String) (catalog : Catalog) :
    List (PlainCall × String) → List (Except ServiceError Sight) × Catalog
  | [] => ([], catalog)
  | (call, generated) :: rest =>
      let (first, next) := catalog.answer model generated call
      let (others, last) := answers model next rest
      (first :: others, last)

/-- The table answers call after call, each from what the one before has left. -/
theorem answers_cons (model : String) (catalog : Catalog) (call : PlainCall) (generated : String)
    (rest : List (PlainCall × String)) :
    (catalog.answers model ((call, generated) :: rest)).1 =
      (catalog.answer model generated call).1 ::
        ((catalog.answer model generated call).2.answers model rest).1 := rfl

end Catalog

namespace Service

/-- The answers of a service to calls, one after another, and the handle behind them. -/
def answers {σ : Type} (service : Service σ) (handle : Handle σ) :
    List PlainCall → List (Except ServiceError Sight) × Handle σ
  | [] => ([], handle)
  | call :: rest =>
      let (first, next) := (call.run service).runOn handle
      let (others, last) := service.answers next rest
      (first :: others, last)

theorem answers_cons {σ : Type} (service : Service σ) (handle : Handle σ) (call : PlainCall)
    (rest : List PlainCall) :
    (service.answers handle (call :: rest)).1 =
      ((call.run service).runOn handle).1 ::
        (service.answers ((call.run service).runOn handle).2 rest).1 := rfl

/-- Each call with the identifier that the store would generate for it, which is the token that is
    drawn next. -/
def withGenerated (token : Nat → String) (service : Service Store) (handle : Handle Store) :
    List PlainCall → List (PlainCall × String)
  | [] => []
  | call :: rest =>
      (call, token handle.store.issued) ::
        withGenerated token service ((call.run service).runOn handle).2 rest

end Service

namespace Catalog

variable {token : Nat → String} {model id : String} {paginate : Paginate} {catalog : Catalog}
  {handle : Handle Store}

/-! ## What links table and store

  A call may leave everything as it was, put a document in its place, or remove one.  For each of
  these it is shown once that the link is kept; the calls have then to be sorted into them. -/

/-- The table has under every identifier the body that is held, and the handle is one that a
    service can have. -/
structure Mirrors (token : Nat → String) (model : String) (catalog : Catalog)
    (handle : Handle Store) : Prop where
  reached : Service.Reached token model handle
  bare : handle.store.Bare
  distinct : ∀ id fields, catalog.get? id = some fields → Entries.Distinct fields
  held : ∀ id, catalog.get? id = (handle.store.held? model id).map Record.body

theorem Mirrors.held?_none (h : Mirrors token model catalog handle)
    (hnone : catalog.get? id = none) : handle.store.held? model id = none := by
  rw [h.held] at hnone
  exact Option.map_eq_none_iff.1 hnone

/-- What the table has is held, under some revision. -/
theorem Mirrors.held?_some (h : Mirrors token model catalog handle) {fields : Document}
    (hsome : catalog.get? id = some fields) :
    ∃ record, handle.store.held? model id = some record ∧ record.body = fields := by
  rw [h.held] at hsome
  exact Option.map_eq_some_iff.1 hsome

/-- What is held under an identifier is shown as the fields that the table has. -/
theorem Mirrors.toPublic_shown (h : Mirrors token model catalog handle) {record : Record}
    (hheld : handle.store.held? model id = some record) :
    (record.shown id).toPublic = record.body.under id := by
  have hfields : catalog.get? id = some record.body := by
    rw [h.held, hheld]
    rfl
  rw [Record.toPublic_shown (h.bare model id record hheld),
    Entries.ofList_of_distinct (h.distinct id record.body hfields)]

/-- A run is answered like the table says and leaves what the table says; and if it failed, it
    left everything that is held as it was. -/
structure Follows (model : String) (expected : Except ServiceError Sight × Catalog)
    (handle : Handle Store) (run : Except ServiceError Sight × Handle Store) : Prop where
  answer : run.1 = expected.1
  held : ∀ id, expected.2.get? id = (run.2.store.held? model id).map Record.body
  failed : ∀ e, run.1 = .error e → ∀ n i, run.2.store.held? n i = handle.store.held? n i

/-- A run that leaves everything as it was follows a table that stays as it is. -/
theorem follows_of_same (h : Mirrors token model catalog handle)
    {outcome : Except ServiceError Sight} {next : Handle Store}
    (hheld : ∀ n i, next.store.held? n i = handle.store.held? n i) :
    Follows model (outcome, catalog) handle (outcome, next) := by
  refine ⟨rfl, fun id => ?_, fun _ _ => hheld⟩
  rw [hheld, h.held]

/-- A run that leaves a record in one place follows a table in which its body is put there. -/
theorem follows_of_written (h : Mirrors token model catalog handle) {sight : Sight}
    {next : Handle Store} {new : Record}
    (hheld : ∀ n i, next.store.held? n i =
      if n = model ∧ i = id then some new else handle.store.held? n i) :
    Follows model (.ok sight, catalog.insert id new.body) handle (.ok sight, next) := by
  refine ⟨rfl, fun i => ?_, fun e herror => nomatch herror⟩
  rw [Table.get?_insert, hheld]
  by_cases hi : i = id
  · rw [if_pos hi, if_pos ⟨rfl, hi⟩]
    rfl
  · rw [if_neg hi, if_neg fun hplace => hi hplace.2]
    exact h.held i

/-- Where a document is gone from both, the rest is as it was. -/
theorem follows_of_removed (h : Mirrors token model catalog handle) {sight : Sight}
    {next : Handle Store}
    (hheld : ∀ n i, next.store.held? n i =
      if n = model ∧ i = id then none else handle.store.held? n i) :
    Follows model (.ok sight, catalog.erase id) handle (.ok sight, next) := by
  refine ⟨rfl, fun i => ?_, fun e herror => nomatch herror⟩
  rw [Table.get?_erase, hheld]
  by_cases hi : i = id
  · rw [if_pos hi, if_pos ⟨rfl, hi⟩]
    rfl
  · rw [if_neg hi, if_neg fun hplace => hi hplace.2]
    exact h.held i

/-! ## One call

  By kind of call, from what is known about the operation on a document that is held and on one
  that is not. -/

/-- What the client sees of an operation that answers in this form. -/
theorem runOn_run {σ α : Type} {service : Service σ} {handle next : Handle σ} {call : PlainCall}
    {operation : Operation σ α} {outcome : Except ServiceError α}
    (hrun : operation.runOn handle = (outcome, next)) (form : α → Reply)
    (hform : call.operation.run service = (do return form (← operation))) :
    (call.run service).runOn handle = (outcome.map fun a => (form a).sight, next) := by
  have hreply : (call.operation.run service).runOn handle = (outcome.map form, next) := by
    rw [hform, Action.runOn_bind_pure, hrun]
  rw [PlainCall.run, Action.runOn_bind_pure, hreply]
  cases outcome <;> rfl

/-- A new document is put under its identifier, if that is free. -/
theorem follows_create (h : Mirrors token model catalog handle) (paginate : Paginate)
    {doc : Document} (distinct : Entries.Distinct doc) :
    Follows model (catalog.answer model (token handle.store.issued) (.create doc)) handle
      (((PlainCall.create doc).run (Service.overMemory token model paginate)).runOn handle) := by
  cases hcatalog : catalog.get? (doc.filedAs (token handle.store.issued)) with
  -- What the table does not have is not held, so the place is free.
  | none =>
    obtain ⟨next, hcreate, hheld⟩ :=
      Service.runOn_create_free h.reached paginate distinct (h.held?_none hcatalog)
    have hrun : ((PlainCall.create doc).run (Service.overMemory token model paginate)).runOn
        handle =
          (.ok (.shown [doc.fields.under (doc.filedAs (token handle.store.issued))]), next) :=
      runOn_run hcreate Reply.created rfl
    rw [answer, hcatalog, hrun]
    exact follows_of_written h hheld
  | some fields =>
    obtain ⟨record, htaken, -⟩ := h.held?_some hcatalog
    have hcreate := Service.runOn_create_taken h.reached paginate htaken
    have hrun : ((PlainCall.create doc).run (Service.overMemory token model paginate)).runOn
        handle = (.error (.conflict (StoreError.conflict
          (doc.filedAs (token handle.store.issued)) model).message), handle.settled model) :=
      runOn_run hcreate Reply.created rfl
    rw [answer, hcatalog, hrun]
    exact follows_of_same h (Service.held?_settled handle model)

/-- A get is answered alike. -/
theorem follows_get (h : Mirrors token model catalog handle) (paginate : Paginate)
    (generated id : String) :
    Follows model (catalog.answer model generated (.get id)) handle
      (((PlainCall.get id).run (Service.overMemory token model paginate)).runOn handle) := by
  cases hcatalog : catalog.get? id with
  | none =>
    have hget : ((Service.overMemory token model paginate).get id).runOn handle = _ :=
      Service.runOn_get_absent h.reached.get?_settled (h.held?_none hcatalog)
    have hrun : ((PlainCall.get id).run (Service.overMemory token model paginate)).runOn handle =
        (.error (.notFound (StoreError.notFound id model).message), handle.settled model) :=
      runOn_run hget Reply.document rfl
    rw [answer, hcatalog, hrun]
    exact follows_of_same h (Service.held?_settled handle model)
  | some fields =>
    obtain ⟨record, hheld, rfl⟩ := h.held?_some hcatalog
    have hget : ((Service.overMemory token model paginate).get id).runOn handle = _ :=
      Service.runOn_get hheld
    -- The table has the fields of what is held, so the same is shown.
    rw [h.toPublic_shown hheld] at hget
    have hrun : ((PlainCall.get id).run (Service.overMemory token model paginate)).runOn handle =
        (.ok (.shown [record.body.under id]), handle.settled model) :=
      runOn_run hget Reply.document rfl
    rw [answer, hcatalog, hrun]
    exact follows_of_same h (Service.held?_settled handle model)

/-- A patch over fields that the table has. -/
theorem Mirrors.runOn_patch_held (h : Mirrors token model catalog handle) (paginate : Paginate)
    {record : Record} (hheld : handle.store.held? model id = some record) {data : Document}
    (distinct : Entries.Distinct data) :
    ∃ next new, ((Service.overMemory token model paginate).patch id data).runOn handle =
        (.ok (Document.under (Entries.overlaid record.body data.fields) id), next) ∧
      new.body = Entries.overlaid record.body data.fields ∧
      ∀ n i, next.store.held? n i =
        if n = model ∧ i = id then some new else handle.store.held? n i := by
  have hbody : Entries.Distinct record.body := by
    refine h.distinct id record.body ?_
    rw [h.held, hheld]
    rfl
  have happlied : Applied model id (record.patched token handle.store.issued data) handle
      (((Service.overMemory token model paginate).patch id data).runOn handle) :=
    Service.patch_applied hheld data
  -- The body repeats no field, so it can be told what the fields written over it leave.
  have hnew : (record.patched token handle.store.issued data).body =
      Entries.overlaid record.body data.fields := by
    rw [Record.patched, Document.patchFields_eq,
      Entries.overlay_eq_overlaid hbody (Document.distinct_fields distinct)]
  have hbare : (record.patched token handle.store.issued data).body.Bare := by
    rw [Record.patched, Document.patchFields_eq]
    exact (h.bare model id record hheld).overlay (Document.bare_fields data)
  have hlist : Entries.ofList (record.patched token handle.store.issued data).body =
      Entries.overlaid record.body data.fields := by
    rw [← hnew]
    exact Entries.ofList_of_distinct (hbody.overlay _)
  have hshown := happlied.shown
  rw [Record.toPublic_shown hbare, hlist] at hshown
  exact ⟨_, _, Prod.ext hshown rfl, hnew, happlied.held⟩

/-- A patch of a document that is there is a write to both. -/
theorem follows_patch (h : Mirrors token model catalog handle) (paginate : Paginate)
    (generated id : String) {data : Document} (distinct : Entries.Distinct data) :
    Follows model (catalog.answer model generated (.patch id data)) handle
      (((PlainCall.patch id data).run (Service.overMemory token model paginate)).runOn handle) := by
  cases hcatalog : catalog.get? id with
  | none =>
    have hpatch : ((Service.overMemory token model paginate).patch id data).runOn handle = _ :=
      Service.runOn_patch_absent h.reached.get?_settled (h.held?_none hcatalog) data
    have hrun : ((PlainCall.patch id data).run (Service.overMemory token model paginate)).runOn
        handle = (.error (.notFound (StoreError.notFound id model).message),
          handle.settled model) := runOn_run hpatch Reply.document rfl
    rw [answer, write, hcatalog, hrun]
    exact follows_of_same h (Service.held?_settled handle model)
  | some fields =>
    obtain ⟨record, hheld, rfl⟩ := h.held?_some hcatalog
    obtain ⟨next, new, hpatch, hnew, hplace⟩ := h.runOn_patch_held paginate hheld distinct
    have hrun : ((PlainCall.patch id data).run (Service.overMemory token model paginate)).runOn
        handle = (.ok (.shown [Document.under (Entries.overlaid record.body data.fields) id]),
          next) := runOn_run hpatch Reply.document rfl
    rw [answer, write, hcatalog, hrun]
    -- What is held now is what the table says.
    dsimp only
    rw [← hnew]
    exact follows_of_written h hplace

/-- An update of one document that names no revision is seen like a patch of it. -/
theorem runOn_update_one {σ : Type} (service : Service σ) (handle : Handle σ) {doc : Document}
    (hnamed : doc.namedBy? = some id) (hrevision : doc.get? Field.revision = none) :
    ((PlainCall.update doc).run service).runOn handle =
      ((PlainCall.patch id doc).run service).runOn handle := by
  have hone : service.updateOne id doc = service.patch id doc := by
    rw [Service.updateOne, Document.revision?, hrevision]
    rfl
  have htargets : Service.targets [doc] = .ok [(id, doc)] := Service.targets_cons hnamed []
  -- The batch of one document is the patch, with its answer in a list.
  have hbatch : service.update (.batch [doc]) = (do return [← service.patch id doc]) := by
    rw [Service.update_batch service htargets, Action.each, hone, Action.each]
    simp only [pure_bind]
  rcases hpatch : (service.patch id doc).runOn handle with ⟨outcome, next⟩
  have hupdate : (service.update (.batch [doc])).runOn handle =
      (outcome.map fun one => [one], next) := by
    rw [hbatch, Action.runOn_bind_pure, hpatch]
  have hleft : ((PlainCall.update doc).run service).runOn handle =
      ((outcome.map fun one => [one]).map fun docs => (Reply.documents docs).sight, next) :=
    runOn_run hupdate Reply.documents rfl
  have hright : ((PlainCall.patch id doc).run service).runOn handle =
      (outcome.map fun one => (Reply.document one).sight, next) :=
    runOn_run hpatch Reply.document rfl
  rw [hleft, hright]
  cases outcome <;> rfl

/-- An update without a revision is a patch. -/
theorem follows_update (h : Mirrors token model catalog handle) (paginate : Paginate)
    (generated : String) {doc : Document} (distinct : Entries.Distinct doc)
    (hrevision : doc.get? Field.revision = none) :
    Follows model (catalog.answer model generated (.update doc)) handle
      (((PlainCall.update doc).run (Service.overMemory token model paginate)).runOn handle) := by
  cases hnamed : doc.namedBy? with
  | none =>
    have hrefused : ((Service.overMemory token model paginate).update (.batch [doc])).runOn handle =
        (.error (.invalidInput .noIdentifier), handle) := by
      rw [Service.update, Service.targets, hnamed]
      rfl
    have hrun : ((PlainCall.update doc).run (Service.overMemory token model paginate)).runOn
        handle = (.error (.invalidInput .noIdentifier), handle) :=
      runOn_run hrefused Reply.documents rfl
    rw [answer, hnamed, hrun]
    exact follows_of_same h fun _ _ => rfl
  | some id =>
    -- The table, too, takes the update for a patch.
    have hsame : catalog.answer model generated (.update doc) =
        catalog.answer model generated (.patch id doc) := by
      simp only [answer, hnamed]
    rw [hsame, runOn_update_one _ handle hnamed hrevision]
    exact follows_patch h paginate generated id distinct

/-- A removal without a revision looks for one, and finds that of what is there. -/
theorem follows_remove (h : Mirrors token model catalog handle) (paginate : Paginate)
    (generated id : String) :
    Follows model (catalog.answer model generated (.remove id)) handle
      (((PlainCall.remove id).run (Service.overMemory token model paginate)).runOn handle) := by
  cases hcatalog : catalog.get? id with
  | none =>
    have hremove : ((Service.overMemory token model paginate).remove id none).runOn handle = _ :=
      Service.runOn_remove_absent h.reached.get?_settled (h.held?_none hcatalog)
    have hrun : ((PlainCall.remove id).run (Service.overMemory token model paginate)).runOn
        handle = (.error (.notFound (StoreError.notFound id model).message),
          handle.settled model) := runOn_run hremove Reply.removed rfl
    rw [answer, hcatalog, hrun]
    exact follows_of_same h (Service.held?_settled handle model)
  | some fields =>
    obtain ⟨record, hheld, -⟩ := h.held?_some hcatalog
    -- What is held has a revision, so the one that is looked up can be used.
    have hwf := h.reached.wellFormed model id record hheld
    obtain ⟨next, hremove, hplace⟩ : ∃ next,
        ((Service.overMemory token model paginate).remove id none).runOn handle = (_, next) ∧ _ :=
      Service.runOn_remove_held hheld hwf
    have hrun : ((PlainCall.remove id).run (Service.overMemory token model paginate)).runOn
        handle = (.ok (.removed id), next) := runOn_run hremove Reply.removed rfl
    rw [answer, hcatalog, hrun]
    exact follows_of_removed h hplace

/-- **One call.**  It is answered like the table says. -/
theorem follows (h : Mirrors token model catalog handle) (paginate : Paginate) {call : PlainCall}
    (plain : call.Plain) :
    Follows model (catalog.answer model (token handle.store.issued) call) handle
      ((call.run (Service.overMemory token model paginate)).runOn handle) := by
  cases call with
  | create doc => exact follows_create h paginate plain
  | get id => exact follows_get h paginate _ id
  | patch id data => exact follows_patch h paginate _ id plain
  | update doc => exact follows_update h paginate _ plain.1 plain.2
  | remove id => exact follows_remove h paginate _ id

/-! ## One call after another

  Induction on the calls.  The table carries along that its documents repeat no field. -/

/-- Entries of the table repeat no key, the new one included. -/
theorem distinct_insert {fields : Document} (h : ∀ id fields, catalog.get? id = some fields →
    Entries.Distinct fields) (hfields : Entries.Distinct fields) {other : Document} {i : String}
    (hother : (catalog.insert id fields).get? i = some other) : Entries.Distinct other := by
  rw [Table.get?_insert] at hother
  split at hother
  · cases hother
    exact hfields
  · exact h i other hother

/-- A write of a document that repeats none leaves one that repeats none. -/
theorem distinct_write (h : ∀ id fields, catalog.get? id = some fields → Entries.Distinct fields)
    {news : Document} (hnews : Entries.Distinct news) :
    ∀ i fields, (write model catalog id news).2.get? i = some fields → Entries.Distinct fields := by
  intro i fields hget
  rw [write] at hget
  cases hcatalog : catalog.get? id with
  | none =>
    rw [hcatalog] at hget
    exact h i fields hget
  | some old =>
    rw [hcatalog] at hget
    refine distinct_insert h ?_ hget
    rw [← Entries.overlay_eq_overlaid (h id old hcatalog) (Document.distinct_fields hnews)]
    exact (h id old hcatalog).overlay _

/-- No call leaves a document that repeats a field. -/
theorem distinct_answer (h : ∀ id fields, catalog.get? id = some fields → Entries.Distinct fields)
    {call : PlainCall} (plain : call.Plain) (generated : String) :
    ∀ i fields, (catalog.answer model generated call).2.get? i = some fields →
      Entries.Distinct fields := by
  cases call with
  | create doc =>
    intro i fields hget
    rw [answer] at hget
    split at hget
    · exact h i fields hget
    · exact distinct_insert h (Document.distinct_fields plain) hget
  | get id =>
    intro i fields hget
    rw [answer] at hget
    split at hget
    · exact h i fields hget
    · exact h i fields hget
  -- A patch and an update with a name write over what is there.
  | patch id data => exact distinct_write h plain
  | update doc =>
    rw [answer]
    split
    · exact distinct_write h plain.1
    · exact h
  | remove id =>
    intro i fields hget
    rw [answer] at hget
    split at hget
    · dsimp only at hget
      rw [Table.get?_erase] at hget
      split at hget
      · cases hget
      · exact h i fields hget
    · exact h i fields hget

/-- Behind a call, table and store are linked again. -/
theorem Mirrors.next (h : Mirrors token model catalog handle) (paginate : Paginate)
    {call : PlainCall} (plain : call.Plain) :
    Mirrors token model (catalog.answer model (token handle.store.issued) call).2
      ((call.run (Service.overMemory token model paginate)).runOn handle).2 := by
  have hnext : ((call.run (Service.overMemory token model paginate)).runOn handle).2 =
      call.operation.next (Service.overMemory token model paginate) handle := by
    rw [PlainCall.run, Action.runOn_bind_pure, Call.snd_runOn_run]
  refine ⟨?_, ?_, distinct_answer h.distinct plain _, (follows h paginate plain).held⟩
  · rw [hnext]
    exact h.reached.next paginate call.operation
  · rw [hnext]
    exact Service.stable_bare.next h.bare paginate call.operation

/-- All calls are answered like the table says, and behind them table and store are linked. -/
theorem Mirrors.answers (h : Mirrors token model catalog handle) (paginate : Paginate)
    {calls : List PlainCall} (plain : ∀ call ∈ calls, call.Plain) :
    ((Service.overMemory token model paginate).answers handle calls).1 =
        (catalog.answers model (Service.withGenerated token
          (Service.overMemory token model paginate) handle calls)).1 ∧
      Mirrors token model
        (catalog.answers model (Service.withGenerated token
          (Service.overMemory token model paginate) handle calls)).2
        ((Service.overMemory token model paginate).answers handle calls).2 := by
  induction calls generalizing catalog handle with
  | nil => exact ⟨rfl, h⟩
  | cons call rest ih =>
    have hcall := plain call List.mem_cons_self
    obtain ⟨hothers, hlast⟩ := ih (h.next paginate hcall)
      fun other hmem => plain other (List.mem_cons_of_mem _ hmem)
    refine ⟨?_, hlast⟩
    rw [Service.answers_cons, Service.withGenerated, answers_cons,
      (follows h paginate hcall).answer, hothers]

end Catalog

/-- **A client that knows nothing about revisions sees a table.**  Ask a service over an empty
    store to create, get, patch, update and remove single documents, in any order.
    Every answer is the one that the table gives; behind all calls, the table has under every
    identifier the body that is held; and a call that fails then changes nothing of what is held. -/
theorem revision_free_client_sees_table (token : Nat → String) (model : String)
    (paginate : Paginate) (transientViews : Bool) {calls : List PlainCall}
    (plain : ∀ call ∈ calls, call.Plain) :
    let service := Service.overMemory token model paginate
    let start : Handle Store := ⟨Store.empty transientViews, false⟩
    let seen := service.answers start calls
    let expected :=
      Catalog.answers model Table.empty (Service.withGenerated token service start calls)
    seen.1 = expected.1 ∧
    (∀ id, expected.2.get? id = (seen.2.store.held? model id).map Record.body) ∧
    ∀ (call : PlainCall) (e : ServiceError), call.Plain →
      ((call.run service).runOn seen.2).1 = .error e →
        ∀ n i, ((call.run service).runOn seen.2).2.store.held? n i = seen.2.store.held? n i := by
  intro service start seen expected
  -- At the beginning both are empty.
  have hstart : Catalog.Mirrors token model Table.empty start := by
    refine ⟨.built (.empty transientViews), ?_, ?_, fun _ => rfl⟩
    · intro name id record hheld
      cases (Store.held?_empty transientViews name id).symm.trans hheld
    · intro id fields hget
      cases hget
  obtain ⟨hanswers, hlast⟩ := hstart.answers paginate plain
  refine ⟨hanswers, hlast.held, fun call e hcall herror => ?_⟩
  exact (Catalog.follows hlast paginate hcall).failed e herror

/-- A document is created under a name that is taken then, patched, updated, removed and looked
    for. -/
def plainSession : List PlainCall :=
  [.create [("_id", .string "a"), ("n", .int32 1), ("t", .null)],
   .create [("id", .string "a")],
   .patch "a" [("x", .bool true), ("_rev", .string "none"), ("n", .int32 2)],
   .update [("_id", .string "a"), ("t", .bool false)],
   .create [("n", .int32 3)],
   .remove "a",
   .get "a"]

/-- What its client sees. -/
theorem plainSession_answers :
    (∀ call ∈ plainSession, call.Plain) ∧
    ((Service.overMemory Store.countedToken "notes" {}).answers ⟨Store.empty true, false⟩
        plainSession).1 =
      [.ok (.shown [[("id", .string "a"), ("n", .int32 1), ("t", .null)]]),
       .error (.conflict (StoreError.conflict "a" "notes").message),
       .ok (.shown [[("id", .string "a"), ("n", .int32 2), ("t", .null), ("x", .bool true)]]),
       .ok (.shown [[("id", .string "a"), ("n", .int32 2), ("t", .bool false),
         ("x", .bool true)]]),
       .ok (.shown [[("id", .string (Store.countedToken 4)), ("n", .int32 3)]]),
       .ok (.removed "a"),
       .error (.notFound (StoreError.notFound "a" "notes").message)] := by
  have plain : ∀ call ∈ plainSession, call.Plain := by decide
  obtain ⟨answers, -, -⟩ := revision_free_client_sees_table Store.countedToken "notes" {} true plain
  -- What the table expects depends on the tokens drawn on the way, so the session is run for it.
  exact ⟨plain, answers.trans (by set_option maxRecDepth 2000 in rfl)⟩

end DocStore
