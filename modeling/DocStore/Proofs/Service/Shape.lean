/-
  The public shape of documents, over whole runs.

  Whatever services over a common store were asked to do, every document that one of them answers
  with has its identifier in front, as `id`, and none of the store's own fields.  And the identifier
  is the one under which the document is held (`Document.Shows`).

  A document is answered with in two ways.  Reading and writing show a record as a whole
  (`Handle.Reads`); finding shows what a view left of it.  Both keep the shape because no body that
  is held has a field under the names of identifier and revision, and that is so in every state that
  services reach (`Shared.Sound`).

  In a batch, a later document may be written to the place of an earlier one.  So what an element of
  the answer shows is what is held behind the element in its position (`Call.behind`); behind the
  whole batch its place still holds something.
-/
import DocStore.Proofs.Find.Rows
import DocStore.Proofs.Service.Creation
import DocStore.Proofs.Service.Shared
import DocStore.Proofs.Service.Update

namespace DocStore

/-! ## The shape

  A document has the shape because what is held is bare, and because neither a projection nor
  cutting down brings in a field. -/

/-- A document shows what is held under an identifier: the identifier is its first field, the
    store's own fields are missing, no field is repeated, and all others are fields of what is
    held. -/
structure Document.Shows (store : Store) (model id : String) (doc : Document) : Prop where
  first : doc.head? = some (Field.publicId, .string id)
  no_id : doc.get? Field.id = none
  no_revision : doc.get? Field.revision = none
  distinct : Entries.Distinct doc
  held : ∃ record, store.held? model id = some record ∧
    ∀ key value, key ≠ Field.publicId → doc.get? key = some value →
      (record.shown id).get? key = some value

namespace Document

variable {store : Store} {model id : String} {record : Record} {fields : Document}

/-- Bare fields under an identifier show what is held, if they are fields of it. -/
theorem shows_under (hheld : store.held? model id = some record) (hfields : fields.Bare)
    (hdistinct : Entries.Distinct fields)
    (hsub : ∀ key value, fields.get? key = some value →
      (record.shown id).get? key = some value) :
    Shows store model id (fields.under id) := by
  refine ⟨rfl, hfields.no_id, hfields.no_revision, ?_, record, hheld, ?_⟩
  · exact Entries.distinct_cons_iff.2 ⟨hfields.no_publicId, hdistinct⟩
  · intro key value hkey hget
    rw [under, Entries.get?_cons, if_neg (Ne.symm hkey)] at hget
    exact hsub key value hget

/-- A record as callers see it. -/
theorem shows_record (hheld : store.held? model id = some record) (hbare : record.body.Bare) :
    Shows store model id (record.shown id).toPublic := by
  rw [Record.toPublic_shown hbare]
  refine shows_under hheld hbare.ofList (Entries.distinct_ofList _) fun key value hget => ?_
  have hid : key ≠ Field.id := by
    rintro rfl
    cases hbare.ofList.no_id.symm.trans hget
  have hrevision : key ≠ Field.revision := by
    rintro rfl
    cases hbare.ofList.no_revision.symm.trans hget
  exact (Record.get?_shown hbare id hid hrevision).trans hget

/-- Cutting down keeps the identifier in front. -/
theorem cut_under (fields : Document) (id : String) (names : List String) :
    cut (some names) (fields.under id) =
      under (fields.filter fun field => field.1 == Field.publicId || names.contains field.1)
        id := by
  have hfirst : (Field.publicId == Field.publicId || names.contains Field.publicId) = true := by
    rw [beq_self_eq_true, Bool.true_or]
  rw [cut, under, List.filter_cons, if_pos hfirst]
  rfl

/-- What is cut to some fields still shows a held document. -/
theorem Shows.cut {doc : Document} (h : Shows store model id doc) (hdoc : doc = fields.under id)
    (select : Option (List String)) : Shows store model id (cut select doc) := by
  cases select with
  | none => exact h
  | some names =>
    obtain ⟨record, hheld, hsub⟩ := h.held
    refine ⟨?_, get?_cut_of_none h.no_id, get?_cut_of_none h.no_revision, h.distinct.filter _,
      record, hheld, fun key value hkey hget => ?_⟩
    · rw [hdoc, cut_under]
      rfl
    · rw [get?_cut] at hget
      split at hget
      · exact hsub key value hkey hget
      · cases hget

/-- What a view left of a record, as callers see it. -/
theorem shows_row {row : Row} {projection : Projection}
    (hheld : store.held? model row.id = some record) (hbare : record.body.Bare)
    (hrow : row.value = projection.apply (record.shown row.id)) (select : Option (List String)) :
    Shows store model row.id (row.toPublic select) := by
  have hid : row.value.get? Field.id = some (.string row.id) := by
    rw [hrow]
    exact Record.get?_id_apply hbare projection row.id
  have hshape : row.value.toPublic = under (record.projected projection row.id) row.id := by
    rw [hrow]
    exact Record.toPublic_apply hbare projection row.id
  have hall : Shows store model row.id row.value.toPublic := by
    rw [hshape]
    refine shows_under hheld (Record.bare_projected hbare projection row.id)
      (record.distinct_projected projection row.id) fun key value hget => ?_
    exact projection.get?_of_get?_apply (Record.get?_projected hget)
  rw [Row.toPublic_of_id hid]
  exact hall.cut hshape select

end Document

/-! ## Single documents

  What is answered with one document was read, be it behind a write. -/

/-- A document is what is read under an identifier. -/
def Handle.Reads (handle : Handle Store) (model id : String) (doc : Document) : Prop :=
  ∃ record, handle.store.held? model id = some record ∧ doc = (record.shown id).toPublic

/-- A document that was read shows what is held, in public form. -/
theorem Handle.Reads.shows {handle : Handle Store} {model id : String} {doc : Document}
    (h : handle.Reads model id doc) (hbare : handle.store.Bare) :
    Document.Shows handle.store model id doc := by
  obtain ⟨record, hheld, rfl⟩ := h
  exact Document.shows_record hheld (hbare model id record hheld)

namespace Service

variable {token : Nat → String} {model id : String} {paginate : Paginate}
  {handle next : Handle Store} {doc shown : Document}

/-- What is read is held, and reading it does no more than opening. -/
theorem held?_of_get (reached : Reached token model handle)
    (hrun : ((overMemory token model paginate).get id).runOn handle = (.ok doc, next)) :
    (∃ record, handle.store.held? model id = some record ∧ doc = (record.shown id).toPublic) ∧
      next = handle.settled model := by
  cases hheld : handle.store.held? model id with
  | none =>
    rw [runOn_get_absent reached.get?_settled hheld] at hrun
    cases hrun
  | some record =>
    rw [runOn_get hheld] at hrun
    cases hrun
    exact ⟨⟨record, rfl, rfl⟩, rfl⟩

/-- A get reads what is held behind it. -/
theorem reads_of_get (reached : Reached token model handle)
    (hrun : ((overMemory token model paginate).get id).runOn handle = (.ok doc, next)) :
    next.Reads model id doc := by
  obtain ⟨⟨record, hheld, rfl⟩, rfl⟩ := held?_of_get reached hrun
  exact ⟨record, (held?_settled handle model model id).trans hheld, rfl⟩

/-- So does what puts a record in its place and then gets it. -/
theorem reads_of_applied {new : Record} {run : Except ServiceError Document × Handle Store}
    (happlied : Applied model id new handle run) (hrun : run = (.ok doc, next)) :
    next.Reads model id doc := by
  subst hrun
  refine ⟨new, ?_, Except.ok.inj happlied.shown⟩
  exact happlied.held_self

/-- What is written either fails or is read behind the write. -/
theorem reads_of_written {run : Except ServiceError Document × Handle Store}
    (hcases : (∃ new, Applied model id new handle run) ∨ Refused handle run)
    (hrun : run = (.ok doc, next)) : next.Reads model id doc := by
  rcases hcases with ⟨new, happlied⟩ | hrefused
  · exact reads_of_applied happlied hrun
  · obtain ⟨e, hfailed⟩ := hrefused.failed
    rw [hrun] at hfailed
    cases hfailed

theorem reads_of_patch {data : Document}
    (hrun : ((overMemory token model paginate).patch id data).runOn handle = (.ok doc, next)) :
    next.Reads model id doc :=
  reads_of_written (patch_cases token model paginate handle id data) hrun

theorem reads_of_updateOne {target : Document}
    (hrun : ((overMemory token model paginate).updateOne id target).runOn handle =
      (.ok doc, next)) : next.Reads model id doc :=
  reads_of_written (updateOne_cases token model paginate handle id target) hrun

/-- A new document is read under some identifier behind its creation. -/
theorem reads_of_createOne
    (hrun : ((overMemory token model paginate).createOne doc).runOn handle = (.ok shown, next)) :
    ∃ id, next.Reads model id shown := by
  rw [createOne_eq, Action.runOn_bind_eq_ok_iff] at hrun
  obtain ⟨receipt, handle', hask, hshown⟩ := hrun
  cases hshown
  rw [runOn_ask] at hask
  cases hstep : handle.store.step token
      (.saveDocument model (doc.takeIdentifier.1.map filedUnder) doc.fields) with
  | error e =>
    rw [hstep] at hask
    cases hask
  | ok result =>
    obtain ⟨_, db, seq, -, hdb, -, rfl⟩ := Store.saveDocument_eq_ok_iff.1 hstep
    rw [hstep] at hask
    cases hask
    have hbare := Document.bare_fields doc
    -- What was stored is read under the identifier that the store has assigned.
    refine ⟨handle.store.assigned token (doc.takeIdentifier.1.map filedUnder),
      ⟨seq, Store.revisionText seq (token (handle.store.issued + 1)), Store.stripped doc.fields⟩,
      ?_, ?_⟩
    · exact (Store.held?_insert_place hdb (fun i => Table.get?_insert db _ i _) _ _).trans
        (if_pos ⟨rfl, rfl⟩)
    · rw [stripped_fields, Record.toPublic_shown hbare]
      exact Document.toPublic_insert_id hbare _

/-! ## What stays in use

  The documents of a batch are shown as each of them was read, and others are written behind it.
  Writes other than removals leave all places in use, which is what can still be said then. -/

/-- Something is held in a place. -/
def InUse (name id : String) (handle : Handle Store) : Prop :=
  (handle.store.held? name id).isSome

theorem inUse_of_held {name i : String} {record : Record}
    (hheld : handle.store.held? name i = some record) : InUse name i handle := by
  rw [InUse, hheld]
  rfl

/-- A write that leaves something in its place leaves all places in use. -/
theorem inUse_of_place {name i : String} {new : Record}
    (hheld : ∀ n i, next.store.held? n i =
      if n = model ∧ i = id then some new else handle.store.held? n i)
    (h : InUse name i handle) : InUse name i next := by
  rw [InUse, hheld]
  split
  · rfl
  · exact h

/-- A creation removes nothing. -/
theorem keeps_inUse_createOne (token : Nat → String) (model : String)
    (paginate : Paginate) (name i : String) (doc : Document) :
    Action.Keeps (InUse name i) ((overMemory token model paginate).createOne doc) := by
  rw [createOne_eq]
  refine .bind (fun handle h => ?_) fun _ => .pure _
  rw [runOn_ask]
  cases hstep : handle.store.step token
      (.saveDocument model (doc.takeIdentifier.1.map filedUnder) doc.fields) with
  | error e => exact h
  | ok result =>
    obtain ⟨_, db, seq, -, hdb, -, rfl⟩ := Store.saveDocument_eq_ok_iff.1 hstep
    exact inUse_of_place (Store.held?_insert_place hdb fun i => Table.get?_insert db _ i _) h

/-- Nor does an update. -/
theorem keeps_inUse_updateOne (token : Nat → String) (model : String)
    (paginate : Paginate) (name i id : String) (doc : Document) :
    Action.Keeps (InUse name i) ((overMemory token model paginate).updateOne id doc) := by
  intro handle h
  rcases updateOne_cases token model paginate handle id doc with ⟨new, happlied⟩ | hrefused
  · exact inUse_of_place happlied.held h
  · rw [InUse, hrefused.held]
    exact h

/-- If every element of a batch is read behind itself and leaves all places in use, then each is
    read behind the elements up to it, and its place is in use behind all of them. -/
theorem reads_of_each {ε α : Type} {f : α → Action (Handle Store) ε Document} {items : List α}
    {results : List Document} {n : Nat}
    (hreads : ∀ item before doc after, (f item).runOn before = (.ok doc, after) →
      ∃ id, after.Reads model id doc)
    (hkeeps : ∀ id item, Action.Keeps (InUse model id) (f item))
    (heach : (Action.each f items).runOn handle = (.ok results, next))
    (hdoc : results[n]? = some doc) :
    ∃ id behind,
      (Action.each f (items.take (n + 1))).runOn handle = (.ok (results.take (n + 1)), behind) ∧
      behind.Reads model id doc ∧ InUse model id next := by
  obtain ⟨item, before, behind, -, hone, hthrough, hrest⟩ := Action.each_position heach hdoc
  obtain ⟨id, record, hheld, hshown⟩ := hreads item before doc behind hone
  have hstays := Action.Keeps.each (hkeeps id) (items.drop (n + 1)) behind (inUse_of_held hheld)
  rw [hrest] at hstays
  exact ⟨id, behind, hthrough, ⟨record, hheld, hshown⟩, hstays⟩

/-! ## Operations

  By kind of operation, what an answer was made of. -/

/-- What is held where stays so in a find. -/
theorem held?_find (token : Nat → String) (model : String) (paginate : Paginate)
    (query : Document) (filters : Filters) (handle : Handle Store) (n i : String) :
    (((overMemory token model paginate).find query filters).runOn handle).2.store.held? n i =
      handle.store.held? n i := by
  rcases find_leaves token model paginate query filters handle with hleft | hleft
  · exact (Store.held?_congr hleft n i).trans (held?_settled handle model n i)
  · rw [hleft]

/-- Every document on a page shows what is held. -/
theorem shows_of_find {query : Document} {filters : Filters} {page : Page}
    (reached : Reached token model handle) (hbare : handle.store.Bare)
    (hrun : ((overMemory token model paginate).find query filters).runOn handle = (.ok page, next))
    (hdoc : doc ∈ page.data) :
    ∃ id, Document.Shows next.store model id doc := by
  -- A page is made of what is held before the call, and the call leaves that alone.
  have hheld : ∀ n i, next.store.held? n i = handle.store.held? n i := by
    intro n i
    rw [← held?_find token model paginate query filters handle, hrun]
  cases hplan : plan query filters with
  | error fault =>
    rw [runOn_find_unplanned handle hplan] at hrun
    cases hrun
  | ok planned =>
    rw [runOn_find_planned handle hplan] at hrun
    dsimp only at hrun
    rcases hresult : (planned.run (Store.backend token) model
        ⟨some (paginate.limit filters.limit), filters.skip.getD 0⟩).runOn
          (handle.settled model).store with ⟨_ | result, store⟩
    · rw [hresult] at hrun
      cases hrun
    · rw [hresult] at hrun
      cases hrun
      -- Sorting a page adds no document to it.
      have hshown : doc ∈ result.rows.map (·.toPublic filters.select) := by
        unfold pageOf at hdoc
        dsimp only at hdoc
        split at hdoc
        · exact List.mem_mergeSort.1 hdoc
        · exact hdoc
      obtain ⟨row, hrow, rfl⟩ := List.mem_map.1 hshown
      obtain ⟨record, projection, hrecord, hvalue⟩ :=
        Plan.rows_of_run (wellFormed_settled reached.wellFormed model) hresult hrow
      rw [held?_settled] at hrecord
      have hrecord' : store.held? model row.id = some record := (hheld model row.id).trans hrecord
      exact ⟨row.id, Document.shows_row hrecord' (hbare model row.id record hrecord) hvalue _⟩

/-- Behind its opening, a batch is one creation after another. -/
theorem each_of_create_batch {docs : List Document} {payload : Payload}
    (hrun : ((overMemory token model paginate).create (.batch docs)).runOn handle =
      (.ok payload, next)) :
    ∃ shown, payload = .batch shown ∧
      (Action.each (overMemory token model paginate).createOne docs).runOn
        (handle.settled model) = (.ok shown, next) := by
  rcases heach : (Action.each (overMemory token model paginate).createOne docs).runOn
      (handle.settled model) with ⟨_ | shown, last⟩
  · rw [runOn_create_batch heach] at hrun
    cases hrun
  · rw [runOn_create_batch heach] at hrun
    cases hrun
    exact ⟨shown, rfl, rfl⟩

theorem createOne_of_create_single {payload : Payload}
    (hrun : ((overMemory token model paginate).create (.single doc)).runOn handle =
      (.ok payload, next)) :
    ∃ shown, payload = .single shown ∧
      ((overMemory token model paginate).createOne doc).runOn (handle.settled model) =
        (.ok shown, next) := by
  rcases hone : ((overMemory token model paginate).createOne doc).runOn
      (handle.settled model) with ⟨_ | shown, last⟩
  · rw [runOn_create_single hone] at hrun
    cases hrun
  · rw [runOn_create_single hone] at hrun
    cases hrun
    exact ⟨shown, rfl, rfl⟩

/-- The targets of the front of a batch are the first targets of the batch. -/
theorem targets_take {docs : List Document} {named : List (String × Document)}
    (h : targets docs = .ok named) (n : Nat) : targets (docs.take n) = .ok (named.take n) := by
  induction docs generalizing named n with
  | nil =>
    cases h
    rw [List.take_nil, List.take_nil]
    rfl
  | cons doc rest ih =>
    obtain ⟨id, others, hid, hothers, rfl⟩ := targets_cons_eq_ok_iff.1 h
    cases n with
    | zero => rfl
    | succ n =>
      rw [List.take_succ_cons, targets_cons hid, ih hothers n]
      rfl

/-- An update that succeeds had a batch, targets, and one update after another. -/
theorem each_of_update {payload : Payload} {results : List Document}
    (hrun : ((overMemory token model paginate).update payload).runOn handle = (.ok results, next)) :
    ∃ docs named, payload = .batch docs ∧ targets docs = .ok named ∧
      (Action.each (fun target : String × Document =>
        (overMemory token model paginate).updateOne target.1 target.2) named).runOn handle =
          (.ok results, next) := by
  cases payload with
  | single doc => cases hrun
  | batch docs =>
    cases hnamed : targets docs with
    | error fault =>
      rw [update, hnamed] at hrun
      cases hrun
    | ok named =>
      rw [update_batch _ hnamed] at hrun
      exact ⟨docs, named, rfl, hnamed, hrun⟩

end Service

/-! ## Answers

  One statement for all operations and all positions in an answer. -/

namespace Call

/-- The handle behind the document of an answer: behind its element in a batch that is written, and
    behind the operation in all other cases. -/
def behind {σ : Type} (service : Service σ) (handle : Handle σ) (n : Nat) : Call → Handle σ
  | .create (.batch docs) => Call.next service handle (.create (.batch (docs.take (n + 1))))
  | .update (.batch docs) => Call.next service handle (.update (.batch (docs.take (n + 1))))
  | call => call.next service handle

variable {token : Nat → String} {model : String} {paginate : Paginate}
  {handle next : Handle Store} {reply : Reply} {n : Nat} {doc : Document}

/-- Behind every element of a batch that is written, nothing that is held has a field under the
    names of identifier and revision. -/
theorem bare_behind (token : Nat → String) (model : String) (paginate : Paginate)
    (hbare : handle.store.Bare) (n : Nat) (call : Call) :
    (call.behind (Service.overMemory token model paginate) handle n).store.Bare := by
  have stable : Service.Stable token model fun handle => handle.store.Bare := Service.stable_bare
  unfold behind
  split
  · exact stable.next hbare paginate _
  · exact stable.next hbare paginate _
  · exact stable.next hbare paginate _

/-- A document of a batch that was created is read behind its element, and its place stays in
    use. -/
theorem reads_of_create {docs : List Document} {payload : Payload}
    (hrun : ((Service.overMemory token model paginate).create (.batch docs)).runOn handle =
      (.ok payload, next)) (hdoc : (Reply.created payload).shown[n]? = some doc) :
    ∃ id, (behind (Service.overMemory token model paginate) handle n
        (.create (.batch docs))).Reads model id doc ∧ Service.InUse model id next := by
  obtain ⟨shown, rfl, heach⟩ := Service.each_of_create_batch hrun
  have hone : ∀ item before doc after,
      ((Service.overMemory token model paginate).createOne item).runOn before = (.ok doc, after) →
        ∃ id, after.Reads model id doc :=
    fun _ _ _ _ hitem => Service.reads_of_createOne hitem
  have hposition : shown[n]? = some doc := hdoc
  obtain ⟨id, after, hthrough, hreads, hused⟩ := Service.reads_of_each hone
    (Service.keeps_inUse_createOne token model paginate model) heach hposition
  have hbehind : behind (Service.overMemory token model paginate) handle n
      (.create (.batch docs)) = after :=
    congrArg Prod.snd (Service.runOn_create_batch hthrough)
  exact ⟨id, hbehind ▸ hreads, hused⟩

/-- A document of a batch that was updated is read behind its element, and its place stays in
    use. -/
theorem reads_of_update {payload : Payload} {results : List Document}
    (hrun : ((Service.overMemory token model paginate).update payload).runOn handle =
      (.ok results, next)) (hdoc : results[n]? = some doc) :
    ∃ id, (behind (Service.overMemory token model paginate) handle n
        (.update payload)).Reads model id doc ∧ Service.InUse model id next := by
  obtain ⟨docs, named, rfl, hnamed, heach⟩ := Service.each_of_update hrun
  have hone : ∀ (target : String × Document) before doc after,
      ((Service.overMemory token model paginate).updateOne target.1 target.2).runOn before =
        (.ok doc, after) → ∃ id, after.Reads model id doc :=
    fun target _ _ _ htarget => ⟨target.1, Service.reads_of_updateOne htarget⟩
  have hkeeps : ∀ id (target : String × Document), Action.Keeps (Service.InUse model id)
      ((Service.overMemory token model paginate).updateOne target.1 target.2) :=
    fun id target => Service.keeps_inUse_updateOne token model paginate model id _ _
  obtain ⟨id, after, hthrough, hreads, hused⟩ :=
    Service.reads_of_each hone hkeeps heach hdoc
  -- The update of the elements up to this one leads to the handle behind it.
  have hbehind : behind (Service.overMemory token model paginate) handle n
      (.update (.batch docs)) = after := by
    show (((Service.overMemory token model paginate).update
      (.batch (docs.take (n + 1)))).runOn handle).2 = after
    rw [Service.update_batch _ (Service.targets_take hnamed (n + 1)), hthrough]
  exact ⟨id, hbehind ▸ hreads, hused⟩

/-- Every document of an answer shows what is held behind it, under an identifier that stays in
    use. -/
theorem shows_of_run (reached : Service.Reached token model handle) (hbare : handle.store.Bare)
    {call : Call}
    (hrun : (call.run (Service.overMemory token model paginate)).runOn handle = (.ok reply, next))
    (hdoc : reply.shown[n]? = some doc) :
    ∃ id, Document.Shows
        (call.behind (Service.overMemory token model paginate) handle n).store model id doc ∧
      Service.InUse model id next := by
  have hbehind := bare_behind token model paginate hbare n call
  -- What shows a record behind the whole operation leaves its place in use.
  have whole : ∀ id, call.behind (Service.overMemory token model paginate) handle n = next →
      Document.Shows next.store model id doc → ∃ id, Document.Shows
        (call.behind (Service.overMemory token model paginate) handle n).store model id doc ∧
          Service.InUse model id next := by
    intro id hnext hshows
    obtain ⟨record, hheld, -⟩ := hshows.held
    rw [hnext]
    exact ⟨id, hshows, Service.inUse_of_held hheld⟩
  have hsnd : call.next (Service.overMemory token model paginate) handle = next := by
    rw [← snd_runOn_run, hrun]
  cases call with
  | connect =>
    obtain ⟨_, _, -, hpure⟩ := Action.runOn_bind_eq_ok_iff.1 hrun
    cases hpure
    cases hdoc
  | find query filters =>
    obtain ⟨page, _, hfind, hpure⟩ := Action.runOn_bind_eq_ok_iff.1 hrun
    cases hpure
    obtain ⟨id, hshows⟩ := Service.shows_of_find reached hbare hfind (List.mem_of_getElem? hdoc)
    exact whole id hsnd hshows
  | get id =>
    obtain ⟨shown, _, hget, hpure⟩ := Action.runOn_bind_eq_ok_iff.1 hrun
    cases hpure
    obtain rfl : doc = shown := List.mem_singleton.1 (List.mem_of_getElem? hdoc)
    have hreads := Service.reads_of_get reached hget
    exact whole id hsnd (hreads.shows (hsnd ▸ hbehind))
  | create payload =>
    obtain ⟨answer, _, hcreate, hpure⟩ := Action.runOn_bind_eq_ok_iff.1 hrun
    cases hpure
    cases payload with
    | single item =>
      obtain ⟨shown, rfl, hone⟩ := Service.createOne_of_create_single hcreate
      obtain rfl : doc = shown := List.mem_singleton.1 (List.mem_of_getElem? hdoc)
      obtain ⟨id, hreads⟩ := Service.reads_of_createOne hone
      exact whole id hsnd (hreads.shows (hsnd ▸ hbehind))
    | batch docs =>
      obtain ⟨id, hreads, hused⟩ := reads_of_create hcreate hdoc
      exact ⟨id, hreads.shows hbehind, hused⟩
  | patch id data =>
    obtain ⟨shown, _, hpatch, hpure⟩ := Action.runOn_bind_eq_ok_iff.1 hrun
    cases hpure
    obtain rfl : doc = shown := List.mem_singleton.1 (List.mem_of_getElem? hdoc)
    have hreads := Service.reads_of_patch hpatch
    exact whole id hsnd (hreads.shows (hsnd ▸ hbehind))
  | update payload =>
    obtain ⟨results, _, hupdate, hpure⟩ := Action.runOn_bind_eq_ok_iff.1 hrun
    cases hpure
    obtain ⟨id, hreads, hused⟩ := reads_of_update hupdate hdoc
    exact ⟨id, hreads.shows hbehind, hused⟩
  | remove id revision =>
    obtain ⟨_, _, -, hpure⟩ := Action.runOn_bind_eq_ok_iff.1 hrun
    cases hpure
    cases hdoc

end Call

/-- **Documents have the public shape in every run.**  Whatever turns any number of services took
    over one store, from the empty store on: no body that is held has a field under `_id`, `_rev` or
    `id`.  And whatever one of the services is asked next, every document that it answers with shows
    what is held under an identifier, with that in front as `id` and without `_id` and `_rev`; and
    the identifier is in use behind the answer. -/
theorem shared_runs_keep_public_shape (token : Nat → String) (services : Nat → Service.Settings)
    (transientViews : Bool) (turns : List (Nat × Call)) :
    let shared := (Shared.empty transientViews).run token services turns
    (∀ name id record, shared.store.held? name id = some record →
      record.body.get? "_id" = none ∧ record.body.get? "_rev" = none ∧
        record.body.get? "id" = none) ∧
    ∀ i call reply next,
      (Call.run ((services i).over token) call).runOn (shared.handle i) = (.ok reply, next) →
      ∀ n doc, reply.shown[n]? = some doc →
        ∃ id, Document.Shows (call.behind ((services i).over token) (shared.handle i) n).store
            (services i).model id doc ∧
          Service.InUse (services i).model id next := by
  intro shared
  have sound : shared.Sound token services transientViews :=
    (Shared.sound_empty token services transientViews).run turns
  constructor
  · intro name id record hheld
    have hbare := sound.bare name id record hheld
    exact ⟨hbare.no_id, hbare.no_revision, hbare.no_publicId⟩
  · intro i call reply next hrun n doc hdoc
    exact Call.shows_of_run (sound.reached i) sound.bare hrun hdoc

/-- Two services with one model. -/
def twoServices : Nat → Service.Settings :=
  fun _ => ⟨"notes", {}⟩

/-- One of them creates a document that carries all names of identifier and revision, the other one
    patches it with more of them. -/
def twoTurns : List (Nat × Call) :=
  [(0, .create (.single [("_id", .string "a"), ("id", .string "b"), ("_rev", .string "c"),
    ("n", .int32 1)])),
   (1, .patch "a" [("id", .string "d"), ("_rev", .int32 0), ("n", .int32 2)])]

/-- A find of the first one then shows the document under the identifier of its creation, whatever
    it selects. -/
theorem found_behind_two_turns :
    let shared := (Shared.empty true).run Store.countedToken twoServices twoTurns
    let call : Call := .find [] ⟨none, none, none, some ["_id", "_rev", "n"], none⟩
    ∃ next, (Call.run ((twoServices 0).over Store.countedToken) call).runOn (shared.handle 0) =
        (.ok (.page ⟨1, 100, 0, [[("id", .string "a"), ("n", .int32 2)]]⟩), next) ∧
      ∃ id, Document.Shows (call.behind ((twoServices 0).over Store.countedToken)
          (shared.handle 0) 0).store "notes" id [("id", .string "a"), ("n", .int32 2)] ∧
        Service.InUse "notes" id next := by
  intro shared call
  obtain ⟨-, shows⟩ := shared_runs_keep_public_shape Store.countedToken twoServices true twoTurns
  have hrun : (Call.run ((twoServices 0).over Store.countedToken) call).runOn (shared.handle 0) =
      (.ok (.page ⟨1, 100, 0, [[("id", .string "a"), ("n", .int32 2)]]⟩),
        call.next ((twoServices 0).over Store.countedToken) (shared.handle 0)) :=
    Prod.ext rfl (Call.snd_runOn_run _ _ _)
  exact ⟨_, hrun, shows 0 call _ _ hrun 0 _ rfl⟩

end DocStore
