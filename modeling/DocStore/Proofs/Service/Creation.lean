/-
  Creating documents in batches.

  Every document of a batch is filed under the identifier that it gives, as such identifiers are
  filed, or else under a generated one.  `batchIds` lists these identifiers before anything is
  written: each save draws two tokens, so the supply tells which of them a later document gets.

  A batch meets a collision where an identifier is in use, be it in the store or by a document
  further in front.  `create_batch_is_positional` says that this is all that can go wrong, what is
  left where it does not go wrong, and what is left where it does.  The induction is on the batch.
  It carries the database in which the documents are filed and the number of tokens drawn.
-/
import Mathlib.Data.List.Induction
import DocStore.Proofs.Service.Single

namespace DocStore

/-- The record that a new document leaves. -/
def Record.created (token : Nat → String) (issued : Nat) (doc : Document) : Record :=
  ⟨1, Store.revisionText 1 (token (issued + 1)), doc.fields⟩

/-- The identifiers under which the documents of a batch are filed, in order, if this many tokens
    were drawn before. -/
def batchIds (token : Nat → String) : Nat → List Document → List String
  | _, [] => []
  | issued, doc :: rest => doc.filedAs (token issued) :: batchIds token (issued + 2) rest

/-- Every document draws two tokens, so the rest of a batch draws that much later. -/
theorem batchIds_append (token : Nat → String) (issued : Nat) (docs more : List Document) :
    batchIds token issued (docs ++ more) =
      batchIds token issued docs ++ batchIds token (issued + 2 * docs.length) more := by
  induction docs generalizing issued with
  | nil => rfl
  | cons doc rest ih =>
    have hdrawn : issued + 2 + 2 * rest.length = issued + 2 * (doc :: rest).length := by
      rw [List.length_cons]
      omega
    rw [List.cons_append, batchIds, ih, hdrawn]
    rfl

theorem length_batchIds (token : Nat → String) (issued : Nat) (docs : List Document) :
    (batchIds token issued docs).length = docs.length := by
  induction docs generalizing issued with
  | nil => rfl
  | cons doc rest ih => rw [batchIds, List.length_cons, List.length_cons, ih]

/-- The documents of a batch, each with the identifier under which it is filed. -/
def batchNews (token : Nat → String) (issued : Nat) (docs : List Document) :
    List (String × Document) :=
  (batchIds token issued docs).zip docs

theorem keys_batchNews (token : Nat → String) (issued : Nat) (docs : List Document) :
    (batchNews token issued docs).map Prod.fst = batchIds token issued docs :=
  List.map_fst_zip (Nat.le_of_eq (length_batchIds token issued docs))

/-- Identifiers do not collide: none is repeated and nothing is held under any of them. -/
def Handle.Free (handle : Handle Store) (model : String) (ids : List String) : Prop :=
  ids.Nodup ∧ ∀ id ∈ ids, handle.store.held? model id = none

/-- Every one of these documents is held under its identifier, with its fields as the body, and
    every other place holds what it held. -/
structure Filed (model : String) (news : List (String × Document)) (handle next : Handle Store) :
    Prop where
  new : ∀ id doc, (id, doc) ∈ news →
    ∃ record, next.store.held? model id = some record ∧ record.body = doc.fields
  old : ∀ n i, (n = model → i ∉ news.map Prod.fst) →
    next.store.held? n i = handle.store.held? n i

namespace Filed

variable {model : String} {news more : List (String × Document)} {handle mid next : Handle Store}

theorem nil (model : String) (handle : Handle Store) : Filed model [] handle handle where
  new _ _ hmem := nomatch hmem
  old _ _ _ := rfl

/-- What more of them leave behind the first ones, all of them together leave. -/
theorem append (h : Filed model news handle mid) (hmore : Filed model more mid next)
    (hnew : ∀ id ∈ news.map Prod.fst, id ∉ more.map Prod.fst) :
    Filed model (news ++ more) handle next where
  new id doc hmem := by
    rcases List.mem_append.1 hmem with hmem | hmem
    · -- No later document is filed in the place of an earlier one.
      obtain ⟨record, hheld, hbody⟩ := h.new id doc hmem
      refine ⟨record, ?_, hbody⟩
      rw [hmore.old model id fun _ => hnew id (List.mem_map_of_mem hmem)]
      exact hheld
    · exact hmore.new id doc hmem
  old n i hother := by
    rw [List.map_append] at hother
    have hparts : n = model → i ∉ news.map Prod.fst ∧ i ∉ more.map Prod.fst :=
      fun hn => not_or.1 fun hmem => hother hn (List.mem_append.2 hmem)
    rw [hmore.old n i fun hn => (hparts hn).2, h.old n i fun hn => (hparts hn).1]

/-- Behind the first ones, the others still do not collide. -/
theorem free (h : Filed model news handle next) {ids : List String}
    (hfree : handle.Free model (news.map Prod.fst ++ ids)) : next.Free model ids := by
  obtain ⟨hnodup, hnone⟩ := hfree
  obtain ⟨-, hids, hdisjoint⟩ := List.nodup_append.1 hnodup
  refine ⟨hids, fun id hmem => ?_⟩
  rw [h.old model id fun _ hnew => hdisjoint id hnew id hmem rfl]
  exact hnone id (List.mem_append_right _ hmem)

/-- What an opening leaves is held where it was. -/
theorem of_settled (h : Filed model news (handle.settled model) next) :
    Filed model news handle next :=
  ⟨h.new, fun n i hother => (h.old n i hother).trans (Service.held?_settled handle model n i)⟩

end Filed

namespace Service

variable {token : Nat → String} {model : String} {paginate : Paginate} {handle : Handle Store}
  {db : Database} {doc : Document}

/-! ## One document

  A creation is a save of the fields, so what comes of it is what comes of the save: the document
  is filed where nothing was held, and anything else is a conflict. -/

/-- The handle behind the creation of a document in this database. -/
def created (token : Nat → String) (model : String) (db : Database) (doc : Document)
    (handle : Handle Store) : Handle Store :=
  ⟨(handle.store.write db model (doc.filedAs (token handle.store.issued))
    (Record.created token handle.store.issued doc) 2).2, handle.ready⟩

theorem get?_created (token : Nat → String) (model : String) (db : Database) (doc : Document)
    (handle : Handle Store) :
    (created token model db doc handle).store.databases.get? model =
      some (db.insert (doc.filedAs (token handle.store.issued))
        (Record.created token handle.store.issued doc)) :=
  Table.get?_insert_self _ _ _

/-- It is held where it was filed, and elsewhere nothing has changed. -/
theorem held?_created (token : Nat → String)
    (hdb : handle.store.databases.get? model = some db) (doc : Document) (n i : String) :
    (created token model db doc handle).store.held? n i =
      if n = model ∧ i = doc.filedAs (token handle.store.issued) then
        some (Record.created token handle.store.issued doc)
      else handle.store.held? n i :=
  Store.held?_insert_place hdb (fun i => Table.get?_insert db _ i _) n i

/-- What is written of a new document are its fields. -/
theorem stripped_fields (doc : Document) : Store.stripped doc.fields = doc.fields := by
  have hbare := Document.bare_fields doc
  rw [Store.stripped, Entries.erase_of_get?_eq_none hbare.no_revision]
  exact Entries.erase_of_get?_eq_none hbare.no_id

/-- A creation asks for a save of the fields and shows them under the identifier that it used. -/
theorem createOne_eq (doc : Document) :
    (overMemory token model paginate).createOne doc = (do
      let receipt ← (overMemory token model paginate).ask
        (.saveDocument model (doc.takeIdentifier.1.map filedUnder) doc.fields)
      return Document.toPublic (doc.fields.insert Field.id (.string receipt.id))) := by
  rw [← Document.patchFields_eq]
  rfl

/-- A document whose identifier is free is stored and shown. -/
theorem runOn_createOne_free (paginate : Paginate)
    (hdb : handle.store.databases.get? model = some db)
    (distinct : Entries.Distinct doc)
    (hfree : handle.store.held? model (doc.filedAs (token handle.store.issued)) = none) :
    ((overMemory token model paginate).createOne doc).runOn handle =
      (.ok (doc.fields.under (doc.filedAs (token handle.store.issued))),
        created token model db doc handle) := by
  have hbare := Document.bare_fields doc
  have hplace : db.get? (handle.store.assigned token (doc.takeIdentifier.1.map filedUnder)) =
      none := (Store.held?_of_get? hdb _).symm.trans hfree
  have hsave := Store.saveDocument_of_free token handle.store hdb hplace hbare.no_revision
  rw [stripped_fields] at hsave
  -- So the store files the fields, and the receipt names their place.
  have hask : ((overMemory token model paginate).ask
      (.saveDocument model (doc.takeIdentifier.1.map filedUnder) doc.fields)).runOn handle =
        (.ok ⟨doc.filedAs (token handle.store.issued),
          Store.revisionText 1 (token (handle.store.issued + 1))⟩,
            created token model db doc handle) := by
    rw [runOn_ask, Store.step_saveDocument, hsave]
    rfl
  have hshown := Document.toPublic_insert_id hbare (doc.filedAs (token handle.store.issued))
  rw [Entries.ofList_of_distinct (Document.distinct_fields distinct)] at hshown
  rw [createOne_eq, Action.runOn_bind_ok _ hask, Action.runOn_pure, hshown]

/-- A document whose identifier is in use is a conflict and leaves no trace. -/
theorem runOn_createOne_taken (paginate : Paginate)
    (hdb : handle.store.databases.get? model = some db)
    {record : Record}
    (htaken : handle.store.held? model (doc.filedAs (token handle.store.issued)) = some record) :
    ((overMemory token model paginate).createOne doc).runOn handle =
      (.error (.conflict (doc.filedAs (token handle.store.issued)) model), handle) := by
  have hplace : db.get? (handle.store.assigned token (doc.takeIdentifier.1.map filedUnder)) =
      some record := (Store.held?_of_get? hdb _).symm.trans htaken
  have hsave := Store.saveDocument_of_taken token handle.store hdb hplace
    (Document.bare_fields doc).no_revision
  have hask : ((overMemory token model paginate).ask
      (.saveDocument model (doc.takeIdentifier.1.map filedUnder) doc.fields)).runOn handle =
        (.error (.conflict (doc.filedAs (token handle.store.issued)) model), handle) := by
    rw [runOn_ask, Store.step_saveDocument, hsave]
    rfl
  rw [createOne_eq, Action.runOn_bind_error _ hask]

/-- A single document is reported as what came of its creation. -/
theorem runOn_create_single {outcome : Except StoreError Document} {next : Handle Store}
    (hrun : ((overMemory token model paginate).createOne doc).runOn (handle.settled model) =
      (outcome, next)) :
    ((overMemory token model paginate).create (.single doc)).runOn handle =
      ((outcome.map Payload.single).mapError ServiceError.ofStore, next) := by
  rw [create, reported, Action.runOn_mapError, Action.runOn_bind_ok _ (runOn_opened handle),
    Action.runOn_bind_pure, hrun]

/-- A single document whose identifier is free is stored and shown. -/
theorem runOn_create_free (reached : Reached token model handle) (paginate : Paginate)
    (distinct : Entries.Distinct doc)
    (hfree : handle.store.held? model (doc.filedAs (token handle.store.issued)) = none) :
    ∃ next, ((overMemory token model paginate).create (.single doc)).runOn handle =
        (.ok (.single (doc.fields.under (doc.filedAs (token handle.store.issued)))), next) ∧
      ∀ n i, next.store.held? n i =
        if n = model ∧ i = doc.filedAs (token handle.store.issued) then
          some (Record.created token handle.store.issued doc)
        else handle.store.held? n i := by
  have hsettled := (held?_settled handle model model _).trans hfree
  rw [← handle.settled_issued model] at hsettled
  have hone := runOn_createOne_free paginate reached.get?_settled distinct hsettled
  have hheld := held?_created token reached.get?_settled doc
  rw [handle.settled_issued model] at hone hheld
  refine ⟨_, runOn_create_single hone, fun n i => ?_⟩
  rw [hheld, held?_settled]

/-- A single document whose identifier is in use is a conflict. -/
theorem runOn_create_taken (reached : Reached token model handle) (paginate : Paginate)
    {record : Record}
    (htaken : handle.store.held? model (doc.filedAs (token handle.store.issued)) = some record) :
    ((overMemory token model paginate).create (.single doc)).runOn handle =
      (.error (.conflict
        (StoreError.conflict (doc.filedAs (token handle.store.issued)) model).message),
          handle.settled model) := by
  have hsettled := (held?_settled handle model model _).trans htaken
  rw [← handle.settled_issued model] at hsettled
  have hone := runOn_createOne_taken paginate reached.get?_settled hsettled
  rw [handle.settled_issued model] at hone
  exact runOn_create_single hone

/-! ## One after another

  By induction on the batch.  Each document changes the database and draws two tokens, so the
  induction is over every database and every number of tokens drawn.  A collision is led back to
  the first document that meets one; up to there the batch is one without collisions. -/

/-- A document whose identifier is free is filed. -/
theorem filed_created (token : Nat → String) (hdb : handle.store.databases.get? model = some db)
    (doc : Document) :
    Filed model [(doc.filedAs (token handle.store.issued), doc)] handle
      (created token model db doc handle) where
  new id other hmem := by
    cases List.mem_singleton.1 hmem
    exact ⟨_, (held?_created token hdb _ _ _).trans (if_pos ⟨rfl, rfl⟩), rfl⟩
  old n i hother := by
    refine (held?_created token hdb doc n i).trans (if_neg ?_)
    rintro ⟨hn, rfl⟩
    exact hother hn (List.mem_singleton.2 rfl)

/-- Documents that do not collide are all stored and shown. -/
theorem runOn_each_createOne (paginate : Paginate)
    (hdb : handle.store.databases.get? model = some db)
    {docs : List Document} (distinct : ∀ doc ∈ docs, Entries.Distinct doc)
    (hfree : handle.Free model (batchIds token handle.store.issued docs)) :
    ∃ next,
      (Action.each (overMemory token model paginate).createOne docs).runOn handle =
        (.ok (List.zipWith (fun id doc => doc.fields.under id)
          (batchIds token handle.store.issued docs) docs), next) ∧
      Filed model (batchNews token handle.store.issued docs) handle next ∧
      next.store.issued = handle.store.issued + 2 * docs.length ∧
      ∃ db, next.store.databases.get? model = some db := by
  induction docs generalizing handle db with
  | nil =>
    exact ⟨handle, rfl, .nil model handle, rfl, db, hdb⟩
  | cons doc rest ih =>
    -- The first document is filed; the rest meets what that leaves.
    have hone := runOn_createOne_free paginate hdb
      (distinct doc List.mem_cons_self) (hfree.2 _ List.mem_cons_self)
    have hfirst := filed_created token hdb doc
    obtain ⟨next, hrun, hfiled, hissued, hnext⟩ := ih
      (get?_created token model db doc handle)
      (fun other hmem => distinct other (List.mem_cons_of_mem _ hmem)) (hfirst.free hfree)
    have hnew : doc.filedAs (token handle.store.issued) ∉
        (batchNews token (handle.store.issued + 2) rest).map Prod.fst := by
      rw [keys_batchNews]
      exact (List.nodup_cons.1 hfree.1).1
    refine ⟨next, ?_, hfirst.append hfiled ?_, ?_, hnext⟩
    · rw [Action.each, Action.runOn_bind_ok _ hone, Action.runOn_bind_ok _ hrun]
      rfl
    · intro id hmem
      rwa [List.mem_singleton.1 hmem]
    · have hdrawn : (created token model db doc handle).store.issued =
          handle.store.issued + 2 := rfl
      rw [hissued, hdrawn, List.length_cons]
      omega

/-- If there is a collision, there is a first document that meets one. -/
theorem exists_first_collision {docs : List Document} {issued : Nat}
    (hfree : ¬ handle.Free model (batchIds token issued docs)) :
    ∃ earlier doc later, docs = earlier ++ doc :: later ∧
      handle.Free model (batchIds token issued earlier) ∧
      ¬ handle.Free model (batchIds token issued (earlier ++ [doc])) := by
  induction docs using List.reverseRecOn with
  | nil =>
    refine absurd ⟨List.nodup_nil, ?_⟩ hfree
    intro id hmem
    cases hmem
  -- The first collision is in front, or the last document meets it.
  | append_singleton docs last ih =>
    by_cases hearlier : handle.Free model (batchIds token issued docs)
    · exact ⟨docs, last, [], rfl, hearlier, hfree⟩
    · obtain ⟨earlier, doc, later, rfl, hfirst, hsecond⟩ := ih hearlier
      refine ⟨earlier, doc, later ++ [last], ?_, hfirst, hsecond⟩
      rw [List.append_assoc, List.cons_append]

/-- The document that meets the first collision has an identifier that a document in front of it
    got, or under which something was held. -/
theorem collides {earlier : List Document} {issued : Nat}
    (hearlier : handle.Free model (batchIds token issued earlier))
    (hdoc : ¬ handle.Free model (batchIds token issued (earlier ++ [doc]))) :
    doc.filedAs (token (issued + 2 * earlier.length)) ∈ batchIds token issued earlier ∨
      ∃ record, handle.store.held? model (doc.filedAs (token (issued + 2 * earlier.length))) =
        some record := by
  by_contra hnone
  obtain ⟨hnew, hnothing⟩ := not_or.1 hnone
  -- Otherwise all of them together would be free.
  apply hdoc
  rw [batchIds_append]
  constructor
  · refine List.nodup_append.2 ⟨hearlier.1, List.nodup_singleton _, ?_⟩
    intro id hmem other hother heq
    rw [batchIds, batchIds, List.mem_singleton] at hother
    rw [heq, hother] at hmem
    exact hnew hmem
  · intro id hmem
    rcases List.mem_append.1 hmem with hmem | hmem
    · exact hearlier.2 id hmem
    · rw [batchIds, batchIds, List.mem_singleton] at hmem
      rw [hmem]
      exact Option.eq_none_iff_forall_ne_some.2 fun record hheld => hnothing ⟨record, hheld⟩

/-- Behind documents that were filed, what collides with them or met something before is taken. -/
theorem taken_of_filed {issued : Nat} {docs : List Document} {next : Handle Store} {id : String}
    (hfiled : Filed model (batchNews token issued docs) handle next)
    (hcollides : id ∈ batchIds token issued docs ∨
      ∃ record, handle.store.held? model id = some record) :
    ∃ record, next.store.held? model id = some record := by
  by_cases hmem : id ∈ (batchNews token issued docs).map Prod.fst
  · obtain ⟨⟨other, doc⟩, hentry, rfl⟩ := List.mem_map.1 hmem
    obtain ⟨record, hheld, -⟩ := hfiled.new other doc hentry
    exact ⟨record, hheld⟩
  · -- A place that was not filed in holds what it held.
    rw [hfiled.old model id fun _ => hmem]
    rw [keys_batchNews] at hmem
    exact hcollides.resolve_left hmem

/-- The first document that meets a collision ends the batch, and what stood in front of it
    stays. -/
theorem runOn_each_createOne_collision (paginate : Paginate)
    (hdb : handle.store.databases.get? model = some db)
    {earlier : List Document} (distinct : ∀ doc ∈ earlier, Entries.Distinct doc)
    (hearlier : handle.Free model (batchIds token handle.store.issued earlier))
    (hdoc : ¬ handle.Free model (batchIds token handle.store.issued (earlier ++ [doc])))
    (later : List Document) :
    (Action.each (overMemory token model paginate).createOne (earlier ++ doc :: later)).runOn
        handle =
      (.error (.conflict
          (doc.filedAs (token (handle.store.issued + 2 * earlier.length))) model),
        ((Action.each (overMemory token model paginate).createOne earlier).runOn handle).2) := by
  obtain ⟨next, hrun, hfiled, hissued, db', hnext⟩ :=
    runOn_each_createOne paginate hdb distinct hearlier
  obtain ⟨record, htaken⟩ := taken_of_filed hfiled (collides hearlier hdoc)
  rw [← hissued] at htaken
  have hone := runOn_createOne_taken paginate hnext htaken
  -- Run the documents in front, and then the one that finds its place taken.
  rw [Action.each_append, Action.runOn_bind_ok _ hrun, hrun, ← hissued]
  refine Action.runOn_bind_error _ ?_
  rw [Action.each]
  exact Action.runOn_bind_error _ hone

/-! ## Batches

  The same behind an opening, which holds nothing and draws nothing. -/

/-- A batch opens the database and handles its documents one after another. -/
theorem runOn_create_batch {docs : List Document} {outcome : Except StoreError (List Document)}
    {next : Handle Store}
    (hrun : (Action.each (overMemory token model paginate).createOne docs).runOn
      (handle.settled model) = (outcome, next)) :
    ((overMemory token model paginate).create (.batch docs)).runOn handle =
      ((outcome.map Payload.batch).mapError ServiceError.ofStore, next) := by
  rw [create, reported, Action.runOn_mapError, Action.runOn_bind_ok _ (runOn_opened handle),
    Action.runOn_bind_pure, hrun]

/-- Opening takes no identifier. -/
theorem free_settled {ids : List String} (hfree : handle.Free model ids) :
    (handle.settled model).Free model ids := by
  refine ⟨hfree.1, fun id hmem => ?_⟩
  rw [held?_settled]
  exact hfree.2 id hmem

theorem not_free_settled {ids : List String} (hfree : ¬ handle.Free model ids) :
    ¬ (handle.settled model).Free model ids := by
  rintro ⟨hnodup, hnone⟩
  refine hfree ⟨hnodup, fun id hmem => ?_⟩
  rw [← held?_settled handle model]
  exact hnone id hmem

/-- Whatever is held with the fields of a document is read as that document was shown. -/
theorem get_of_filed {news : List (String × Document)} {next later : Handle Store} {id : String}
    (hfiled : Filed model news handle next) (hentry : (id, doc) ∈ news)
    (distinct : Entries.Distinct doc)
    (hlater : later.store.held? model id = next.store.held? model id) :
    (((overMemory token model paginate).get id).runOn later).1 = .ok (doc.fields.under id) := by
  obtain ⟨record, hheld, hbody⟩ := hfiled.new id doc hentry
  have hbare : record.body.Bare := hbody ▸ Document.bare_fields doc
  have hshown := Record.toPublic_shown hbare id
  rw [hbody, Entries.ofList_of_distinct (Document.distinct_fields distinct)] at hshown
  rw [runOn_get (hlater.trans hheld), hshown]

end Service

/-- A batch was created as a whole: every document is shown with its identifier in front and its
    fields behind it, each in its position, all are stored, and each is read as it was shown for as
    long as nobody writes to its place. -/
structure BatchCreated (token : Nat → String) (model : String) (paginate : Paginate)
    (docs : List Document) (handle : Handle Store)
    (run : Except ServiceError Payload × Handle Store) : Prop where
  shown : run.1 = .ok (.batch (List.zipWith (fun id doc => doc.fields.under id)
    (batchIds token handle.store.issued docs) docs))
  filed : Filed model (batchNews token handle.store.issued docs) handle run.2
  read : ∀ id doc, (id, doc) ∈ batchNews token handle.store.issued docs →
    ∀ later : Handle Store, later.store.held? model id = run.2.store.held? model id →
      (((Service.overMemory token model paginate).get id).runOn later).1 =
        .ok (doc.fields.under id)

/-- A batch ended at a document, the first that met a collision: it is reported as a conflict, and
    what is left is what the documents in front of it leave as a batch of their own. -/
structure BatchStopped (token : Nat → String) (model : String) (paginate : Paginate)
    (earlier : List Document) (doc : Document) (handle : Handle Store)
    (run : Except ServiceError Payload × Handle Store) : Prop where
  free : handle.Free model (batchIds token handle.store.issued earlier)
  collision : ¬ handle.Free model (batchIds token handle.store.issued (earlier ++ [doc]))
  failed : ∃ id, batchIds token handle.store.issued (earlier ++ [doc]) =
      batchIds token handle.store.issued earlier ++ [id] ∧
    run.1 = .error (.conflict (StoreError.conflict id model).message)
  front : BatchCreated token model paginate earlier handle
    (((Service.overMemory token model paginate).create (.batch earlier)).runOn handle)
  left : run.2 =
    (((Service.overMemory token model paginate).create (.batch earlier)).runOn handle).2

namespace Service

variable {token : Nat → String} {model : String} {paginate : Paginate} {handle : Handle Store}

/-- A batch with free and distinct identifiers is created as a whole. -/
theorem create_batch_free (reached : Reached token model handle) {docs : List Document}
    (distinct : ∀ doc ∈ docs, Entries.Distinct doc)
    (hfree : handle.Free model (batchIds token handle.store.issued docs)) :
    BatchCreated token model paginate docs handle
      (((overMemory token model paginate).create (.batch docs)).runOn handle) := by
  have hissued := handle.settled_issued model
  have hsettled := free_settled hfree
  rw [← hissued] at hsettled
  obtain ⟨next, heach, hfiled, -⟩ :=
    runOn_each_createOne paginate reached.get?_settled distinct hsettled
  rw [hissued] at heach hfiled
  rw [runOn_create_batch heach]
  refine ⟨rfl, hfiled.of_settled, fun id doc hentry later hlater => ?_⟩
  exact get_of_filed hfiled.of_settled hentry (distinct doc (List.of_mem_zip hentry).2) hlater

/-- Otherwise it stops at the first document whose identifier is taken, by others or by one of its
    own. -/
theorem create_batch_collision (reached : Reached token model handle) {earlier : List Document}
    {doc : Document} (distinct : ∀ doc ∈ earlier, Entries.Distinct doc)
    (hearlier : handle.Free model (batchIds token handle.store.issued earlier))
    (hdoc : ¬ handle.Free model (batchIds token handle.store.issued (earlier ++ [doc])))
    (later : List Document) :
    BatchStopped token model paginate earlier doc handle
      (((overMemory token model paginate).create (.batch (earlier ++ doc :: later))).runOn
        handle) := by
  have hissued := handle.settled_issued model
  have hsettled := free_settled hearlier
  have hcollision := not_free_settled hdoc
  -- Opening the service draws no token, so the identifiers are those of the handle as it was.
  rw [← hissued] at hsettled hcollision
  have heach := runOn_each_createOne_collision paginate reached.get?_settled distinct
    hsettled hcollision later
  rw [hissued] at heach
  have hrun := runOn_create_batch heach
  have hfront : ((overMemory token model paginate).create (.batch earlier)).runOn handle = _ :=
    runOn_create_batch rfl
  refine ⟨hearlier, hdoc, ⟨doc.filedAs (token (handle.store.issued + 2 * earlier.length)), ?_, ?_⟩,
    create_batch_free reached distinct hearlier, ?_⟩
  · rw [batchIds_append]
    rfl
  · rw [hrun]
    rfl
  · rw [hrun, hfront]
    rfl

end Service

/-- **Creating a batch is positional, loses nothing and stops at the first collision.**  From every
    state of a service and for every batch:
    there is an identifier for every document, and the batch succeeds if and only if these are
    pairwise different and nothing is held under any of them;
    it then shows every document in its position and stores all of them;
    otherwise it fails with a conflict at the first document that meets a collision, and what is
    left is what the documents in front of that leave. -/
theorem create_batch_is_positional {token : Nat → String} {model : String} {handle : Handle Store}
    (reached : Service.Reached token model handle) (paginate : Paginate) {docs : List Document}
    (distinct : ∀ doc ∈ docs, Entries.Distinct doc) :
    (batchIds token handle.store.issued docs).length = docs.length ∧
    ((∃ shown, (((Service.overMemory token model paginate).create (.batch docs)).runOn
        handle).1 = .ok shown) ↔
      handle.Free model (batchIds token handle.store.issued docs)) ∧
    (handle.Free model (batchIds token handle.store.issued docs) →
      BatchCreated token model paginate docs handle
        (((Service.overMemory token model paginate).create (.batch docs)).runOn handle)) ∧
    (¬ handle.Free model (batchIds token handle.store.issued docs) →
      ∃ earlier doc later, docs = earlier ++ doc :: later ∧
        BatchStopped token model paginate earlier doc handle
          (((Service.overMemory token model paginate).create (.batch docs)).runOn handle)) := by
  -- A batch that is not free has a first collision, and everything in front of it is free.
  have stops : ¬ handle.Free model (batchIds token handle.store.issued docs) →
      ∃ earlier doc later, docs = earlier ++ doc :: later ∧
        BatchStopped token model paginate earlier doc handle
          (((Service.overMemory token model paginate).create (.batch docs)).runOn handle) := by
    intro hcollision
    obtain ⟨earlier, doc, later, rfl, hearlier, hdoc⟩ := Service.exists_first_collision hcollision
    have hfront : ∀ doc ∈ earlier, Entries.Distinct doc :=
      fun doc hmem => distinct doc (List.mem_append_left _ hmem)
    exact ⟨earlier, doc, later, rfl,
      Service.create_batch_collision reached hfront hearlier hdoc later⟩
  refine ⟨length_batchIds token _ docs, ⟨?needed, ?enough⟩, ?created, stops⟩
  case needed =>
    rintro ⟨shown, hshown⟩
    by_contra hcollision
    obtain ⟨earlier, doc, later, -, hstopped⟩ := stops hcollision
    obtain ⟨id, -, hfailed⟩ := hstopped.failed
    rw [hfailed] at hshown
    cases hshown
  case enough =>
    intro hfree
    exact ⟨_, (Service.create_batch_free reached distinct hfree).shown⟩
  case created => exact Service.create_batch_free reached distinct

/-- A handle over a store that holds one document, under `a`. -/
def oneHeld : Handle Store :=
  ⟨(Store.respondAll Store.countedToken [] (Store.empty true)
    [.createDatabase "notes", .saveDocument "notes" (some "a") []]).2, false⟩

/-- A batch of which the last document names what is held. -/
def batchOnto : List Document :=
  [[("_id", .string "_DESIGN/V"), ("n", .int32 1)], [("n", .int32 2)], [("id", .string "a")]]

/-- The batch fails, and without its last document it succeeds: the identifier of the first one is
    put in lower case, and the second one gets a generated one. -/
theorem batch_onto_held :
    Service.Reached Store.countedToken "notes" oneHeld ∧
    (∀ doc ∈ batchOnto, Entries.Distinct doc) ∧
    (∃ earlier doc later, batchOnto = earlier ++ doc :: later ∧
      BatchStopped Store.countedToken "notes" {} earlier doc oneHeld
        (((Service.overMemory Store.countedToken "notes" {}).create (.batch batchOnto)).runOn
          oneHeld)) ∧
    (((Service.overMemory Store.countedToken "notes" {}).create
        (.batch (batchOnto.take 2))).runOn oneHeld).1 =
      .ok (.batch [[("id", .string "_design/v"), ("n", .int32 1)],
        [("id", .string (Store.countedToken 4)), ("n", .int32 2)]]) := by
  have reached : Service.Reached Store.countedToken "notes" oneHeld :=
    .built ((Store.Reached.empty true).respondAll _)
  have distinct : ∀ doc ∈ batchOnto, Entries.Distinct doc := by decide
  have taken : ¬ oneHeld.Free "notes"
      (batchIds Store.countedToken oneHeld.store.issued batchOnto) := by
    rintro ⟨-, hnone⟩
    cases hnone "a" (by decide)
  obtain ⟨-, -, -, stops⟩ := create_batch_is_positional reached {} distinct
  exact ⟨reached, distinct, stops taken, rfl⟩

end DocStore
