/-
  What a store holds, and what its operations do to it.

  `held? name id` is the view of a store in which its operations are easily told: each of them
  changes what is held in one place, or nowhere.  For every operation there is one statement here
  that says when it succeeds and what it then leaves; everything else about the store is derived
  from these, and nobody opens an operation again.

  Nothing that a store holds has fields for identifier or revision of its own, and every revision
  has the form that the store gives it.  `Record.WellFormed` says so; that it stays so is for the
  histories of a store to say.
-/
import DocStore.Proofs.Store.Steps

namespace DocStore

/-- A chain of two steps succeeds when both do. -/
theorem bind_eq_ok_iff {ε α β : Type} {x : Except ε α} {f : α → Except ε β} {b : β} :
    (x >>= f) = .ok b ↔ ∃ a, x = .ok a ∧ f a = .ok b := by
  cases x with
  | error e =>
    constructor
    · intro h
      cases h
    · rintro ⟨_, h, _⟩
      cases h
  | ok a =>
    constructor
    · exact fun h => ⟨a, rfl, h⟩
    · rintro ⟨_, h, hf⟩
      cases h
      exact hf

/-- What a store keeps of a document: a body without the two fields that the store shows in front,
    and a revision that starts with its number. -/
structure Record.WellFormed (record : Record) : Prop where
  no_id : record.body.get? Field.id = none
  no_revision : record.body.get? Field.revision = none
  revision_eq : ∃ token, record.revision = Store.revisionText record.seq token

/-- No field of the body stands in the place of the identifier. -/
theorem Record.WellFormed.get?_shown_id {record : Record} (h : record.WellFormed) (id : String) :
    (record.shown id).get? Field.id = some (.string id) := by
  rw [Record.shown, Entries.get?_overlay_of_none h.no_id]
  rfl

/-- Nor in that of the revision. -/
theorem Record.WellFormed.get?_shown_revision {record : Record} (h : record.WellFormed)
    (id : String) : (record.shown id).get? Field.revision = some (.string record.revision) := by
  rw [Record.shown, Entries.get?_overlay_of_none h.no_revision]
  rfl

namespace Store

variable {token : Nat → String} {store : Store} {name id : String}

/-- What is held under an identifier of a database. -/
def held? (store : Store) (name id : String) : Option Record :=
  (store.databases.get? name).bind fun db => db.get? id

/-- Everything that the store holds is well-formed. -/
def WellFormed (store : Store) : Prop :=
  ∀ name id record, store.held? name id = some record → record.WellFormed

/-- Within a database, what is held is what its table has. -/
theorem held?_of_get? {db : Database} (h : store.databases.get? name = some db) (id : String) :
    store.held? name id = db.get? id := by
  rw [held?, h, Option.bind_some]

theorem held?_empty (transientViews : Bool) (name id : String) :
    (empty transientViews).held? name id = none := rfl

/-- Putting a database in place changes what is held in it and nothing else. -/
theorem held?_insert (store : Store) (name : String) (db : Database) (issued : Nat) (n i : String) :
    held? { store with databases := store.databases.insert name db, issued := issued } n i =
      if n = name then db.get? i else store.held? n i := by
  show ((store.databases.insert name db).get? n).bind _ = _
  rw [Table.get?_insert]
  by_cases h : n = name
  · rw [if_pos h, if_pos h, Option.bind_some]
  · rw [if_neg h, if_neg h]
    rfl

/-! ## Looking up -/

/-- Looking up succeeds where there is something to find. -/
theorem database_eq_ok_iff {db : Database} :
    store.database name = .ok db ↔ store.databases.get? name = some db := by
  rw [database]
  cases store.databases.get? name <;> simp

theorem record_eq_ok_iff {db : Database} {record : Record} :
    Store.record db name id = .ok record ↔ db.get? id = some record := by
  rw [Store.record]
  cases db.get? id <;> simp

/-- A document is shown exactly if it is held. -/
theorem getDocument_eq_ok_iff {doc : Document} :
    store.getDocument name id = .ok doc ↔
      ∃ record, store.held? name id = some record ∧ doc = record.shown id := by
  rw [getDocument_eq, bind_eq_ok_iff]
  constructor
  · rintro ⟨db, hdb, h⟩
    obtain ⟨record, hrecord, h⟩ := bind_eq_ok_iff.1 h
    rw [database_eq_ok_iff] at hdb
    rw [record_eq_ok_iff] at hrecord
    cases h
    exact ⟨record, (held?_of_get? hdb id).trans hrecord, rfl⟩
  · rintro ⟨record, h, rfl⟩
    obtain ⟨db, hdb, hrecord⟩ := Option.bind_eq_some_iff.1 h
    refine ⟨db, database_eq_ok_iff.2 hdb, ?_⟩
    rw [record_eq_ok_iff.2 hrecord]
    rfl

/-- The documents of a database are those that it holds, in the order of their identifiers. -/
theorem documents_of_get? {db : Database} (hdb : store.databases.get? name = some db) :
    store.documents name = .ok (db.entries.map fun entry => entry.2.shown entry.1) := by
  rw [documents_eq, database_eq_ok_iff.2 hdb]
  rfl

/-- A view is run by a scan of the database. -/
theorem runView_of_get? {db : Database} (hdb : store.databases.get? name = some db)
    (view : Definition) (options : ViewOptions) :
    store.runView name view options =
      .ok (view.evaluate (db.entries.map fun entry => entry.2.shown entry.1) options) := by
  rw [runView_eq, documents_of_get? hdb]
  rfl

/-! ## Writing -/

/-- The identifier that a save files its document under. -/
def assigned (token : Nat → String) (store : Store) (id : Option String) : String :=
  id.getD (token store.issued)

/-- A save succeeds when the database is there and the revision that the body names, or does not
    name, allows a number for the new document. -/
theorem saveDocument_eq_ok_iff {id : Option String} {body : Document} {result : Receipt × Store} :
    store.saveDocument token name id body = .ok result ↔
      ∃ named db seq, namedRevision body = .ok named ∧ store.databases.get? name = some db ∧
        nextSeq (db.get? (store.assigned token id)) named = some seq ∧
        result = store.write db name (store.assigned token id)
          ⟨seq, revisionText seq (token (store.issued + 1)), stripped body⟩ 2 := by
  rw [saveDocument_eq, bind_eq_ok_iff]
  constructor
  · rintro ⟨named, hnamed, h⟩
    obtain ⟨db, hdb, h⟩ := bind_eq_ok_iff.1 h
    rw [database_eq_ok_iff] at hdb
    dsimp only at h
    split at h
    · cases h
    · rename_i seq hseq
      cases h
      exact ⟨named, db, seq, hnamed, hdb, hseq, rfl⟩
  · rintro ⟨named, db, seq, hnamed, hdb, hseq, rfl⟩
    refine ⟨named, hnamed, bind_eq_ok_iff.2 ⟨db, database_eq_ok_iff.2 hdb, ?_⟩⟩
    rw [assigned] at hseq
    dsimp only
    rw [hseq]
    rfl

/-- A merge succeeds when there is a document to write over. -/
theorem mergeDocument_eq_ok_iff {changes : Document} {result : Receipt × Store} :
    store.mergeDocument token name id changes = .ok result ↔
      ∃ db current, store.databases.get? name = some db ∧ db.get? id = some current ∧
        result = store.write db name id ⟨current.seq + 1,
          revisionText (current.seq + 1) (token store.issued),
          current.body.overlay (writable changes)⟩ 1 := by
  rw [mergeDocument_eq, bind_eq_ok_iff]
  constructor
  · rintro ⟨db, hdb, h⟩
    obtain ⟨current, hcurrent, h⟩ := bind_eq_ok_iff.1 h
    rw [database_eq_ok_iff] at hdb
    rw [record_eq_ok_iff] at hcurrent
    cases h
    exact ⟨db, current, hdb, hcurrent, rfl⟩
  · rintro ⟨db, current, hdb, hcurrent, rfl⟩
    refine ⟨db, database_eq_ok_iff.2 hdb, ?_⟩
    rw [record_eq_ok_iff.2 hcurrent]
    rfl

/-- A removal succeeds when there is a document with the revision named. -/
theorem removeDocument_eq_ok_iff {revision : String} {result : Receipt × Store} :
    store.removeDocument token name id revision = .ok result ↔
      ∃ db current, store.databases.get? name = some db ∧ db.get? id = some current ∧
        current.revision = revision ∧
        result = (⟨id, revisionText (current.seq + 1) (token store.issued)⟩,
          { store with
            databases := store.databases.insert name (db.erase id)
            issued := store.issued + 1 }) := by
  rw [removeDocument_eq, bind_eq_ok_iff]
  constructor
  · rintro ⟨db, hdb, h⟩
    obtain ⟨current, hcurrent, h⟩ := bind_eq_ok_iff.1 h
    rw [database_eq_ok_iff] at hdb
    rw [record_eq_ok_iff] at hcurrent
    by_cases hrev : current.revision = revision
    · rw [if_pos hrev] at h
      cases h
      exact ⟨db, current, hdb, hcurrent, hrev, rfl⟩
    · rw [if_neg hrev] at h
      cases h
  · rintro ⟨db, current, hdb, hcurrent, hrev, rfl⟩
    refine ⟨db, database_eq_ok_iff.2 hdb, ?_⟩
    rw [record_eq_ok_iff.2 hcurrent]
    exact if_pos hrev

/-- A database is created where there is none, and it is empty. -/
theorem createDatabase_eq_ok_iff {result : Unit × Store} :
    store.createDatabase name = .ok result ↔ store.databases.get? name = none ∧
      result = ((), { store with databases := store.databases.insert name Table.empty }) := by
  have contains : store.databases.contains name = (store.databases.get? name).isSome := rfl
  rw [createDatabase_eq, contains]
  cases store.databases.get? name <;> simp [eq_comm]

/-! ## Writing under a revision -/

/-- Who names a revision goes on from the record that has it. -/
theorem nextSeq_some_iff {current : Option Record} {revision : String} {seq : Nat} :
    nextSeq current (some revision) = some seq ↔
      ∃ record, current = some record ∧ record.revision = revision ∧ seq = record.seq + 1 := by
  cases current with
  | none =>
    constructor
    · intro h
      cases h
    · rintro ⟨_, h, _⟩
      cases h
  | some record =>
    simp only [nextSeq, Option.some.injEq]
    constructor
    · intro h
      split at h
      · rename_i hrev
        exact ⟨record, rfl, hrev.symm, (Option.some.inj h).symm⟩
      · cases h
    · rintro ⟨_, rfl, rfl, rfl⟩
      rw [if_pos rfl]

/-- A save that names a revision succeeds exactly if that is the revision of what is held. -/
theorem saveDocument_succeeds_iff {id : Option String} {body : Document} {revision : String}
    (h : body.get? Field.revision = some (.string revision)) :
    (∃ result, store.saveDocument token name id body = .ok result) ↔
      ∃ record, store.held? name (store.assigned token id) = some record ∧
        record.revision = revision := by
  have hnamed : namedRevision body = .ok (some revision) := by rw [namedRevision, h]
  constructor
  · rintro ⟨result, hsave⟩
    obtain ⟨named, db, seq, hok, hdb, hseq, -⟩ := saveDocument_eq_ok_iff.1 hsave
    rw [hnamed] at hok
    cases hok
    obtain ⟨record, hrecord, hrev, -⟩ := nextSeq_some_iff.1 hseq
    exact ⟨record, (held?_of_get? hdb _).trans hrecord, hrev⟩
  · rintro ⟨record, hheld, hrev⟩
    obtain ⟨db, hdb, hrecord⟩ := Option.bind_eq_some_iff.1 hheld
    exact ⟨_, saveDocument_eq_ok_iff.2 ⟨some revision, db, record.seq + 1, hnamed, hdb,
      nextSeq_some_iff.2 ⟨record, hrecord, hrev, rfl⟩, rfl⟩⟩

/-- A removal succeeds exactly if the revision named is the one of what is held. -/
theorem removeDocument_succeeds_iff {revision : String} :
    (∃ result, store.removeDocument token name id revision = .ok result) ↔
      ∃ record, store.held? name id = some record ∧ record.revision = revision := by
  constructor
  · rintro ⟨result, hremove⟩
    obtain ⟨db, current, hdb, hcurrent, hrev, -⟩ := removeDocument_eq_ok_iff.1 hremove
    exact ⟨current, (held?_of_get? hdb id).trans hcurrent, hrev⟩
  · rintro ⟨record, hheld, hrev⟩
    obtain ⟨db, hdb, hrecord⟩ := Option.bind_eq_some_iff.1 hheld
    exact ⟨_, removeDocument_eq_ok_iff.2 ⟨db, record, hdb, hrecord, hrev, rfl⟩⟩

end Store

end DocStore
