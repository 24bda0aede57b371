/-
  Histories of a store.

  A store answers one request after another, whoever sends them, so everything that can have
  happened to it is a list of exchanges.  `Reached token past store` says that the exchanges `past`,
  latest first, lead from an empty store to `store`.

  Only writes leave traces.  `respond_cases` says once what a request can do: nothing, or one write
  with its `Effect`, which changes what is held in one place, under a revision for which a token
  was drawn that no earlier write had.  What holds of a store after any history is proved from
  this and never from the operations themselves.
-/
import DocStore.Proofs.Store.Held
import DocStore.Store.Watched

namespace DocStore

/-- A write that succeeded. -/
structure Write where
  database : String
  id : String
  /-- The revision that it returned. -/
  revision : String
  /-- Whether it removed the document. -/
  removes : Bool
deriving DecidableEq, Inhabited, Repr

/-- The write to a database that was answered with a receipt. -/
def Receipt.write (receipt : Receipt) (name : String) (removes : Bool) : Write :=
  ⟨name, receipt.id, receipt.revision, removes⟩

namespace Exchange

/-- The write that an exchange was, if it was a write and succeeded. -/
def write? : Exchange → Option Write
  | ⟨.saveDocument name _ _, .ok receipt⟩ => some (receipt.write name false)
  | ⟨.mergeDocument name _ _, .ok receipt⟩ => some (receipt.write name false)
  | ⟨.removeDocument name _ _, .ok receipt⟩ => some (receipt.write name true)
  | ⟨.createView name _ _, .ok receipt⟩ => some (receipt.write name false)
  | _ => none

/-- The revision that an exchange named as the current one and wrote over, if it did so. -/
def spent? : Exchange → Option String
  | ⟨.saveDocument _ _ body, .ok _⟩ => body.revision?
  | ⟨.removeDocument _ _ revision, .ok _⟩ => some revision
  | _ => none

/-- What failed wrote nothing. -/
theorem write?_error (request : Request) (e : StoreError) : write? ⟨request, .error e⟩ = none := by
  cases request <;> rfl

/-- And it spent no revision. -/
theorem spent?_error (request : Request) (e : StoreError) : spent? ⟨request, .error e⟩ = none := by
  cases request <;> rfl

end Exchange

/-- The writes of a history, latest first. -/
def writes (past : List Exchange) : List Write :=
  past.filterMap Exchange.write?

/-- The latest write to a place. -/
def lastWrite? (past : List Exchange) (name id : String) : Option Write :=
  (writes past).find? fun w => w.database == name && w.id == id

namespace Store

/-- The exchange that a request makes with a store, and the store behind it. -/
def respond (token : Nat → String) (store : Store) (request : Request) : Exchange × Store :=
  let (outcome, next) := ((backend token).answer request).runOn store
  (⟨request, outcome⟩, next)

/-- As requests are atomic, their steps tell what they exchange. -/
theorem respond_eq (token : Nat → String) (store : Store) (request : Request) :
    store.respond token request = match store.step token request with
      | .ok (answer, next) => (⟨request, .ok answer⟩, next)
      | .error e => (⟨request, .error e⟩, store) := by
  rw [respond, runOn_answer]
  cases store.step token request <;> rfl

/-- The store after a token was drawn for some other use. -/
def afterDraw (store : Store) : Store :=
  { store with issued := store.issued + 1 }

/-- The exchanges `past`, latest first, lead from an empty store to this one.  Between them, clients
    may draw tokens for themselves. -/
inductive Reached (token : Nat → String) : List Exchange → Store → Prop
  | empty (transientViews : Bool) : Reached token [] (empty transientViews)
  | asked {past store} (h : Reached token past store) (request : Request) :
      Reached token ((store.respond token request).1 :: past) (store.respond token request).2
  | drew {past store} (h : Reached token past store) : Reached token past store.afterDraw

/-- A history and its store after more requests, one after another. -/
def respondAll (token : Nat → String) (past : List Exchange) (store : Store) :
    List Request → List Exchange × Store
  | [] => (past, store)
  | request :: rest =>
      let (exchange, next) := store.respond token request
      respondAll token (exchange :: past) next rest

/-- A row of requests goes on from a history. -/
theorem Reached.respondAll {token : Nat → String} {past : List Exchange} {store : Store}
    (h : Reached token past store) (requests : List Request) :
    Reached token (respondAll token past store requests).1
      (respondAll token past store requests).2 := by
  induction requests generalizing past store with
  | nil => exact h
  | cons request rest ih => exact ih (h.asked request)

/-! ## What a write does

  Saves, merges and removals, seen from what is held: one place changes, under a revision that was
  drawn for it. -/

/-- No database is dropped. -/
def KeepsDatabases (store next : Store) : Prop :=
  ∀ name, (store.databases.get? name).isSome → (next.databases.get? name).isSome

/-- Putting a database in place, new or changed, drops none. -/
theorem keepsDatabases_insert (store : Store) (name : String) (db : Database) (issued : Nat) :
    KeepsDatabases store
      { store with databases := store.databases.insert name db, issued := issued } := by
  intro other h
  show ((store.databases.insert name db).get? other).isSome
  rw [Table.get?_insert]
  split
  · rfl
  · exact h

/-- What a write does: it leaves a record, or none, in its place and nothing else changes.  Its
    revision has a token that was drawn for it. -/
structure Effect (token : Nat → String) (store : Store) (w : Write) (left : Option Record)
    (next : Store) : Prop where
  held : ∀ name id, next.held? name id =
    if name = w.database ∧ id = w.id then left else store.held? name id
  drawn : ∃ seq index, store.issued ≤ index ∧ index < next.issued ∧
    w.revision = revisionText seq (token index)
  left_revision : ∀ record, left = some record → record.revision = w.revision
  removes : w.removes = left.isNone
  databases : KeepsDatabases store next
  wellFormed : store.WellFormed → ∀ record, left = some record → record.WellFormed

/-- Every write draws at least the token of its revision. -/
theorem Effect.issued_le {token : Nat → String} {store next : Store} {w : Write}
    {left : Option Record} (h : Effect token store w left next) : store.issued ≤ next.issued := by
  obtain ⟨_, index, hle, hlt, _⟩ := h.drawn
  omega

/-- Putting a database in place of another one that differs from it in one place. -/
theorem held?_insert_place {store : Store} {name id : String} {db db' : Database}
    {left : Option Record} {issued : Nat} (hdb : store.databases.get? name = some db)
    (hplace : ∀ i, db'.get? i = if i = id then left else db.get? i) (n i : String) :
    held? { store with databases := store.databases.insert name db', issued := issued } n i =
      if n = name ∧ i = id then left else store.held? n i := by
  rw [held?_insert]
  by_cases hn : n = name
  · subst hn
    rw [if_pos rfl, hplace, held?_of_get? hdb]
    by_cases hi : i = id
    · rw [if_pos hi, if_pos ⟨rfl, hi⟩]
    · rw [if_neg hi, if_neg fun h => hi h.2]
  · rw [if_neg hn, if_neg fun h => hn h.1]

/-- A record put into a database is a write with that effect, if it has one of the tokens drawn for
    it and its body is as bodies are kept. -/
theorem write_effect {token : Nat → String} {store : Store} {db : Database} {name id : String}
    {record : Record} {index drawn : Nat} (hdb : store.databases.get? name = some db)
    (hrev : record.revision = revisionText record.seq (token index))
    (hle : store.issued ≤ index) (hlt : index < store.issued + drawn)
    (hbody : store.WellFormed →
      record.body.get? Field.id = none ∧ record.body.get? Field.revision = none) :
    Effect token store ((store.write db name id record drawn).1.write name false) (some record)
      (store.write db name id record drawn).2 where
  held := held?_insert_place hdb fun i => Table.get?_insert db id i record
  drawn := ⟨record.seq, index, hle, hlt, hrev⟩
  left_revision := by
    rintro _ ⟨⟩
    rfl
  removes := rfl
  databases := keepsDatabases_insert store name _ _
  wellFormed := by
    rintro hstore _ ⟨⟩
    exact ⟨(hbody hstore).1, (hbody hstore).2, token index, hrev⟩

/-- What is stored of a body has neither of the two fields that the store shows. -/
theorem get?_stripped (body : Document) :
    (stripped body).get? Field.id = none ∧ (stripped body).get? Field.revision = none :=
  ⟨Entries.get?_erase_self _ _,
    Entries.get?_erase_eq_none (Entries.get?_erase_self body Field.revision) Field.id⟩

/-- Nor has what is merged. -/
theorem get?_writable (changes : Document) :
    (writable changes).get? Field.id = none ∧ (writable changes).get? Field.revision = none :=
  ⟨Entries.get?_erase_eq_none (Entries.get?_erase_self changes Field.id) Field.revision,
    Entries.get?_erase_self _ _⟩

/-- Saves, merges and removals are writes in this sense; each shows which token its revision has. -/
theorem saveDocument_effect {token : Nat → String} {store : Store} {name : String}
    {id : Option String} {body : Document} {result : Receipt × Store}
    (h : store.saveDocument token name id body = .ok result) :
    ∃ left, Effect token store (result.1.write name false) left result.2 := by
  obtain ⟨_, db, seq, -, hdb, -, rfl⟩ := saveDocument_eq_ok_iff.1 h
  exact ⟨_, write_effect hdb rfl (Nat.le_succ _) (Nat.lt_succ_self _) fun _ => get?_stripped body⟩

theorem mergeDocument_effect {token : Nat → String} {store : Store} {name id : String}
    {changes : Document} {result : Receipt × Store}
    (h : store.mergeDocument token name id changes = .ok result) :
    ∃ left, Effect token store (result.1.write name false) left result.2 := by
  obtain ⟨db, current, hdb, hcurrent, rfl⟩ := mergeDocument_eq_ok_iff.1 h
  refine ⟨_, write_effect hdb rfl (Nat.le_refl _) (Nat.lt_succ_self _) fun hstore => ?_⟩
  -- Neither the body that is written over nor the fields written have one of the two names.
  have hwf := hstore name id current ((held?_of_get? hdb id).trans hcurrent)
  have hnews := get?_writable changes
  exact ⟨(Entries.get?_overlay_of_none hnews.1 _).trans hwf.no_id,
    (Entries.get?_overlay_of_none hnews.2 _).trans hwf.no_revision⟩

/-- A removal leaves nothing in the place of the record. -/
theorem removeDocument_effect {token : Nat → String} {store : Store} {name id revision : String}
    {result : Receipt × Store}
    (h : store.removeDocument token name id revision = .ok result) :
    Effect token store (result.1.write name true) none result.2 := by
  obtain ⟨db, current, hdb, -, -, rfl⟩ := removeDocument_eq_ok_iff.1 h
  exact {
    held := held?_insert_place hdb fun i => Table.get?_erase db id i
    drawn := ⟨current.seq + 1, store.issued, Nat.le_refl _, Nat.lt_succ_self _, rfl⟩
    left_revision := by rintro _ ⟨⟩
    removes := rfl
    databases := keepsDatabases_insert store name _ _
    wellFormed := by rintro _ _ ⟨⟩ }

/-! ## What a request does

  Every exchange is quiet or a write (`respond_cases`); proofs about histories split into these
  two cases and not into requests. -/

/-- An exchange that was no write leaves everything as it was. -/
structure Quiet (store : Store) (e : Exchange) (next : Store) : Prop where
  no_write : e.write? = none
  no_spent : e.spent? = none
  issued : next.issued = store.issued
  databases : KeepsDatabases store next
  held : ∀ name id, next.held? name id = store.held? name id

/-- An exchange that was a write has the effect of that write, and if it named a revision, that was
    the one of what was held in its place. -/
structure Wrote (token : Nat → String) (store : Store) (e : Exchange) (w : Write)
    (left : Option Record) (next : Store) : Prop where
  write : e.write? = some w
  effect : Effect token store w left next
  spent : ∀ revision, e.spent? = some revision →
    ∃ record, store.held? w.database w.id = some record ∧ record.revision = revision

/-- A request that failed is no write, and as it is atomic it changed nothing. -/
theorem quiet_of_error (store : Store) (request : Request) (e : StoreError) :
    Quiet store ⟨request, .error e⟩ store :=
  ⟨Exchange.write?_error request e, Exchange.spent?_error request e, rfl, fun _ h => h,
    fun _ _ => rfl⟩

/-- A new database holds nothing, so creating one changes nothing of what is held. -/
theorem createDatabase_quiet {store : Store} {name : String} {result : Unit × Store}
    (h : store.createDatabase name = .ok result) :
    result.2.issued = store.issued ∧ KeepsDatabases store result.2 ∧
      ∀ n i, result.2.held? n i = store.held? n i := by
  obtain ⟨hnone, rfl⟩ := createDatabase_eq_ok_iff.1 h
  refine ⟨rfl, keepsDatabases_insert store name _ _, fun n i => ?_⟩
  rw [held?_insert]
  by_cases hn : n = name
  · rw [if_pos hn, held?, hn, hnone]
    rfl
  · rw [if_neg hn]

/-- What a save named, if anything, was the revision of what was held where it wrote. -/
theorem saveDocument_spent {token : Nat → String} {store : Store} {name : String}
    {id : Option String} {body : Document} {result : Receipt × Store}
    (h : store.saveDocument token name id body = .ok result) {revision : String}
    (hrev : body.revision? = some revision) :
    ∃ record, store.held? name result.1.id = some record ∧ record.revision = revision := by
  -- What names a revision is text; anything else under that name was refused.
  have hbody : body.get? Field.revision = some (.string revision) :=
    Document.get?_of_revision? hrev
  have hid : result.1.id = store.assigned token id := by
    obtain ⟨_, _, _, -, -, -, rfl⟩ := saveDocument_eq_ok_iff.1 h
    rfl
  rw [hid]
  exact (saveDocument_succeeds_iff hbody).1 ⟨result, h⟩

/-- A request is answered without any change, or it is one write. -/
theorem respond_cases (token : Nat → String) (store : Store) (request : Request) :
    Quiet store (store.respond token request).1 (store.respond token request).2 ∨
    ∃ w left, Wrote token store (store.respond token request).1 w left
      (store.respond token request).2 := by
  rw [respond_eq]
  cases hstep : store.step token request with
  | error e => exact Or.inl (quiet_of_error store request e)
  | ok result =>
    show Quiet store ⟨request, .ok result.1⟩ result.2 ∨
      ∃ w left, Wrote token store ⟨request, .ok result.1⟩ w left result.2
    -- Four requests write.  Of the others, only the creation of a database changes the store, and
    -- it changes nothing of what is held.
    cases request with
    | databaseExists name =>
      cases hstep
      exact Or.inl ⟨rfl, rfl, rfl, fun _ h => h, fun _ _ => rfl⟩
    | createDatabase name =>
      obtain ⟨hissued, hdatabases, hheld⟩ := createDatabase_quiet hstep
      exact Or.inl ⟨rfl, rfl, hissued, hdatabases, hheld⟩
    | getDocument name id =>
      rw [(Memory.reads_getDocument name id).snd_of_stepOn hstep]
      exact Or.inl ⟨rfl, rfl, rfl, fun _ h => h, fun _ _ => rfl⟩
    | saveDocument name id body =>
      obtain ⟨left, heffect⟩ := saveDocument_effect hstep
      exact Or.inr ⟨_, left, rfl, heffect, fun revision hrev => saveDocument_spent hstep hrev⟩
    | mergeDocument name id changes =>
      obtain ⟨left, heffect⟩ := mergeDocument_effect hstep
      exact Or.inr ⟨_, left, rfl, heffect, fun revision hrev => by cases hrev⟩
    | removeDocument name id revision =>
      refine Or.inr ⟨_, none, rfl, removeDocument_effect hstep, fun named hrev => ?_⟩
      cases hrev
      obtain ⟨db, current, hdb, hcurrent, hsame, rfl⟩ := removeDocument_eq_ok_iff.1 hstep
      exact ⟨current, (held?_of_get? hdb id).trans hcurrent, hsame⟩
    | evaluateTransient name view options =>
      rw [(Memory.reads_evaluateTransient name view options).snd_of_stepOn hstep]
      exact Or.inl ⟨rfl, rfl, rfl, fun _ h => h, fun _ _ => rfl⟩
    | createView name view definition =>
      obtain ⟨left, heffect⟩ := saveDocument_effect hstep
      exact Or.inr ⟨_, left, rfl, heffect, fun revision hrev => by cases hrev⟩
    | invokeView name view options =>
      rw [(Memory.reads_invokeView name view options).snd_of_stepOn hstep]
      exact Or.inl ⟨rfl, rfl, rfl, fun _ h => h, fun _ _ => rfl⟩

/-- No request drops a database. -/
theorem keepsDatabases_respond (token : Nat → String) (store : Store) (request : Request) :
    KeepsDatabases store (store.respond token request).2 := by
  rcases respond_cases token store request with quiet | ⟨w, left, wrote⟩
  · exact quiet.databases
  · exact wrote.effect.databases

/-! ## Every history keeps the store well-formed -/

/-- What a write leaves is well-formed, and what it does not touch was so before. -/
theorem WellFormed.respond {token : Nat → String} {store : Store} (h : store.WellFormed)
    (request : Request) : (store.respond token request).2.WellFormed := by
  intro name id record hheld
  rcases respond_cases token store request with quiet | ⟨w, left, wrote⟩
  · exact h name id record ((quiet.held name id).symm.trans hheld)
  · rw [wrote.effect.held] at hheld
    split at hheld
    · exact wrote.effect.wellFormed h record hheld
    · exact h name id record hheld

/-- By induction on the history: nothing is held at first, and requests keep it. -/
theorem Reached.wellFormed {token : Nat → String} {past : List Exchange} {store : Store}
    (h : Reached token past store) : store.WellFormed := by
  induction h with
  | empty transientViews =>
    intro name id record hheld
    rw [held?_empty] at hheld
    cases hheld
  | asked _ request ih => exact ih.respond request
  | drew _ ih => exact ih

end Store

end DocStore
