/-
  The number in a revision counts the writes.

  A revision begins with a number.  It counts the writes that the document has seen: one for the
  save that created it, one more for every save and every merge since.  A removal gets the next
  number, too, and what is created after it starts from one again.

  Saves and merges find the number in different ways, but each goes on from what is held in its
  place, zero where nothing is (`Store.Counted`, one case for each request in
  `Store.respond_counted`).  So the number of what is held is a function of the writes to its place
  alone, `generation?` of them (`Store.Reached.generation`); requests that fail and writes to
  other places are not among them.
-/
import DocStore.Proofs.Store.Revisions
import DocStore.Proofs.Text.Decimal

namespace DocStore

namespace Store

variable {token : Nat → String} {store : Store} {name id : String}

/-- The number that a revision begins with: the digits in front of its first dash. -/
def numberOf? (revision : String) : Option Nat :=
  Text.natural? (revision.toList.takeWhile (· ≠ '-'))

/-- Whatever the token is, the number in front is read back: digits are no dash. -/
theorem numberOf?_revisionText (n : Nat) (token : String) :
    numberOf? (revisionText n token) = some n := by
  rw [numberOf?, takeWhile_revisionText, Nat.toString_eq_repr, Nat.toList_repr]
  exact Text.natural?_toDigits n

/-- So the revision of what is held tells its number. -/
theorem numberOf?_revision {record : Record} (h : record.WellFormed) :
    numberOf? record.revision = some record.seq := by
  obtain ⟨text, hrevision⟩ := h.revision_eq
  rw [hrevision, numberOf?_revisionText]

/-! ## What one write does to the number -/

/-- The number of what is held, zero where nothing is. -/
def numberAt (store : Store) (name id : String) : Nat :=
  ((store.held? name id).map Record.seq).getD 0

/-- A write has the number after that of what was held, and unless it removes, it leaves it. -/
structure Counted (store : Store) (w : Write) (next : Store) : Prop where
  number : numberOf? w.revision = some (store.numberAt w.database w.id + 1)
  left : (next.held? w.database w.id).map Record.seq =
    if w.removes then none else some (store.numberAt w.database w.id + 1)
  database : (next.databases.get? w.database).isSome

theorem numberAt_of_get? {db : Database} (hdb : store.databases.get? name = some db) :
    store.numberAt name id = ((db.get? id).map Record.seq).getD 0 := by
  rw [numberAt, held?_of_get? hdb]

/-- A save continues the count of what it replaces. -/
theorem nextSeq_eq_some {current : Option Record} {named : Option String} {seq : Nat}
    (h : nextSeq current named = some seq) : seq = (current.map Record.seq).getD 0 + 1 := by
  cases current with
  | none =>
    rw [nextSeq] at h
    split at h
    · exact (Option.some.inj h).symm
    · cases h
  | some record =>
    rw [nextSeq] at h
    split at h
    · exact (Option.some.inj h).symm
    · cases h

/-- A record that is written with the next number. -/
theorem counted_write {db : Database} {record : Record} {token : String} {drawn : Nat}
    (hdb : store.databases.get? name = some db)
    (hseq : record.seq = ((db.get? id).map Record.seq).getD 0 + 1)
    (hrevision : record.revision = revisionText record.seq token) :
    Counted store ((store.write db name id record drawn).1.write name false)
      (store.write db name id record drawn).2 := by
  have hnext : (store.write db name id record drawn).2.databases.get? name =
      some (db.insert id record) := Table.get?_insert_self _ _ _
  have hnumber : record.seq = store.numberAt name id + 1 := by
    rw [hseq, numberAt_of_get? hdb]
  constructor
  · show numberOf? record.revision = some (store.numberAt name id + 1)
    rw [hrevision, numberOf?_revisionText, hnumber]
  · show ((store.write db name id record drawn).2.held? name id).map Record.seq =
      some (store.numberAt name id + 1)
    rw [held?_of_get? hnext, Table.get?_insert_self, Option.map_some, hnumber]
  · show ((store.write db name id record drawn).2.databases.get? name).isSome
    rw [hnext]
    rfl

/-- A save counts on from what it replaces, or starts at one. -/
theorem saveDocument_counted {given : Option String} {body : Document} {result : Receipt × Store}
    (h : store.saveDocument token name given body = .ok result) :
    Counted store (result.1.write name false) result.2 := by
  obtain ⟨_, db, seq, -, hdb, hseq, rfl⟩ := saveDocument_eq_ok_iff.1 h
  exact counted_write hdb (nextSeq_eq_some hseq) rfl

/-- A merge counts on from what it is written over, which is always there. -/
theorem mergeDocument_counted {changes : Document} {result : Receipt × Store}
    (h : store.mergeDocument token name id changes = .ok result) :
    Counted store (result.1.write name false) result.2 := by
  obtain ⟨db, current, hdb, hcurrent, rfl⟩ := mergeDocument_eq_ok_iff.1 h
  refine counted_write hdb ?_ rfl
  rw [hcurrent]
  rfl

/-- A removal counts on as well, and only its receipt tells. -/
theorem removeDocument_counted {revision : String} {result : Receipt × Store}
    (h : store.removeDocument token name id revision = .ok result) :
    Counted store (result.1.write name true) result.2 := by
  obtain ⟨db, current, hdb, hcurrent, -, rfl⟩ := removeDocument_eq_ok_iff.1 h
  have hnumber : store.numberAt name id = current.seq := by
    rw [numberAt_of_get? hdb, hcurrent]
    rfl
  constructor
  · show numberOf? (revisionText (current.seq + 1) _) = some (store.numberAt name id + 1)
    rw [numberOf?_revisionText, hnumber]
  · show (held? _ name id).map Record.seq = none
    rw [held?_insert, if_pos rfl, Table.get?_erase_self]
    rfl
  · show ((store.databases.insert name (db.erase id)).get? name).isSome
    rw [Table.get?_insert_self]
    rfl

/-- Every write is counted, whichever request it was. -/
theorem respond_counted {request : Request} {w : Write}
    (h : (store.respond token request).1.write? = some w) :
    Counted store w (store.respond token request).2 := by
  rw [respond_eq] at h ⊢
  cases hstep : store.step token request with
  | error e =>
    rw [hstep] at h
    rw [Exchange.write?_error] at h
    cases h
  | ok result =>
    rw [hstep] at h
    -- Four kinds of requests write, and a view is stored by a save.
    cases request with
    | saveDocument name given body =>
      cases h
      exact saveDocument_counted hstep
    | mergeDocument name id changes =>
      cases h
      exact mergeDocument_counted hstep
    | removeDocument name id revision =>
      cases h
      exact removeDocument_counted hstep
    | createView name view definition =>
      cases h
      exact saveDocument_counted hstep
    | _ => cases h

end Store

/-! ## What all writes do to it -/

/-- The writes to a place, latest first. -/
def writesTo (past : List Exchange) (name id : String) : List Write :=
  (writes past).filter fun w => w.database == name && w.id == id

/-- The latest write to a place is the first of those to it. -/
theorem lastWrite?_eq_head? (past : List Exchange) (name id : String) :
    lastWrite? past name id = (writesTo past name id).head? :=
  List.head?_filter.symm

theorem writesTo_cons_none {e : Exchange} {past : List Exchange} (h : e.write? = none)
    (name id : String) : writesTo (e :: past) name id = writesTo past name id := by
  rw [writesTo, writes_cons_none h]
  rfl

/-- A write comes first among those to its place, -/
theorem writesTo_cons_self {e : Exchange} {past : List Exchange} {w : Write}
    (h : e.write? = some w) :
    writesTo (e :: past) w.database w.id = w :: writesTo past w.database w.id := by
  rw [writesTo, writes_cons_some h, List.filter_cons_of_pos]
  · rfl
  · rw [beq_self_eq_true, beq_self_eq_true]
    rfl

/-- and is none of those to any other place. -/
theorem writesTo_cons_other {e : Exchange} {past : List Exchange} {w : Write} {name id : String}
    (h : e.write? = some w) (hother : ¬ (name = w.database ∧ id = w.id)) :
    writesTo (e :: past) name id = writesTo past name id := by
  rw [writesTo, writes_cons_some h, List.filter_cons_of_neg]
  · rfl
  · rw [Bool.and_eq_true, beq_iff_eq, beq_iff_eq]
    exact fun hsame => hother ⟨hsame.1.symm, hsame.2.symm⟩

/-- How many writes, latest first, have made the document that they leave: those since the last
    removal.  None if they leave no document. -/
def generation? : List Write → Option Nat
  | [] => none
  | w :: earlier => if w.removes then none else some ((generation? earlier).getD 0 + 1)

/-- Of writes to one place, latest first, this one created the document that is there: nothing was
    there before it, and those behind it removed nothing. -/
structure LastCreation (all since : List Write) (created : Write) (before : List Write) : Prop where
  split : all = since ++ created :: before
  creates : created.removes = false
  free : ∀ w, before.head? = some w → w.removes = true
  keeps : ∀ w ∈ since, w.removes = false

/-- No document is left if there was no write, or if the latest one removed it. -/
theorem generation?_eq_none_iff {all : List Write} :
    generation? all = none ↔ ∀ w, all.head? = some w → w.removes = true := by
  cases all with
  | nil => exact ⟨fun _ => nofun, fun _ => rfl⟩
  | cons w earlier =>
    rw [generation?, List.head?_cons]
    cases hremoves : w.removes <;> simp [hremoves]

/-- No document has more writes than there were. -/
theorem generation?_le : ∀ {all : List Write} {n : Nat}, generation? all = some n → n ≤ all.length
  | [], _, h => nomatch h
  | w :: earlier, n, h => by
    rw [generation?] at h
    split at h
    · cases h
    · cases hearlier : generation? earlier with
      | none =>
        rw [hearlier] at h
        cases h
        exact Nat.succ_le_succ (Nat.zero_le _)
      | some m =>
        rw [hearlier] at h
        cases h
        exact Nat.succ_le_succ (generation?_le hearlier)

/-- The number of writes that made a document is one for its creation and one for each behind it. -/
theorem exists_lastCreation : ∀ {all : List Write} {n : Nat}, generation? all = some n →
    ∃ since created before, LastCreation all since created before ∧ n = 1 + since.length
  | [], _, h => nomatch h
  | w :: earlier, n, h => by
    rw [generation?] at h
    split at h
    · cases h
    · rename_i hkeeps
      have hkeeps : w.removes = false := Bool.not_eq_true _ ▸ hkeeps
      -- Where nothing was alive before, the latest write is the creation; else it is one more since
      -- then.
      cases hearlier : generation? earlier with
      | none =>
        rw [hearlier] at h
        cases h
        exact ⟨[], w, earlier, ⟨rfl, hkeeps, generation?_eq_none_iff.1 hearlier, nofun⟩, rfl⟩
      | some m =>
        rw [hearlier] at h
        cases h
        obtain ⟨since, created, before, hcreated, rfl⟩ := exists_lastCreation hearlier
        refine ⟨w :: since, created, before, ⟨?_, hcreated.creates, hcreated.free, ?_⟩, ?_⟩
        · rw [hcreated.split]
          rfl
        · exact List.forall_mem_cons.2 ⟨hkeeps, hcreated.keeps⟩
        · rw [Option.getD_some, List.length_cons]
          omega

namespace Store

variable {token : Nat → String} {past : List Exchange} {store : Store}

/-- The number of what is held anywhere counts the writes that made it. -/
theorem Reached.generation (h : Reached token past store) (name id : String) :
    (store.held? name id).map Record.seq = generation? (writesTo past name id) := by
  induction h with
  | empty transientViews => rfl
  | @asked past store _ request ih =>
    rcases respond_cases token store request with quiet | ⟨w, left, wrote⟩
    · rw [quiet.held, writesTo_cons_none quiet.no_write, ih]
    · by_cases hplace : name = w.database ∧ id = w.id
      · obtain ⟨rfl, rfl⟩ := hplace
        rw [(respond_counted wrote.write).left, writesTo_cons_self wrote.write, generation?,
          numberAt, ih]
      · rw [wrote.effect.held, if_neg hplace, writesTo_cons_other wrote.write hplace, ih]
  | drew _ ih => exact ih

/-- No number exceeds that of the writes that the store has seen. -/
theorem Reached.seq_le (h : Reached token past store) {name id : String} {record : Record}
    (hheld : store.held? name id = some record) : record.seq ≤ (writes past).length := by
  have hgeneration := h.generation name id
  rw [hheld, Option.map_some, eq_comm] at hgeneration
  exact Nat.le_trans (generation?_le hgeneration) (List.length_filter_le _ _)

/-- So in a history short enough the next number is the same, counted in sixty-four bits. -/
theorem Reached.seq_fits (h : Reached token past store) {name id : String} {record : Record}
    (hheld : store.held? name id = some record) (hshort : (writes past).length + 1 < UInt64.size) :
    (UInt64.ofNat record.seq + 1).toNat = record.seq + 1 := by
  have hfits : record.seq + 1 < UInt64.size :=
    Nat.lt_of_le_of_lt (Nat.succ_le_succ (h.seq_le hheld)) hshort
  have hseq : (UInt64.ofNat record.seq).toNat = record.seq :=
    UInt64.toNat_ofNat_of_lt (Nat.lt_of_succ_lt hfits)
  rw [UInt64.toNat_add, hseq]
  exact Nat.mod_eq_of_lt hfits

/-- Where something was written, there is a database. -/
theorem Reached.database_of_write (h : Reached token past store) :
    ∀ w ∈ writes past, (store.databases.get? w.database).isSome := by
  induction h with
  | empty transientViews => exact nofun
  | @asked past store _ request ih =>
    intro w hw
    rcases respond_cases token store request with quiet | ⟨latest, left, wrote⟩
    · rw [writes_cons_none quiet.no_write] at hw
      exact quiet.databases _ (ih w hw)
    · rw [writes_cons_some wrote.write] at hw
      rcases List.mem_cons.1 hw with rfl | hw
      · exact (respond_counted wrote.write).database
      · exact wrote.effect.databases _ (ih w hw)
  | drew _ ih => exact ih

/-- Where the latest write was a removal, nothing is held. -/
theorem Reached.held?_of_removed (h : Reached token past store) {name id : String} {w : Write}
    (hlast : lastWrite? past name id = some w) (hremoves : w.removes = true) :
    store.held? name id = none := by
  have hnone : generation? (writesTo past name id) = none := by
    refine generation?_eq_none_iff.2 fun other hother => ?_
    rw [← lastWrite?_eq_head?, hlast] at hother
    cases hother
    exact hremoves
  rw [← h.generation, Option.map_eq_none_iff] at hnone
  exact hnone

/-- What can be read has the number of its writes since the last creation in front. -/
theorem Reached.number_of_get (h : Reached token past store) {name id : String} {doc : Document}
    (hget : store.getDocument name id = .ok doc) :
    ∃ revision since created before, doc.get? Field.revision = some (.string revision) ∧
      LastCreation (writesTo past name id) since created before ∧
      numberOf? revision = some (1 + since.length) := by
  obtain ⟨record, hheld, rfl⟩ := getDocument_eq_ok_iff.1 hget
  have hgeneration := h.generation name id
  rw [hheld, Option.map_some, eq_comm] at hgeneration
  obtain ⟨since, created, before, hcreated, hseq⟩ := exists_lastCreation hgeneration
  have hwf := h.wellFormed name id record hheld
  refine ⟨record.revision, since, created, before, hwf.get?_shown_revision id, hcreated, ?_⟩
  rw [numberOf?_revision hwf, hseq]

/-- A removal goes on from the number of what it removes. -/
theorem Reached.number_of_remove (h : Reached token past store) {name id revision : String}
    {result : Receipt × Store}
    (hremove : store.removeDocument token name id revision = .ok result) :
    ∃ doc n, store.getDocument name id = .ok doc ∧
      doc.get? Field.revision = some (.string revision) ∧ numberOf? revision = some n ∧
      numberOf? result.1.revision = some (n + 1) := by
  obtain ⟨record, hheld, rfl⟩ := removeDocument_succeeds_iff.1 ⟨_, hremove⟩
  have hwf := h.wellFormed name id record hheld
  have hplace : result.1.id = id := by
    obtain ⟨_, _, -, -, -, rfl⟩ := removeDocument_eq_ok_iff.1 hremove
    rfl
  have hnumber : store.numberAt name result.1.id = record.seq := by
    rw [hplace, numberAt, hheld]
    rfl
  have hcounted : numberOf? result.1.revision = some (store.numberAt name result.1.id + 1) :=
    (removeDocument_counted hremove).number
  refine ⟨_, record.seq, getDocument_eq_ok_iff.2 ⟨record, hheld, rfl⟩,
    hwf.get?_shown_revision id, numberOf?_revision hwf, ?_⟩
  rw [hcounted, hnumber]

/-- What is saved where nothing is held begins with one. -/
theorem number_of_save {given : Option String} {body : Document} {result : Receipt × Store}
    (hfree : store.held? name (store.assigned token given) = none)
    (hsave : store.saveDocument token name given body = .ok result) :
    numberOf? result.1.revision = some 1 := by
  have hplace : result.1.id = store.assigned token given := by
    obtain ⟨_, _, _, -, -, -, rfl⟩ := saveDocument_eq_ok_iff.1 hsave
    rfl
  have hnumber : store.numberAt name result.1.id = 0 := by
    rw [hplace, numberAt, hfree]
    rfl
  have hcounted : numberOf? result.1.revision = some (store.numberAt name result.1.id + 1) :=
    (saveDocument_counted hsave).number
  rw [hcounted, hnumber]

end Store

/-- **The number in a revision counts the writes.**  After every history of a store, whoever made
    the requests:
    the revision of every document that can be read begins with one plus the number of writes to its
    place since the one that created it, saves and merges that succeeded;
    a removal that succeeds returns a revision with the number after that of the document removed;
    and where the latest write was a removal, a save that names no revision succeeds, and every save
    that succeeds begins with one. -/
theorem number_counts_writes {token : Nat → String} {past : List Exchange} {store : Store}
    (reached : Store.Reached token past store) :
    (∀ name id doc, store.getDocument name id = .ok doc →
      ∃ revision since created before, doc.get? Field.revision = some (.string revision) ∧
        LastCreation (writesTo past name id) since created before ∧
        Store.numberOf? revision = some (1 + since.length)) ∧
    (∀ name id revision receipt next,
      store.removeDocument token name id revision = .ok (receipt, next) →
        ∃ doc n, store.getDocument name id = .ok doc ∧
          doc.get? Field.revision = some (.string revision) ∧
          Store.numberOf? revision = some n ∧
          Store.numberOf? receipt.revision = some (n + 1)) ∧
    (∀ name id w, lastWrite? past name (store.assigned token id) = some w → w.removes = true →
      ∀ body,
        (Store.namedRevision body = .ok none →
          ∃ result, store.saveDocument token name id body = .ok result) ∧
        ∀ receipt next, store.saveDocument token name id body = .ok (receipt, next) →
          Store.numberOf? receipt.revision = some 1) := by
  refine ⟨fun _ _ _ => reached.number_of_get, fun _ _ _ _ _ => reached.number_of_remove, ?_⟩
  intro name given w hlast hremoves body
  have hfree := reached.held?_of_removed hlast hremoves
  refine ⟨fun hnamed => ?_, fun _ _ => Store.number_of_save hfree⟩
  obtain ⟨hwritten, hplace, -⟩ := lastWrite?_eq_some hlast
  obtain ⟨db, hdb⟩ := Option.isSome_iff_exists.1 (reached.database_of_write w hwritten)
  rw [hplace] at hdb
  rw [Store.held?_of_get? hdb] at hfree
  have hseq : Store.nextSeq (db.get? (store.assigned token given)) none = some 1 := by
    rw [hfree]
    rfl
  exact ⟨_, Store.saveDocument_eq_ok_iff.2 ⟨none, db, 1, hnamed, hdb, hseq, rfl⟩⟩

/-- The history and the store of a note that was created, changed and removed, with another note
    beside it. -/
def removedNote : List Exchange × Store :=
  Store.respondAll Store.countedToken [] (Store.empty true)
    [.createDatabase "notes", .saveDocument "notes" (some "a") [],
      .mergeDocument "notes" "a" [("n", .int32 1)], .saveDocument "notes" (some "b") [],
      .removeDocument "notes" "a" (Store.revisionText 2 (Store.countedToken 2))]

/-- The same when the note was created again and changed, with a save in between that failed. -/
def revivedNote : List Exchange × Store :=
  Store.respondAll Store.countedToken removedNote.1 removedNote.2
    [.saveDocument "notes" (some "a") [], .saveDocument "notes" (some "a") [],
      .mergeDocument "notes" "a" [("n", .int32 2)]]

/-- Five writes to the note are in its history, and it counts the two since it was created again. -/
theorem revivedNote_counts_anew :
    Store.Reached Store.countedToken revivedNote.1 revivedNote.2 ∧
    (writesTo revivedNote.1 "notes" "a").length = 5 ∧
    (∃ doc, revivedNote.2.getDocument "notes" "a" = .ok doc ∧
      ∃ revision since created before, doc.get? Field.revision = some (.string revision) ∧
        LastCreation (writesTo revivedNote.1 "notes" "a") since created before ∧
        Store.numberOf? revision = some (1 + since.length) ∧ since.length = 1) ∧
    (∃ receipt next, revivedNote.2.removeDocument Store.countedToken "notes" "a"
        (Store.revisionText 2 (Store.countedToken 8)) = .ok (receipt, next) ∧
      ∃ n, Store.numberOf? receipt.revision = some (n + 1) ∧ n = 2) ∧
    ∃ receipt next, removedNote.2.saveDocument Store.countedToken "notes" (some "a") [] =
        .ok (receipt, next) ∧ Store.numberOf? receipt.revision = some 1 := by
  have removed : Store.Reached Store.countedToken removedNote.1 removedNote.2 :=
    (Store.Reached.empty true).respondAll _
  have revived : Store.Reached Store.countedToken revivedNote.1 revivedNote.2 :=
    removed.respondAll _
  -- One history is looked at twice: where the note is alive again, and right behind its removal.
  obtain ⟨live, removes, -⟩ := number_counts_writes revived
  obtain ⟨-, -, again⟩ := number_counts_writes removed
  obtain ⟨⟨receipt, next⟩, hremove⟩ : ∃ result, revivedNote.2.removeDocument Store.countedToken
      "notes" "a" (Store.revisionText 2 (Store.countedToken 8)) = .ok result := ⟨_, rfl⟩
  refine ⟨revived, by decide, ⟨_, rfl, ?shown⟩, ⟨receipt, next, hremove, ?next⟩, ?first⟩
  case shown =>
    obtain ⟨revision, since, created, before, hrevision, hcreated, hnumber⟩ :=
      live "notes" "a" _ rfl
    refine ⟨revision, since, created, before, hrevision, hcreated, hnumber, ?_⟩
    cases hrevision
    have htwo : Store.numberOf? (Store.revisionText 2 (Store.countedToken 8)) = some 2 :=
      Store.numberOf?_revisionText 2 _
    have hsame := htwo.symm.trans hnumber
    have hlength := Option.some.inj hsame
    omega
  case next =>
    obtain ⟨_, n, -, -, hn, hreceipt⟩ := removes "notes" "a" _ _ _ hremove
    exact ⟨n, hreceipt, Option.some.inj (hn.symm.trans (Store.numberOf?_revisionText 2 _))⟩
  case first =>
    obtain ⟨succeeds, starts⟩ := again "notes" (some "a")
      ⟨"notes", "a", Store.revisionText 3 (Store.countedToken 5), true⟩ (by decide) rfl []
    obtain ⟨⟨receipt, next⟩, hsave⟩ := succeeds rfl
    exact ⟨receipt, next, hsave, starts receipt next hsave⟩

end DocStore
