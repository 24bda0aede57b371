/-
  Updates under revisions.

  A document in a batch may carry the revision that its writer has read.  It should then replace
  what is stored only if that revision is still the current one, and otherwise fail without a trace.
  `RevisionGuarded` is this rule for one document, at the moment when its turn comes.

  The service decides by the text of the revision whether to replace or to merge.  What is no text
  names no revision to it, so a document that carries a number as its revision is merged into what
  is stored, whatever the revision of that is.  `update_guards_iff_text` says that this is the only
  way to break the rule: it holds exactly for revisions that are text, or where nothing is stored.

  A batch handles its documents one after another, so what is said about a turn is said about every
  document of every batch.
-/
import DocStore.Proofs.Service.Refusal
import DocStore.Proofs.Service.Single
import DocStore.Proofs.Store.Writes

namespace DocStore

/-! ## What is written of a document

  Replacing and patching drop the same fields. -/

namespace Service

/-- Taking out the identifier leaves the revision where it is. -/
theorem get?_takeIdentifier_revision (doc : Document) :
    doc.takeIdentifier.2.get? Field.revision = doc.get? Field.revision := by
  show ((doc.erase Field.id).erase Field.publicId).get? Field.revision = _
  rw [Entries.get?_erase_of_ne _ (by decide), Entries.get?_erase_of_ne _ (by decide)]

theorem get?_patchFields_id (doc : Document) : (patchFields doc).get? Field.id = none :=
  Entries.get?_erase_eq_none (Entries.get?_erase_eq_none (Entries.get?_erase_self _ _) _) _

/-- A replacement stores the same fields that a patch writes. -/
theorem stripped_takeIdentifier (doc : Document) :
    Store.stripped doc.takeIdentifier.2 = patchFields doc :=
  Entries.erase_of_get?_eq_none (get?_patchFields_id doc)

/-- All that a patch writes may be written. -/
theorem writable_patchFields (doc : Document) :
    Store.writable (patchFields doc) = patchFields doc := by
  rw [Store.writable, Entries.erase_of_get?_eq_none (get?_patchFields_id doc)]
  exact Entries.erase_of_get?_eq_none (Entries.get?_erase_self _ _)

end Service

/-! ## What comes of one document

  A write request succeeds or fails on the settled store, and the operation reads behind it or
  ends.  `Applied` and `Refused` say so in terms of what is held. -/

/-- The record that a document leaves in place of another one. -/
def Record.replaced (token : Nat → String) (issued : Nat) (record : Record) (doc : Document) :
    Record :=
  ⟨record.seq + 1, Store.revisionText (record.seq + 1) (token (issued + 1)),
    Service.patchFields doc⟩

/-- The record that a document leaves when its fields are written over another one. -/
def Record.patched (token : Nat → String) (issued : Nat) (record : Record) (doc : Document) :
    Record :=
  ⟨record.seq + 1, Store.revisionText (record.seq + 1) (token issued),
    record.body.overlay (Service.patchFields doc)⟩

/-- A write took effect: its place holds this record now, every other place what it held, and the
    caller is shown what was written. -/
structure Applied (model id : String) (new : Record) (handle : Handle Store)
    (run : Except ServiceError Document × Handle Store) : Prop where
  shown : run.1 = .ok (new.shown id).toPublic
  held : ∀ n i, run.2.store.held? n i =
    if n = model ∧ i = id then some new else handle.store.held? n i

/-- Behind a write that took effect, its place holds what it wrote. -/
theorem Applied.held_self {model id : String} {new : Record} {handle : Handle Store}
    {run : Except ServiceError Document × Handle Store} (h : Applied model id new handle run) :
    run.2.store.held? model id = some new := by
  rw [h.held, if_pos ⟨rfl, rfl⟩]

/-- A write failed, and every place holds what it held. -/
structure Refused (handle : Handle Store) (run : Except ServiceError Document × Handle Store) :
    Prop where
  failed : ∃ e, run.1 = .error e
  held : ∀ n i, run.2.store.held? n i = handle.store.held? n i

/-- The rule for a document that carries a revision: it replaces what is held if it carries the
    revision of that, and is refused in all other cases. -/
structure RevisionGuarded (token : Nat → String) (model id : String) (doc : Document)
    (handle : Handle Store) (run : Except ServiceError Document × Handle Store) : Prop where
  replaces : ∀ record, handle.store.held? model id = some record →
    doc.get? Field.revision = some (.string record.revision) →
      Applied model id (record.replaced token handle.store.issued doc) handle run
  refuses : (∀ record, handle.store.held? model id = some record →
    doc.get? Field.revision ≠ some (.string record.revision)) → Refused handle run

namespace Service

variable {token : Nat → String} {model id : String} {paginate : Paginate} {handle : Handle Store}

/-- A write request that succeeds on the settled store takes effect. -/
theorem applied_of_step {request : Request} {answer : request.Answer} {next : Store} {new : Record}
    (hstep : (handle.settled model).store.step token request = .ok (answer, next))
    (hheld : ∀ n i, next.held? n i =
      if n = model ∧ i = id then some new else (handle.settled model).store.held? n i) :
    Applied model id new handle
      (((overMemory token model paginate).writeAndGet request id).runOn handle) := by
  have hnew : next.held? model id = some new := by rw [hheld, if_pos ⟨rfl, rfl⟩]
  rw [runOn_writeAndGet hstep hnew]
  refine ⟨rfl, fun n i => ?_⟩
  rw [hheld, held?_settled]

/-- A write request that fails on the settled store is refused. -/
theorem refused_of_step {request : Request} {e : StoreError}
    (hstep : (handle.settled model).store.step token request = .error e) :
    Refused handle
      (((overMemory token model paginate).writeAndGet request id).runOn handle) := by
  rw [runOn_writeAndGet_error hstep]
  exact ⟨⟨_, rfl⟩, held?_settled handle model⟩

/-- Where something is held, a patch puts the patched record in its place. -/
theorem patch_applied {record : Record} (hheld : handle.store.held? model id = some record)
    (doc : Document) :
    Applied model id (record.patched token handle.store.issued doc) handle
      (((overMemory token model paginate).patch id doc).runOn handle) := by
  obtain ⟨receipt, next, hmerge, hnext⟩ := Store.mergeDocument_of_held token
    ((held?_settled handle model model id).trans hheld) (patchFields doc)
  have hstep : (handle.settled model).store.step token (.mergeDocument model id (patchFields doc)) =
      .ok (receipt, next) := hmerge
  rw [writable_patchFields, Handle.settled_issued] at hnext
  rw [patch_eq]
  exact applied_of_step hstep hnext

/-- Where nothing is held, it is refused and changes nothing. -/
theorem patch_refused (hheld : handle.store.held? model id = none) (doc : Document) :
    Refused handle (((overMemory token model paginate).patch id doc).runOn handle) := by
  obtain ⟨e, hmerge⟩ := Store.mergeDocument_of_missing token
    ((held?_settled handle model model id).trans hheld) (patchFields doc)
  have hstep : (handle.settled model).store.step token (.mergeDocument model id (patchFields doc)) =
      .error e := hmerge
  rw [patch_eq]
  exact refused_of_step hstep

/-- A revision that is no text is passed over: the document is a patch. -/
theorem updateOne_of_no_text {doc : Document} {value : Value}
    (h : doc.get? Field.revision = some value) (htext : ∀ revision, value ≠ .string revision) :
    (overMemory token model paginate).updateOne id doc =
      (overMemory token model paginate).patch id doc := by
  rw [updateOne, Document.revision?_of_no_text h htext]
  rfl

/-- Under a revision that is text, the document is saved. -/
theorem updateOne_of_text {doc : Document} {revision : String}
    (h : doc.get? Field.revision = some (.string revision)) :
    (overMemory token model paginate).updateOne id doc =
      (overMemory token model paginate).writeAndGet
        (.saveDocument model (some id) doc.takeIdentifier.2) id := by
  rw [updateOne, Document.revision?_of_text h]
  rfl

/-- Text keeps to the rule, because the store compares it with the current revision. -/
theorem guarded_of_text {doc : Document} {revision : String}
    (h : doc.get? Field.revision = some (.string revision)) :
    RevisionGuarded token model id doc handle
      (((overMemory token model paginate).updateOne id doc).runOn handle) := by
  rw [updateOne_of_text h]
  constructor
  · intro record hheld hcurrent
    obtain ⟨receipt, next, hsave, hnext⟩ := Store.saveDocument_of_current token
      ((held?_settled handle model model id).trans hheld)
      ((get?_takeIdentifier_revision doc).trans hcurrent)
    have hstep : (handle.settled model).store.step token
        (.saveDocument model (some id) doc.takeIdentifier.2) = .ok (receipt, next) := hsave
    rw [stripped_takeIdentifier, Handle.settled_issued] at hnext
    exact applied_of_step hstep hnext
  · intro hstale
    -- Whatever is held has another revision, and a save that names one needs it to be current.
    have hother : ∀ record, (handle.settled model).store.held? model id = some record →
        record.revision ≠ revision := by
      rintro record hheld rfl
      rw [held?_settled] at hheld
      exact hstale record hheld h
    obtain ⟨e, hsave⟩ := Store.saveDocument_of_stale token
      ((get?_takeIdentifier_revision doc).trans h) hother
    have hstep : (handle.settled model).store.step token
        (.saveDocument model (some id) doc.takeIdentifier.2) = .error e := hsave
    exact refused_of_step hstep

/-- A patch takes effect or is refused. -/
theorem patch_cases (token : Nat → String) (model : String) (paginate : Paginate)
    (handle : Handle Store) (id : String) (data : Document) :
    (∃ new, Applied model id new handle
      (((overMemory token model paginate).patch id data).runOn handle)) ∨
    Refused handle (((overMemory token model paginate).patch id data).runOn handle) := by
  cases hheld : handle.store.held? model id with
  | none => exact Or.inr (patch_refused hheld data)
  | some record => exact Or.inl ⟨_, patch_applied hheld data⟩

/-- So does an update of one document, with or without a revision. -/
theorem updateOne_cases (token : Nat → String) (model : String) (paginate : Paginate)
    (handle : Handle Store) (id : String) (doc : Document) :
    (∃ new, Applied model id new handle
      (((overMemory token model paginate).updateOne id doc).runOn handle)) ∨
    Refused handle (((overMemory token model paginate).updateOne id doc).runOn handle) := by
  cases hrevision : doc.revision? with
  | none =>
    have hpatch : (overMemory token model paginate).updateOne id doc =
        (overMemory token model paginate).patch id doc := by
      rw [updateOne, hrevision]
      rfl
    rw [hpatch]
    exact patch_cases token model paginate handle id doc
  | some revision =>
    have htext := Document.get?_of_revision? hrevision
    have guarded : RevisionGuarded token model id doc handle
        (((overMemory token model paginate).updateOne id doc).runOn handle) := guarded_of_text htext
    -- A revision that is named decides alone whether the element is applied.
    by_cases hcurrent : ∃ record, handle.store.held? model id = some record ∧
        doc.get? Field.revision = some (.string record.revision)
    · obtain ⟨record, hheld, hnamed⟩ := hcurrent
      exact Or.inl ⟨_, guarded.replaces record hheld hnamed⟩
    · exact Or.inr (guarded.refuses fun record hheld hnamed => hcurrent ⟨record, hheld, hnamed⟩)

end Service

/-! ## Turns of a batch

  A batch is one update after another, so one document of it meets what those in front of it have
  left. -/

namespace Service

theorem targets_append {docs rest : List Document} {named more : List (String × Document)}
    (h : targets docs = .ok named) (hrest : targets rest = .ok more) :
    targets (docs ++ rest) = .ok (named ++ more) := by
  induction docs generalizing named with
  | nil =>
    cases h
    exact hrest
  | cons doc docs ih =>
    obtain ⟨id, others, hid, hothers, rfl⟩ := targets_cons_eq_ok_iff.1 h
    rw [List.cons_append, targets_cons hid, ih hothers]
    rfl

/-- A batch in which all documents name their targets handles them one after another. -/
theorem update_batch {σ : Type} (service : Service σ) {docs : List Document}
    {named : List (String × Document)} (h : targets docs = .ok named) :
    service.update (.batch docs) =
      Action.each (fun target => service.updateOne target.1 target.2) named := by
  rw [update, h]
  rfl

/-- Behind the documents in front of it, a document of a batch meets the store that they left, and
    the documents behind it meet the one that it leaves. -/
theorem runOn_update_turn {σ : Type} (service : Service σ) {start handle : Handle σ}
    {earlier later shown : List Document} {doc : Document} {id : String}
    (hearlier : (service.update (.batch earlier)).runOn start = (.ok shown, handle))
    (hnamed : doc.namedBy? = some id) (hlater : ∀ other ∈ later, other.namedBy?.isSome) :
    (service.update (.batch (earlier ++ doc :: later))).runOn start = (do
      let one ← service.updateOne id doc
      let rest ← service.update (.batch later)
      return shown ++ one :: rest : Operation σ (List Document)).runOn handle := by
  obtain ⟨more, hmore⟩ := targets_of_named hlater
  cases hfront : targets earlier with
  | error e =>
    rw [update, hfront] at hearlier
    cases hearlier
  | ok front =>
    have hbehind : targets (doc :: later) = .ok ((id, doc) :: more) := by
      rw [targets_cons hnamed, hmore]
      rfl
    rw [update_batch service hfront] at hearlier
    rw [update_batch service (targets_append hfront hbehind), Action.each_append,
      Action.runOn_bind_ok _ hearlier, update_batch service hmore]
    simp only [Action.each, bind_assoc, pure_bind]

end Service

/-- **Revisions guard updates exactly if they are text.**  Take a document with an identifier and
    any value as its revision.
    In every batch, once the documents in front of it succeeded, it meets the store that they left,
    and what comes of it decides how the batch goes on.
    Over every store, it then keeps to the rule, to replace exactly what has the revision that it
    carries and to be refused otherwise, if and only if that revision is text or nothing is held
    under its identifier.
    Where something is held and the revision is no text, the document is written over it, whatever
    the revision of what is held. -/
theorem update_guards_iff_text (token : Nat → String) (model : String) (paginate : Paginate)
    {doc : Document} {id : String} {value : Value} (named : doc.namedBy? = some id)
    (carries : doc.get? Field.revision = some value) :
    (∀ (start handle : Handle Store) (earlier later shown : List Document),
      ((Service.overMemory token model paginate).update (.batch earlier)).runOn start =
          (.ok shown, handle) →
        (∀ other ∈ later, other.namedBy?.isSome) →
        ((Service.overMemory token model paginate).update
            (.batch (earlier ++ doc :: later))).runOn start = (do
          let one ← (Service.overMemory token model paginate).updateOne id doc
          let rest ← (Service.overMemory token model paginate).update (.batch later)
          return shown ++ one :: rest : Operation Store (List Document)).runOn handle) ∧
    (∀ handle : Handle Store,
      RevisionGuarded token model id doc handle
          (((Service.overMemory token model paginate).updateOne id doc).runOn handle) ↔
        (∃ revision, value = .string revision) ∨ handle.store.held? model id = none) ∧
    (∀ (handle : Handle Store) (record : Record), handle.store.held? model id = some record →
      (∀ revision, value ≠ .string revision) →
        Applied model id (record.patched token handle.store.issued doc) handle
          (((Service.overMemory token model paginate).updateOne id doc).runOn handle)) := by
  have overwrites : ∀ (handle : Handle Store) (record : Record),
      handle.store.held? model id = some record → (∀ revision, value ≠ .string revision) →
        Applied model id (record.patched token handle.store.issued doc) handle
          (((Service.overMemory token model paginate).updateOne id doc).runOn handle) := by
    intro handle record hheld htext
    rw [Service.updateOne_of_no_text carries htext]
    exact Service.patch_applied hheld doc
  refine ⟨?turn, fun handle => ⟨?necessary, ?sufficient⟩, overwrites⟩
  case turn =>
    intro start handle earlier later shown hearlier hlater
    exact Service.runOn_update_turn _ hearlier named hlater
  case necessary =>
    intro hguarded
    by_cases htext : ∃ revision, value = .string revision
    · exact Or.inl htext
    · have hother : ∀ revision, value ≠ .string revision := not_exists.1 htext
      cases hheld : handle.store.held? model id with
      | none => exact Or.inr rfl
      | some record =>
        -- The document took effect, but the rule wants it refused: it carries no current revision.
        have happlied := overwrites handle record hheld hother
        obtain ⟨e, hfailed⟩ := (hguarded.refuses fun record _ hcurrent =>
          hother record.revision (Option.some.inj (carries.symm.trans hcurrent))).failed
        rw [happlied.shown] at hfailed
        cases hfailed
  case sufficient =>
    by_cases htext : ∃ revision, value = .string revision
    · obtain ⟨revision, rfl⟩ := htext
      exact fun _ => Service.guarded_of_text carries
    · intro hfree
      have hnone := hfree.resolve_left htext
      rw [Service.updateOne_of_no_text carries (not_exists.1 htext)]
      refine ⟨fun record hheld => ?_, fun _ => Service.patch_refused hnone doc⟩
      rw [hnone] at hheld
      cases hheld

/-- A handle over a store that holds one document, with five under `n`. -/
def counterHeld : Handle Store :=
  ⟨(Store.respondAll Store.countedToken [] (Store.empty true)
    [.createDatabase "notes", .saveDocument "notes" (some "a") [("n", .int32 5)]]).2, false⟩

/-- Six instead of five, under the revision that is held. -/
def countedOn : Document :=
  [("_id", .string "a"), ("_rev", .string (Store.revisionText 1 (Store.countedToken 1))),
    ("n", .int32 6)]

/-- Six instead of five, under a number as the revision. -/
def countedBlindly : Document :=
  [("_id", .string "a"), ("_rev", .int32 7), ("n", .int32 6)]

/-- Under the revision that is held, the document replaces what is held. -/
theorem counted_under_current_revision :
    countedOn.namedBy? = some "a" ∧
    countedOn.get? Field.revision =
      some (.string (Store.revisionText 1 (Store.countedToken 1))) ∧
    RevisionGuarded Store.countedToken "notes" "a" countedOn counterHeld
      (((Service.overMemory Store.countedToken "notes" {}).updateOne "a" countedOn).runOn
        counterHeld) ∧
    (counterHeld.store.held? "notes" "a").map Record.revision =
      some (Store.revisionText 1 (Store.countedToken 1)) := by
  have named : countedOn.namedBy? = some "a" := rfl
  have carries : countedOn.get? Field.revision =
      some (.string (Store.revisionText 1 (Store.countedToken 1))) := rfl
  obtain ⟨-, guards, -⟩ := update_guards_iff_text Store.countedToken "notes" {} named carries
  exact ⟨named, carries, (guards counterHeld).2 (Or.inl ⟨_, rfl⟩), rfl⟩

/-- A number is not the revision that is held, and yet the document is written. -/
theorem counted_blindly_overwrites :
    countedBlindly.namedBy? = some "a" ∧
    countedBlindly.get? Field.revision = some (.int32 7) ∧
    ¬ RevisionGuarded Store.countedToken "notes" "a" countedBlindly counterHeld
      (((Service.overMemory Store.countedToken "notes" {}).updateOne "a" countedBlindly).runOn
        counterHeld) ∧
    (((Service.overMemory Store.countedToken "notes" {}).update (.batch [countedBlindly])).runOn
      counterHeld).1 = .ok [[("id", .string "a"), ("n", .int32 6)]] := by
  refine ⟨rfl, rfl, fun hguarded => ?_, rfl⟩
  have hrefused := hguarded.refuses fun record _ hcurrent => nomatch Option.some.inj hcurrent
  obtain ⟨e, hfailed⟩ := hrefused.failed
  cases hfailed

end DocStore
