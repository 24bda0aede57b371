/-
  Patches of one document.

  A patch writes the fields of a document over those that are stored, without the fields that stand
  for identifier and revision, and shows what is stored then.  So what two patches leave is what two
  rows of writes leave, and the laws of such rows carry over (`patches_compose`): a patch behind
  another one is one patch with both sets of fields, a patch made again changes nothing but the
  revision, and patches of different fields may change places.  The two ways in which special fields
  are taken out stand in the way of none of this, because taking fields out by their names goes
  through writing over (`Document.fields_overlay`).

  What one patch does to the store and to the identifier is said by `Patched`, for each of
  them in any state that a service can meet, so also for the second of two.
-/
import DocStore.Proofs.Document.Overlay
import DocStore.Proofs.Find.Blind
import DocStore.Proofs.Service.Identifier
import DocStore.Proofs.Service.Update
import DocStore.Proofs.Store.Revisions

namespace DocStore

/-! ## The fields that patches write -/

/-- Whether a name stands for neither identifier nor revision. -/
def Field.isPlain (name : String) : Bool :=
  !(name == Field.id || name == Field.publicId || name == Field.revision)

namespace Document

/-- The fields of a document are those under keys that are not reserved. -/
theorem fields_eq_withKeys (doc : Document) : doc.fields = Entries.withKeys Field.isPlain doc :=
  rfl

/-- So fields may be taken before a write or behind it. -/
theorem fields_overlay (doc news : Document) :
    Document.fields (doc.overlay news) = doc.fields.overlay news.fields :=
  Entries.withKeys_overlay Field.isPlain doc news

theorem get?_fields_congr {doc other : Document} (h : ∀ key, doc.get? key = other.get? key)
    (key : String) : doc.fields.get? key = other.fields.get? key := by
  rw [fields_eq_withKeys, fields_eq_withKeys, Entries.get?_withKeys, Entries.get?_withKeys, h]

end Document

namespace Record

variable {record other : Record} {token : Nat → String}

/-- Records whose bodies have the same entries under each key are shown with the same fields. -/
theorem WellFormed.get?_toPublic_congr (h : record.WellFormed) (hother : other.WellFormed)
    (hbody : Entries.SameUnderKeys record.body other.body) (id key : String) :
    (record.shown id).toPublic.get? key = (other.shown id).toPublic.get? key := by
  have hlist := hbody.ofList.get?_eq
  rw [h.toPublic_shown, hother.toPublic_shown, hlist, Entries.get?_cons, Entries.get?_cons,
    Document.get?_fields_congr hlist]

/-- A patch behind another one leaves what one patch with both sets of fields leaves. -/
theorem body_patched_patched {first : Document} (h : Entries.Distinct first)
    (token : Nat → String) (record : Record) (second : Document) (i j k : Nat) :
    ((record.patched token i first).patched token j second).body =
      (record.patched token k (first.overlay second)).body := by
  rw [patched, patched, patched, Document.patchFields_eq, Document.patchFields_eq,
    Document.patchFields_eq, Document.fields_overlay]
  exact Entries.overlay_overlay (Document.distinct_fields h) _ _

/-- Patches of different fields leave the same entries under each key, in either order. -/
theorem body_patched_comm {first second : Document}
    (h : ∀ key, first.fields.get? key = none ∨ second.fields.get? key = none)
    (token : Nat → String) (record : Record) (i j k l : Nat) :
    Entries.SameUnderKeys ((record.patched token i first).patched token j second).body
      ((record.patched token k second).patched token l first).body := by
  simp only [patched, Document.patchFields_eq]
  exact Entries.overlay_comm_underKeys h _

/-- A patch has no influence on the identifier that is shown. -/
theorem publicId_patched (h : record.WellFormed) {i : Nat} {doc : Document}
    (hpatched : (record.patched token i doc).WellFormed) (id : String) :
    ((record.patched token i doc).shown id).toPublic.get? Field.publicId =
      (record.shown id).toPublic.get? Field.publicId := by
  have hown : (Entries.ofList (record.patched token i doc).body).get? Field.publicId =
      (Entries.ofList record.body).get? Field.publicId := by
    rw [patched, Document.patchFields_eq]
    exact Entries.get?_ofList_overlay_of_none doc.bare_fields.no_publicId _
  rw [h.toPublic_shown, hpatched.toPublic_shown, hown, Entries.get?_cons, Entries.get?_cons,
    if_pos rfl, if_pos rfl]

end Record

/-! ## Runs of patches -/

/-- A patch turned the record of one document into another, and no other document is affected.  The
    document stays under its identifier and is shown with the same one; its revision is none that
    any write returned before, if the tokens that were drawn are different. -/
structure Patched (token : Nat → String) (model id : String) (record new : Record)
    (handle : Handle Store) (run : Except ServiceError Document × Handle Store) : Prop extends
    Applied model id new handle run where
  wellFormed : new.WellFormed
  stored : (new.shown id).get? Field.id = some (.string id)
  named : (new.shown id).toPublic.get? Field.publicId =
    (record.shown id).toPublic.get? Field.publicId
  fresh : ∀ past, Store.Reached token past handle.store →
    DrawsDistinct token (handle.store.issued + 1) →
      new.revision ∉ (writes past).map Write.revision

/-- Two runs show documents, and leave bodies, that are the same in this sense. -/
structure LeaveAlike (same : Document → Document → Prop) (model id : String)
    (run run' : Except ServiceError Document × Handle Store) : Prop where
  shown : ∃ doc doc', run.1 = .ok doc ∧ run'.1 = .ok doc' ∧ same doc doc'
  held : ∃ record record', run.2.store.held? model id = some record ∧
    run'.2.store.held? model id = some record' ∧ same record.body record'.body

/-- Records that are alike leave alike what they are put in place of. -/
theorem Applied.leaveAlike {same : Document → Document → Prop} {model id : String}
    {new new' : Record} {handle handle' : Handle Store}
    {run run' : Except ServiceError Document × Handle Store} (h : Applied model id new handle run)
    (h' : Applied model id new' handle' run') (hbody : same new.body new'.body)
    (hshown : same (new.shown id).toPublic (new'.shown id).toPublic) :
    LeaveAlike same model id run run' where
  shown := ⟨_, _, h.shown, h'.shown, hshown⟩
  held := ⟨_, _, h.held_self, h'.held_self, hbody⟩

namespace Service

variable {token : Nat → String} {model id : String} {handle : Handle Store} {record : Record}

/-- A patch of one document and then another one. -/
def patchTwice {σ : Type} (service : Service σ) (id : String) (first second : Document) :
    Operation σ Document := do
  let _ ← service.patch id first
  service.patch id second

/-- Behind a patch that took effect, the second one runs on what the first one left. -/
theorem runOn_patchTwice (paginate : Paginate)
    (hheld : handle.store.held? model id = some record) (first second : Document) :
    ((overMemory token model paginate).patchTwice id first second).runOn handle =
      ((overMemory token model paginate).patch id second).runOn
        (((overMemory token model paginate).patch id first).runOn handle).2 :=
  Action.runOn_bind_ok _ (Prod.ext (patch_applied hheld first).shown rfl)

/-- **One patch**, in any state that a service can meet with the document. -/
theorem patched_of_held (paginate : Paginate) (reached : Reached token model handle)
    (hheld : handle.store.held? model id = some record) (doc : Document) :
    Patched token model id record (record.patched token handle.store.issued doc) handle
      (((overMemory token model paginate).patch id doc).runOn handle) := by
  have applied : Applied model id (record.patched token handle.store.issued doc) handle
      (((overMemory token model paginate).patch id doc).runOn handle) := patch_applied hheld doc
  have hwf := reached.wellFormed _ _ _ hheld
  have hnew := (reached.next paginate (.patch id doc)).wellFormed _ _ _ applied.held_self
  refine ⟨applied, hnew, hnew.get?_shown_id id, Record.publicId_patched hwf hnew id, ?_⟩
  intro past hpast distinct
  have consistent := hpast.consistent (distinct.mono (Nat.le_succ _))
  exact consistent.not_returned distinct (Nat.le_refl _) (Nat.lt_succ_self _) _

/-- So it is with the second of two. -/
theorem patched_of_patchTwice (paginate : Paginate) (reached : Reached token model handle)
    (hheld : handle.store.held? model id = some record) (first second : Document) :
    let middle := (((overMemory token model paginate).patch id first).runOn handle).2
    let new := record.patched token handle.store.issued first
    Patched token model id new (new.patched token middle.store.issued second) middle
      (((overMemory token model paginate).patchTwice id first second).runOn handle) := by
  intro middle new
  rw [runOn_patchTwice paginate hheld]
  exact patched_of_held paginate (reached.next paginate (.patch id first))
    (patch_applied hheld first).held_self second

end Service

/-- **Patches compose.**  Take a service in any state that it can meet, with a document held in its
    database, and field documents that repeat no key, with whatever they have as identifier and
    revision.
    A patch and then another one leave the same body, with the same order of fields, and show the
    same document as one patch by the second written over the first.
    The same patch twice leaves and shows the same as once.
    Patches by documents that share no field leave and show the same fields in either order.
    And each patch, the second of two like the first, leaves the document under its identifier,
    shown with the same one, under a revision that no write returned before, and leaves every other
    document as it was. -/
theorem patches_compose {token : Nat → String} {model id : String} {handle : Handle Store}
    {record : Record} (paginate : Paginate) (reached : Service.Reached token model handle)
    (held : handle.store.held? model id = some record) :
    let service := Service.overMemory token model paginate
    let once := fun doc => (service.patch id doc).runOn handle
    let twice := fun first second => (service.patchTwice id first second).runOn handle
    (∀ first second : Document, Entries.Distinct first →
      LeaveAlike Eq model id (twice first second) (once (first.overlay second))) ∧
    (∀ doc : Document, Entries.Distinct doc → LeaveAlike Eq model id (twice doc doc) (once doc)) ∧
    (∀ first second : Document,
      (∀ key, first.fields.get? key = none ∨ second.fields.get? key = none) →
        LeaveAlike (fun doc other => ∀ key, doc.get? key = other.get? key) model id
          (twice first second) (twice second first)) ∧
    (∀ first second : Document,
      let middle := (once first).2
      let new := record.patched token handle.store.issued first
      Patched token model id record new handle (once first) ∧
      Patched token model id new (new.patched token middle.store.issued second) middle
        (twice first second)) := by
  intro service once twice
  have hone : ∀ doc, Patched token model id record _ handle (once doc) :=
    Service.patched_of_held paginate reached held
  have htwo : ∀ first second, Patched token model id _ _ _ (twice first second) :=
    Service.patched_of_patchTwice paginate reached held
  have compose : ∀ first second : Document, Entries.Distinct first →
      LeaveAlike Eq model id (twice first second) (once (first.overlay second)) := by
    intro first second distinct
    have hbody := Record.body_patched_patched distinct token record second
      handle.store.issued (once first).2.store.issued handle.store.issued
    exact (htwo first second).toApplied.leaveAlike (hone _).toApplied hbody
      (Record.toPublic_apply_congr hbody .all id)
  -- Patching twice alike is a case of this, as an overlay with itself changes nothing.
  refine ⟨compose, ?_, ?_, fun first second => ⟨hone first, htwo first second⟩⟩
  · intro doc distinct
    have h := compose doc doc distinct
    rwa [distinct.overlay_self] at h
  · intro first second disjoint
    -- Disjoint patches may leave their fields in another order, so this is by look-up.
    have hbody := Record.body_patched_comm disjoint token record handle.store.issued
      (once first).2.store.issued handle.store.issued (once second).2.store.issued
    exact (htwo first second).toApplied.leaveAlike (htwo second first).toApplied hbody.get?_eq
      ((htwo first second).wellFormed.get?_toPublic_congr (htwo second first).wellFormed hbody id)

/-- A history and its store, which holds one document. -/
def pairHeld : List Exchange × Store :=
  Store.respondAll Store.countedToken [] (Store.empty true)
    [.createDatabase "notes",
      .saveDocument "notes" (some "a") [("n", .int32 5), ("m", .int32 1)]]

/-- A new number, with an identifier that does not count. -/
def renumbered : Document :=
  [("id", .string "x"), ("n", .int32 6)]

/-- A title, with a revision that does not count. -/
def titled : Document :=
  [("t", .string "y"), ("_rev", .string "1-z")]

/-- A number and a title are patched in either order. -/
theorem number_and_title_compose :
    let service := Service.overMemory Store.countedToken "notes" {}
    let handle : Handle Store := ⟨pairHeld.2, false⟩
    let both := (service.patchTwice "a" renumbered titled).runOn handle
    Service.Reached Store.countedToken "notes" handle ∧
    both.1 = .ok [("id", .string "a"), ("n", .int32 6), ("m", .int32 1), ("t", .string "y")] ∧
    LeaveAlike Eq "notes" "a" both
      ((service.patch "a" (renumbered.overlay titled)).runOn handle) ∧
    LeaveAlike Eq "notes" "a" ((service.patchTwice "a" titled titled).runOn handle)
      ((service.patch "a" titled).runOn handle) ∧
    LeaveAlike (fun doc other => ∀ key, doc.get? key = other.get? key) "notes" "a" both
      ((service.patchTwice "a" titled renumbered).runOn handle) ∧
    Store.revisionText 2 (Store.countedToken 2) ∉ (writes pairHeld.1).map Write.revision := by
  have history : Store.Reached Store.countedToken pairHeld.1 pairHeld.2 :=
    (Store.Reached.empty true).respondAll _
  have reached : Service.Reached Store.countedToken "notes" ⟨pairHeld.2, false⟩ := .built history
  have held : pairHeld.2.held? "notes" "a" = some ⟨1, Store.revisionText 1 (Store.countedToken 1),
    [("n", .int32 5), ("m", .int32 1)]⟩ := rfl
  have disjoint : ∀ key, renumbered.fields.get? key = none ∨ titled.fields.get? key = none := by
    intro key
    by_cases hkey : "n" = key
    · subst hkey
      exact Or.inr rfl
    · exact Or.inl (if_neg hkey)
  obtain ⟨compose, again, either, patched⟩ := patches_compose {} reached held
  refine ⟨reached, ?_, compose _ _ (by decide), again _ (by decide), either _ _ disjoint, ?_⟩
  · rfl
  · exact (patched renumbered titled).1.fresh _ history (by decide)

end DocStore
