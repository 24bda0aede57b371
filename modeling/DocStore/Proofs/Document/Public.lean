/-
  Documents as they are stored and as they are shown.

  Three names stand for identifier and revision: `_id` and `_rev` in the store, `id` for callers.
  A document with none of them is bare.  What a service writes is `Document.fields` of what it was
  given, which is bare, and bare documents written over bare documents are bare.

  Over a bare body the two ways in which the library shows a document come to the same.  A document
  that was read from the store (`Record.toPublic_shown`) and one that was just created
  (`Document.toPublic_insert_id`) have the identifier in front and the body behind it, and nothing
  else.
-/
import DocStore.Proofs.Document.Distinct
import DocStore.Service.Write
import DocStore.Store.Memory

namespace DocStore

namespace Document

/-- None of the names of identifier and revision is among the fields. -/
structure Bare (doc : Document) : Prop where
  no_id : doc.get? Field.id = none
  no_revision : doc.get? Field.revision = none
  no_publicId : doc.get? Field.publicId = none

/-- The fields that stand for neither identifier nor revision, in their order. -/
def fields (doc : Document) : Document :=
  doc.filter fun field =>
    !(field.1 == Field.id || field.1 == Field.publicId || field.1 == Field.revision)

/-- Fields with an identifier in front, as callers see a document. -/
def under (fields : Document) (id : String) : Document :=
  (Field.publicId, .string id) :: fields

/-- The identifier under which a new document is filed: the one that it gives, as such identifiers
    are filed, or else a generated one. -/
def filedAs (doc : Document) (generated : String) : String :=
  (doc.takeIdentifier.1.map filedUnder).getD generated

variable {doc news body : Document} {id : String}

/-! ## Bare documents -/

/-- The fields of a document are what is left without the three that are reserved. -/
theorem fields_eq_erase (doc : Document) :
    doc.fields = ((doc.erase Field.id).erase Field.publicId).erase Field.revision := by
  rw [fields, Entries.erase, Entries.erase, Entries.erase, List.filter_filter, List.filter_filter]
  refine List.filter_congr fun field _ => ?_
  rw [Bool.eq_iff_iff]
  simp only [Bool.not_eq_true', Bool.or_eq_false_iff, beq_eq_false_iff_ne, Bool.and_eq_true,
    decide_eq_true_eq]
  tauto

theorem patchFields_eq (doc : Document) : Service.patchFields doc = doc.fields :=
  (fields_eq_erase doc).symm

/-- They are bare. -/
theorem bare_fields (doc : Document) : doc.fields.Bare := by
  rw [fields_eq_erase]
  refine ⟨?_, Entries.get?_erase_self _ _, ?_⟩
  · exact Entries.get?_erase_eq_none (Entries.get?_erase_eq_none (Entries.get?_erase_self _ _) _) _
  · exact Entries.get?_erase_eq_none (Entries.get?_erase_self _ _) _

theorem distinct_fields (h : Entries.Distinct doc) : Entries.Distinct doc.fields :=
  h.filter _

/-- Writing a bare document over another keeps it bare. -/
theorem Bare.overlay (h : doc.Bare) (hnews : news.Bare) : Bare (doc.overlay news) where
  no_id := (Entries.get?_overlay_of_none hnews.no_id doc).trans h.no_id
  no_revision := (Entries.get?_overlay_of_none hnews.no_revision doc).trans h.no_revision
  no_publicId := (Entries.get?_overlay_of_none hnews.no_publicId doc).trans h.no_publicId

theorem Bare.ofList (h : doc.Bare) : Bare (Entries.ofList doc) :=
  Bare.overlay ⟨rfl, rfl, rfl⟩ h

/-! ## The shape that callers see -/

/-- With an identifier in the store's field and none in the callers' field, a document is shown
    with it in front. -/
theorem toPublic_of_id (hid : doc.get? Field.id = some (.string id))
    (hpublic : doc.get? Field.publicId = none) :
    doc.toPublic = under (Entries.ofList ((doc.erase Field.id).erase Field.revision)) id := by
  have hrest : ((doc.erase Field.id).erase Field.revision).get? Field.publicId = none :=
    Entries.get?_erase_eq_none (Entries.get?_erase_eq_none hpublic _) _
  rw [toPublic, hid]
  exact Entries.overlay_cons_of_none [] hrest

/-- A bare body with an identifier added to it is shown with that in front. -/
theorem toPublic_insert_id (h : body.Bare) (id : String) :
    toPublic (body.insert Field.id (.string id)) = under (Entries.ofList body) id := by
  have hpublic : (body.insert Field.id (.string id)).get? Field.publicId = none :=
    (Entries.get?_insert_of_ne _ _ (by decide)).trans h.no_publicId
  have hrest : (body.insert Field.id (.string id)).erase Field.id = body := by
    rw [Entries.insert_of_new _ h.no_id, Entries.erase, List.filter_append]
    exact (List.append_nil _).trans (Entries.erase_of_get?_eq_none h.no_id)
  rw [toPublic_of_id (Entries.get?_insert_self _ _ _) hpublic, hrest,
    Entries.erase_of_get?_eq_none h.no_revision]

end Document

/-- The store shows identifier and revision in front of a body that has no fields of these names. -/
theorem Record.shown_of_none {record : Record} (hid : record.body.get? Field.id = none)
    (hrevision : record.body.get? Field.revision = none) (id : String) :
    record.shown id =
      (Field.id, .string id) :: (Field.revision, .string record.revision) ::
        Entries.ofList record.body := by
  rw [shown, Entries.overlay_cons_of_none _ hid, Entries.overlay_cons_of_none _ hrevision]
  rfl

/-- A bare body is shown behind its identifier and its revision, field by field. -/
theorem Record.shown_eq {record : Record} (h : record.body.Bare) (id : String) :
    record.shown id =
      (Field.id, .string id) :: (Field.revision, .string record.revision) ::
        Entries.ofList record.body :=
  shown_of_none h.no_id h.no_revision id

/-- Behind identifier and revision, the store shows the body. -/
theorem Record.get?_shown {record : Record} (h : record.body.Bare) (id : String) {key : String}
    (hid : key ≠ Field.id) (hrevision : key ≠ Field.revision) :
    (record.shown id).get? key = (Entries.ofList record.body).get? key := by
  rw [shown_eq h, Entries.get?_cons, if_neg (Ne.symm hid), Entries.get?_cons,
    if_neg (Ne.symm hrevision)]

/-- A bare body that was read from the store is shown with its identifier in front. -/
theorem Record.toPublic_shown {record : Record} (h : record.body.Bare) (id : String) :
    (record.shown id).toPublic = Document.under (Entries.ofList record.body) id := by
  have hlist := h.ofList
  have hpublic : (record.shown id).get? Field.publicId = none := by
    rw [shown_eq h]
    exact hlist.no_publicId
  have hrest : ((record.shown id).erase Field.id).erase Field.revision =
      Entries.ofList record.body := by
    rw [shown_eq h, Entries.erase_cons, if_pos rfl, Entries.erase_cons, if_neg (by decide),
      Entries.erase_of_get?_eq_none hlist.no_id, Entries.erase_cons, if_pos rfl,
      Entries.erase_of_get?_eq_none hlist.no_revision]
  have hid : (record.shown id).get? Field.id = some (.string id) := by
    rw [shown_eq h]
    rfl
  rw [Document.toPublic_of_id hid hpublic, hrest, Entries.ofList_ofList]

end DocStore
