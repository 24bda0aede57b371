/-
  The identifier that callers are shown.

  A document leaves the store with its identifier under `_id`, and callers are meant to see that
  identifier as `id`.  A store takes bodies from all of its clients, though, and a body may have a
  field `id` of its own.  The caller's view is built by writing the other fields behind the
  identifier, so such a field is written over it (`Document.toPublic_of_distinct`): what is shown in
  front is the body's field if there is one, and the identifier only if there is none.

  `public_id_is_stored_iff` says this of everything that a store returns, whoever wrote it, and of
  what a service shows: the identifier in front is the stored one exactly where the body has no
  field `id`, or one that repeats the identifier.  Where it has another, what is shown addresses
  some other document or, as beside the theorem, none.
-/
import DocStore.Proofs.Find.Rows
import DocStore.Proofs.Service.Single

namespace DocStore

/-! ## The shape of what is shown -/

namespace Document

variable {doc : Document}

/-- A document is shown with its own field `id` in front if it has one, else with its identifier,
    and behind that with the fields that stand for neither identifier nor revision. -/
theorem toPublic_of_distinct {identifier : Value} (h : Entries.Distinct doc)
    (hid : doc.get? Field.id = some identifier) :
    doc.toPublic = (Field.publicId, (doc.get? Field.publicId).getD identifier) :: doc.fields := by
  have hrest : Entries.Distinct ((doc.erase Field.id).erase Field.revision) :=
    (h.filter _).filter _
  have hone : Entries.Distinct [(Field.publicId, identifier)] :=
    Entries.distinct_cons_iff.2 ⟨rfl, Entries.Distinct.nil⟩
  have hown : ((doc.erase Field.id).erase Field.revision).get? Field.publicId =
      doc.get? Field.publicId := by
    rw [Entries.get?_erase_of_ne _ (by decide), Entries.get?_erase_of_ne _ (by decide)]
  -- Of the other fields, those under the public name are the only ones that would be written over.
  have hbehind : (((doc.erase Field.id).erase Field.revision).filter fun field =>
      !Entries.contains [(Field.publicId, identifier)] field.1) = doc.fields := by
    rw [fields_eq_erase, Entries.erase_comm _ Field.publicId]
    refine List.filter_congr fun field _ => ?_
    rw [Entries.contains, Entries.get?_cons]
    by_cases hfield : Field.publicId = field.1
    · rw [if_pos hfield]
      exact (decide_eq_false (not_not_intro hfield.symm)).symm
    · rw [if_neg hfield]
      exact (decide_eq_true (Ne.symm hfield)).symm
  rw [toPublic, hid]
  show Entries.overlay [(Field.publicId, identifier)] _ = _
  rw [Entries.overlay_eq_overlaid hone hrest, Entries.overlaid, hbehind, List.map_singleton, hown]
  rfl

/-- The identifier is in front of the fields exactly if no other value stands in its place. -/
theorem eq_under_iff {own : Option Value} {fields : Document} {id : String} :
    (Field.publicId, own.getD (.string id)) :: fields = under fields id ↔
      ∀ value, own = some value → value = .string id := by
  cases own with
  | none =>
    refine ⟨fun _ value hvalue => ?_, fun _ => rfl⟩
    cases hvalue
  | some own =>
    constructor
    · intro hsame value hvalue
      cases hvalue
      exact congrArg Prod.snd (List.cons.inj hsame).1
    · intro hown
      rw [Option.getD_some, hown own rfl, under]

end Document

/-- What callers see of a document that was returned under an identifier. -/
structure Document.SeenUnder (doc : Document) (id : String) : Prop where
  stored : doc.get? Field.id = some (.string id)
  shape : doc.toPublic =
    (Field.publicId, (doc.get? Field.publicId).getD (.string id)) :: doc.fields
  no_id : doc.toPublic.get? Field.id = none
  no_revision : doc.toPublic.get? Field.revision = none
  /-- The identifier is in front exactly if no other value stands in its place. -/
  identified : doc.toPublic = doc.fields.under id ↔
    ∀ value, doc.get? Field.publicId = some value → value = .string id

/-- Where no key is repeated, the identifier is not hidden by another one. -/
theorem Document.seenUnder_of_distinct {doc : Document} {id : String} (h : Entries.Distinct doc)
    (hid : doc.get? Field.id = some (.string id)) : doc.SeenUnder id := by
  have hshape := toPublic_of_distinct h hid
  refine ⟨hid, hshape, ?_, ?_, ?_⟩
  · rw [hshape, Entries.get?_cons, if_neg (by decide), doc.bare_fields.no_id]
  · rw [hshape, Entries.get?_cons, if_neg (by decide), doc.bare_fields.no_revision]
  · rw [hshape]
    exact eq_under_iff

/-! ## What a store returns -/

/-- A request was answered with a document under this identifier: the one that was asked for, or one
    in the rows of a view. -/
def Request.Returns : (request : Request) → request.Answer → String → Document → Prop
  | .getDocument _ asked, shown, id, doc => id = asked ∧ doc = shown
  | .evaluateTransient _ _ _, result, id, doc => ∃ row ∈ result.rows, id = row.id ∧ doc = row.value
  | .invokeView _ _ _, result, id, doc => ∃ row ∈ result.rows, id = row.id ∧ doc = row.value
  | _, _, _, _ => False

namespace Store

variable {token : Nat → String} {store next : Store} {id : String} {doc : Document}

/-- Whatever a store returns shows what it holds, in the shape of a projection. -/
theorem held_of_returns (hwf : store.WellFormed) {request : Request} {answer : request.Answer}
    (h : store.step token request = .ok (answer, next)) (hdoc : request.Returns answer id doc) :
    ∃ (record : Record) (projection : Projection),
      store.held? request.database id = some record ∧
        doc = projection.apply (record.shown id) := by
  -- Views come from a scan, and each of their rows from one record of it.
  have rows : ∀ {name : String} {view : Definition} {options : ViewOptions} {db : Database},
      store.databases.get? name = some db →
      ∀ row ∈ (view.evaluate (db.entries.map fun entry => entry.2.shown entry.1) options).rows,
        ∃ (record : Record) (projection : Projection), store.held? name row.id = some record ∧
          row.value = projection.apply (record.shown row.id) := by
    intro name view options db hdb row hrow
    obtain ⟨record, hget, hvalue⟩ := view.rows_of_evaluate (hwf.database hdb) options hrow
    exact ⟨record, view.projection, (held?_of_get? hdb _).trans hget, hvalue⟩
  cases request with
  | getDocument name asked =>
    obtain ⟨rfl, rfl⟩ := hdoc
    obtain ⟨record, hheld, rfl⟩ := getDocument_eq_ok_iff.1
      (congrArg Prod.fst (Action.stepOn_eq_ok_iff.1 h))
    exact ⟨record, .all, hheld, rfl⟩
  | evaluateTransient name view options =>
    obtain ⟨row, hrow, rfl, rfl⟩ := hdoc
    obtain ⟨db, hdb, rfl⟩ := evaluateTransient_eq_ok
      (congrArg Prod.fst (Action.stepOn_eq_ok_iff.1 h))
    exact rows hdb row hrow
  | invokeView name view options =>
    obtain ⟨row, hrow, rfl, rfl⟩ := hdoc
    obtain ⟨definition, db, hdb, rfl⟩ := invokeView_eq_ok
      (congrArg Prod.fst (Action.stepOn_eq_ok_iff.1 h))
    exact rows hdb row hrow
  | _ => exact hdoc.elim

end Store

/-! ## What a service shows -/

namespace Record

variable {record : Record} {id : String}

/-- Of what the store shows, callers see the body's own field `id` or the identifier, and behind it
    the other fields of the body. -/
theorem WellFormed.toPublic_shown (h : record.WellFormed) (id : String) :
    (record.shown id).toPublic =
      (Field.publicId, ((Entries.ofList record.body).get? Field.publicId).getD (.string id)) ::
        Document.fields (Entries.ofList record.body) := by
  rw [Document.toPublic_of_distinct (record.distinct_shown id) (h.get?_shown_id id),
    shown_of_none h.no_id h.no_revision]
  rfl

end Record

/-- **The identifier that is shown is the stored one exactly where no field `id` of the document
    says otherwise.**  Take any state of a store that a service works on, with documents that
    anybody wrote, by saving or by merging.
    Every document that the store returns, asked for by its identifier or in a row of a view, has
    that identifier under `_id`.  Callers see no `_id` and no revision of it; in front they see its
    field `id` if it has one, and else the identifier; behind that stand its other fields in their
    order.
    So what a service shows of the document under an identifier has that identifier in front if and
    only if the body has no field `id` or one that repeats the identifier. -/
theorem public_id_is_stored_iff {token : Nat → String} {model : String} {handle : Handle Store}
    (paginate : Paginate) (reached : Service.Reached token model handle) :
    (∀ (request : Request) (answer : request.Answer) (next : Store) (id : String) (doc : Document),
      handle.store.step token request = .ok (answer, next) → request.Returns answer id doc →
        doc.SeenUnder id) ∧
    (∀ (id : String) (record : Record), handle.store.held? model id = some record →
      let body : Document := Entries.ofList record.body
      let shown := (((Service.overMemory token model paginate).get id).runOn handle).1
      shown = .ok ((Field.publicId, (body.get? Field.publicId).getD (.string id)) :: body.fields) ∧
      (shown = .ok (body.fields.under id) ↔
        ∀ value, body.get? Field.publicId = some value → value = .string id)) := by
  have hwf := reached.wellFormed
  refine ⟨?_, ?_⟩
  · intro request answer next id doc hstep hdoc
    obtain ⟨record, projection, hheld, rfl⟩ := Store.held_of_returns hwf hstep hdoc
    have hid := (hwf _ _ _ hheld).get?_shown_id id
    exact Document.seenUnder_of_distinct (projection.distinct_apply (record.distinct_shown id))
      (projection.get?_apply_id hid)
  · intro id record hheld body shown
    have hrecord := hwf _ _ _ hheld
    have hshown : shown = .ok
        ((Field.publicId, (body.get? Field.publicId).getD (.string id)) :: body.fields) := by
      rw [← hrecord.toPublic_shown id]
      exact congrArg Prod.fst (Service.runOn_get hheld)
    -- What is shown has the right identifier in front exactly if the body holds no other one.
    refine ⟨hshown, ?_⟩
    rw [hshown, Except.ok.injEq]
    exact Document.eq_under_iff

/-- A handle over a store that holds two documents, of which the first has a field `id`. -/
def misnamedHeld : Handle Store :=
  ⟨(Store.respondAll Store.countedToken [] (Store.empty true)
    [.createDatabase "notes",
      .saveDocument "notes" (some "a") [("id", .string "b"), ("n", .int32 5)],
      .saveDocument "notes" (some "c") [("n", .int32 6)]]).2, false⟩

/-- The document without such a field is shown under its identifier. -/
theorem named_document_is_shown :
    Service.Reached Store.countedToken "notes" misnamedHeld ∧
    Document.SeenUnder [("_id", .string "c"),
      ("_rev", .string (Store.revisionText 1 (Store.countedToken 3))), ("n", .int32 6)] "c" ∧
    (((Service.overMemory Store.countedToken "notes" {}).get "c").runOn misnamedHeld).1 =
      .ok [("id", .string "c"), ("n", .int32 6)] := by
  have reached : Service.Reached Store.countedToken "notes" misnamedHeld :=
    .built ((Store.Reached.empty true).respondAll _)
  obtain ⟨returned, shown⟩ := public_id_is_stored_iff {} reached
  refine ⟨reached, returned (.getDocument "notes" "c") _ _ _ _ rfl ⟨rfl, rfl⟩, ?_⟩
  refine (shown "c" _ rfl).2.2 fun value hvalue => ?_
  cases hvalue

/-- The other one is returned under its identifier and shown under its field, and under that
    nothing can be read. -/
theorem misnamed_document_is_shown :
    Service.Reached Store.countedToken "notes" misnamedHeld ∧
    misnamedHeld.store.step Store.countedToken (.getDocument "notes" "a") =
      .ok ([("_id", .string "a"),
        ("_rev", .string (Store.revisionText 1 (Store.countedToken 1))), ("id", .string "b"),
        ("n", .int32 5)], misnamedHeld.store) ∧
    (((Service.overMemory Store.countedToken "notes" {}).get "a").runOn misnamedHeld).1 =
      .ok [("id", .string "b"), ("n", .int32 5)] ∧
    (((Service.overMemory Store.countedToken "notes" {}).get "b").runOn misnamedHeld).1 =
      .error (.notFound (StoreError.notFound "b" "notes").message) := by
  refine ⟨?_, rfl, rfl, rfl⟩
  exact .built ((Store.Reached.empty true).respondAll _)

end DocStore
