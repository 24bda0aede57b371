/-
  Creations and updates that name the same document.

  A creation and an update read the identifier that a document gives in two ways of their own: a
  creation takes anything that is not null and not empty, and turns it into text; an update takes
  text alone.  Where a document gives its identifier as text (`Document.NamedAs`), in whichever of
  the two fields and whatever stands in the other one, both ways come to the same text.

  What a creation does with that text is one thing more: identifiers of design documents are filed
  in lower case.  All other operations take identifiers as they are written, and so do updates.
  `update_meets_created` says both: an update that is named like a creation changes what the
  creation left and nothing else, unless the creation filed it under another spelling; then it
  changes what is held under the spelling that was given, if there is such a thing.
-/
import DocStore.Proofs.Service.Creation
import DocStore.Proofs.Service.Update

namespace DocStore

/-! ## Identifiers given as text

  Creations and updates read the identifier of a document in ways of their own.  On text that is
  not empty they agree. -/

namespace Document

variable {doc other : Document} {name : String}

/-- Nothing is named under this key: it is missing, null or empty text. -/
def NamesNone (doc : Document) (key : String) : Prop :=
  ∀ value, doc.get? key = some value → value = .null ∨ value = .string ""

/-- The identifier is given as this text: under `_id`, or under `id` where `_id` names nothing. -/
structure NamedAs (doc : Document) (name : String) : Prop where
  nonempty : name ≠ ""
  given : doc.get? Field.id = some (.string name) ∨
    doc.NamesNone Field.id ∧ doc.get? Field.publicId = some (.string name)

theorem text?_of_string {key : String} (h : doc.get? key = some (.string name)) (hne : name ≠ "") :
    doc.text? key = some name := by
  have hfull : name.isEmpty = false := Bool.eq_false_iff.2 fun h => hne (String.isEmpty_iff.1 h)
  rw [text?, h]
  show (some name).filter _ = _
  rw [Option.filter_some, hfull]
  rfl

theorem identifier?_of_string (hne : name ≠ "") : (Value.string name).identifier? = some name :=
  if_neg fun h => hne (String.isEmpty_iff.1 h)

/-- A field that names nothing has no text. -/
theorem NamesNone.text? {key : String} (h : doc.NamesNone key) : doc.text? key = none := by
  refine Document.text?_eq_none_iff.2 fun text htext => ?_
  rcases h _ htext with hnull | hempty
  · cases hnull
  · exact Value.string.inj hempty

theorem NamesNone.identifier? {key : String} (h : doc.NamesNone key) :
    (doc.get? key).bind Value.identifier? = none := by
  cases hget : doc.get? key with
  | none => rfl
  | some value =>
    rcases h value hget with rfl | rfl
    · rfl
    · rfl

/-- A creation takes the text. -/
theorem NamedAs.takeIdentifier (h : doc.NamedAs name) : doc.takeIdentifier.1 = some name := by
  rw [Document.takeIdentifier]
  rcases h.given with hid | ⟨hnone, hpublic⟩
  · rw [hid, Option.bind_some, identifier?_of_string h.nonempty]
  · rw [hnone.identifier?, hpublic, Option.bind_some, identifier?_of_string h.nonempty]

/-- An update takes the text. -/
theorem NamedAs.namedBy? (h : doc.NamedAs name) : doc.namedBy? = some name := by
  rw [Document.namedBy?]
  rcases h.given with hid | ⟨hnone, hpublic⟩
  · rw [text?_of_string hid h.nonempty]
  · rw [hnone.text?, text?_of_string hpublic h.nonempty]

/-- A document is filed under the name that it has, whatever was generated. -/
theorem NamedAs.filedAs (h : doc.NamedAs name) (generated : String) :
    doc.filedAs generated = filedUnder name := by
  rw [Document.filedAs, h.takeIdentifier]
  rfl

/-- Only the fields of the identifier matter. -/
theorem NamedAs.congr (h : doc.NamedAs name) (hid : other.get? Field.id = doc.get? Field.id)
    (hpublic : other.get? Field.publicId = doc.get? Field.publicId) : other.NamedAs name := by
  refine ⟨h.nonempty, ?_⟩
  rw [NamesNone, hid, hpublic]
  exact h.given

end Document

/-! ## An update of one document

  Without a revision an update is a patch under the name that the document has. -/

namespace Service

variable {token : Nat → String} {model name : String} {paginate : Paginate} {handle : Handle Store}
  {doc : Document}

/-- A batch of one document shows what becomes of that. -/
theorem runOn_update_one {σ : Type} (service : Service σ) (named : doc.namedBy? = some name)
    (handle : Handle σ) :
    (service.update (.batch [doc])).runOn handle =
      (((service.updateOne name doc).runOn handle).1.map ([·]),
        ((service.updateOne name doc).runOn handle).2) := by
  have htargets : targets [doc] = .ok [(name, doc)] := by
    rw [targets_cons named]
    rfl
  rw [update_batch service htargets, Action.each, Action.each]
  simp only [pure_bind]
  exact Action.runOn_bind_pure _ _ _

/-- Without a revision, the document is a patch. -/
theorem updateOne_of_no_revision {σ : Type} {service : Service σ}
    (h : doc.get? Field.revision = none) :
    service.updateOne name doc = service.patch name doc := by
  have hnone : doc.revision? = none := by
    rw [Document.revision?, h]
    rfl
  rw [updateOne, hnone]
  rfl

/-- Where a document is held, the update writes its fields over it. -/
theorem runOn_update_held (paginate : Paginate) (named : doc.namedBy? = some name)
    (hrevision : doc.get? Field.revision = none) {record : Record}
    (hheld : handle.store.held? model name = some record) :
    let run := ((overMemory token model paginate).update (.batch [doc])).runOn handle
    let new := record.patched token handle.store.issued doc
    run.1 = .ok [(new.shown name).toPublic] ∧
      ∀ n i, run.2.store.held? n i =
        if n = model ∧ i = name then some new else handle.store.held? n i := by
  intro run new
  have happlied : Applied model name new handle
      (((overMemory token model paginate).patch name doc).runOn handle) := patch_applied hheld doc
  have hrun : run = _ := runOn_update_one (overMemory token model paginate) named handle
  rw [updateOne_of_no_revision hrevision] at hrun
  rw [hrun, happlied.shown]
  exact ⟨rfl, happlied.held⟩

/-- Where nothing is held, the update finds nothing. -/
theorem runOn_update_absent (reached : Reached token model handle) (paginate : Paginate)
    (named : doc.namedBy? = some name) (hrevision : doc.get? Field.revision = none)
    (hheld : handle.store.held? model name = none) :
    ((overMemory token model paginate).update (.batch [doc])).runOn handle =
      (.error (.notFound (StoreError.notFound name model).message), handle.settled model) := by
  rw [runOn_update_one _ named, updateOne_of_no_revision hrevision,
    runOn_patch_absent reached.get?_settled hheld]
  rfl

/-- A creation that succeeds found its place free, and left the document there. -/
theorem held?_of_create (reached : Reached token model handle) (paginate : Paginate)
    (distinct : Entries.Distinct doc) {answer : Payload} {next : Handle Store}
    (hrun : ((overMemory token model paginate).create (.single doc)).runOn handle =
      (.ok answer, next)) :
    ∀ n i, next.store.held? n i =
      if n = model ∧ i = doc.filedAs (token handle.store.issued) then
        some (Record.created token handle.store.issued doc)
      else handle.store.held? n i := by
  cases hheld : handle.store.held? model (doc.filedAs (token handle.store.issued)) with
  | some record =>
    rw [runOn_create_taken reached paginate hheld] at hrun
    cases hrun
  | none =>
    obtain ⟨left, hcreate, hleft⟩ := runOn_create_free reached paginate distinct hheld
    rw [hcreate] at hrun
    cases hrun
    exact hleft

end Service

/-- **Updates meet what creations left.**  Take any state of a store in memory in which the creation
    of a document that gives its identifier as text succeeds, and behind it an update of one
    document with the same `_id` and `id` and without a revision.
    Where the creation filed the document under the identifier as it was given, the update succeeds:
    it writes its fields over the document that was created, shows the outcome, and every other
    place holds what it held.
    Where the creation filed it under another spelling, the update goes by the spelling given.  It
    writes its fields over what is held under that and leaves every other place alone, the document
    created among them; if nothing is held there, it is told so, and nothing changes. -/
theorem update_meets_created {token : Nat → String} {model : String} (paginate : Paginate)
    {handle next : Handle Store} (reached : Service.Reached token model handle)
    {doc update : Document} {name : String} (distinct : Entries.Distinct doc)
    (named : doc.NamedAs name) {answer : Payload}
    (created : ((Service.overMemory token model paginate).create (.single doc)).runOn handle =
      (.ok answer, next))
    (hid : update.get? "_id" = doc.get? "_id") (hpublic : update.get? "id" = doc.get? "id")
    (hrevision : update.get? "_rev" = none) :
    let run := ((Service.overMemory token model paginate).update (.batch [update])).runOn next
    let left := Record.created token handle.store.issued doc
    next.store.held? model (filedUnder name) = some left ∧
    (filedUnder name = name →
      run.1 = .ok [((left.patched token next.store.issued update).shown name).toPublic] ∧
      ∀ n i, run.2.store.held? n i =
        if n = model ∧ i = name then some (left.patched token next.store.issued update)
        else next.store.held? n i) ∧
    (filedUnder name ≠ name →
      (∀ record, next.store.held? model name = some record →
        run.1 = .ok [((record.patched token next.store.issued update).shown name).toPublic] ∧
        ∀ n i, run.2.store.held? n i =
          if n = model ∧ i = name then some (record.patched token next.store.issued update)
          else next.store.held? n i) ∧
      (next.store.held? model name = none →
        run.1 = .error (.notFound (StoreError.notFound name model).message) ∧
        ∀ n i, run.2.store.held? n i = next.store.held? n i)) := by
  intro run left
  have hnamed : update.namedBy? = some name := (named.congr hid hpublic).namedBy?
  have hleft : next.store.held? model (filedUnder name) = some left := by
    rw [Service.held?_of_create reached paginate distinct created, named.filedAs,
      if_pos ⟨rfl, rfl⟩]
  have hnext : Service.Reached token model next := by
    have hreached := reached.next paginate (.create (.single doc))
    rwa [Call.next, created] at hreached
  -- Whether the update meets the document depends on where the creation has filed it.
  refine ⟨hleft, fun hsame => ?same, fun _ => ⟨fun record hheld => ?held, fun hheld => ?absent⟩⟩
  case same =>
    rw [hsame] at hleft
    exact Service.runOn_update_held paginate hnamed hrevision hleft
  case held => exact Service.runOn_update_held paginate hnamed hrevision hheld
  case absent =>
    have hrun : run = _ := Service.runOn_update_absent hnext paginate hnamed hrevision hheld
    rw [hrun]
    exact ⟨rfl, Service.held?_settled next model⟩

/-- A handle over an empty store. -/
def untouched : Handle Store :=
  ⟨Store.empty true, false⟩

/-- A creation that names its document in the second field. -/
def namedSecond (n : Int32) : Document :=
  [("_id", .null), ("id", .string "a"), ("n", .int32 n)]

/-- The update that is named like it writes over it. -/
theorem named_second_is_updated :
    ∃ next, ((Service.overMemory Store.countedToken "notes" {}).create
        (.single (namedSecond 1))).runOn untouched =
          (.ok (.single [("id", .string "a"), ("n", .int32 1)]), next) ∧
      next.store.held? "notes" "a" =
        some (Record.created Store.countedToken 0 (namedSecond 1)) ∧
      (((Service.overMemory Store.countedToken "notes" {}).update
        (.batch [namedSecond 2])).runOn next).1 =
          .ok [[("id", .string "a"), ("n", .int32 2)]] := by
  have reached : Service.Reached Store.countedToken "notes" untouched := .built (.empty true)
  have distinct : Entries.Distinct (namedSecond 1) := by decide
  have named : (namedSecond 1).NamedAs "a" := by
    refine ⟨by decide, Or.inr ⟨fun value hvalue => ?_, rfl⟩⟩
    cases hvalue
    exact Or.inl rfl
  have created : ((Service.overMemory Store.countedToken "notes" {}).create
      (.single (namedSecond 1))).runOn untouched =
        (.ok (.single [("id", .string "a"), ("n", .int32 1)]), _) := rfl
  have hid : (namedSecond 2).get? "_id" = (namedSecond 1).get? "_id" := rfl
  have hpublic : (namedSecond 2).get? "id" = (namedSecond 1).get? "id" := rfl
  obtain ⟨hleft, hsame, -⟩ :=
    update_meets_created {} reached distinct named created hid hpublic rfl
  exact ⟨_, created, hleft, (hsame rfl).1⟩

/-- The identifier of a design document with a capital is filed without it, and so the update does
    not find it.  A number is filed as its text, and the update takes it for no identifier. -/
theorem update_misses_created :
    (∃ next, ((Service.overMemory Store.countedToken "notes" {}).create
        (.single [("_id", .string "_design/Stats"), ("n", .int32 1)])).runOn untouched =
          (.ok (.single [("id", .string "_design/stats"), ("n", .int32 1)]), next) ∧
      (((Service.overMemory Store.countedToken "notes" {}).update
        (.batch [[("_id", .string "_design/Stats"), ("n", .int32 2)]])).runOn next).1 =
          .error (.notFound (StoreError.notFound "_design/Stats" "notes").message)) ∧
    (∃ next, ((Service.overMemory Store.countedToken "notes" {}).create
        (.single [("_id", .int32 5), ("n", .int32 1)])).runOn untouched =
          (.ok (.single [("id", .string "5"), ("n", .int32 1)]), next) ∧
      (((Service.overMemory Store.countedToken "notes" {}).update
        (.batch [[("_id", .int32 5), ("n", .int32 2)]])).runOn next).1 =
          .error (.invalidInput .noIdentifier)) :=
  ⟨⟨_, rfl, rfl⟩, _, rfl, rfl⟩

end DocStore
