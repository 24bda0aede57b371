/-
  A document is found by the fields it is returned with.

  Callers who read a document and ask for the ones with a field like one of its own should find it
  among them.  For this the field has to come through three places unharmed: into the body, out of
  it again as the caller sees it, and into a query, where a value that asks for operators would
  mean something else and a value with NaN inside would not even equal itself.

  It does so under one other name: what callers see as `id` is stored as `_id`, and queries are
  about what is stored (`Document.storedName`).  `returned_fields_find` says that under its stored
  name every field finds its document; `public_identifier_finds_nothing` is a find under `id`.
-/
import DocStore.Proofs.Comparand.Equality
import DocStore.Proofs.Find.Selection
import DocStore.Proofs.Query.Meaning
import DocStore.Proofs.Service.Shape

namespace DocStore

/-! ## Names of fields -/

/-- The name under which the store has a field that callers see. -/
def Document.storedName (key : String) : String :=
  if key = Field.publicId then Field.id else key

/-- Renaming the identifier makes no reserved key. -/
theorem Document.not_dollar_storedName {key : String} (h : ¬ Query.Dollar key) :
    ¬ Query.Dollar (storedName key) := by
  rw [storedName]
  split
  · exact fun hid => absurd ((Expr.isReserved_iff _).2 hid) (by decide)
  · exact h

/-- What callers see in a field is stored under its stored name. -/
theorem Record.get?_storedName {record : Record} (h : record.body.Bare) (id : String) {key : String}
    {value : Value} (hmem : (key, value) ∈ (record.shown id).toPublic) :
    (record.shown id).get? (Document.storedName key) = some value := by
  rw [toPublic_shown h] at hmem
  rw [Document.storedName]
  rcases List.mem_cons.1 hmem with heq | hmem
  · cases heq
    rw [if_pos rfl, shown_eq h]
    rfl
  · have hget := ((Entries.distinct_ofList record.body).mem_iff_get? key value).1 hmem
    have hne : ∀ name, (Entries.ofList record.body).get? name = none → key ≠ name := by
      rintro name hnone rfl
      cases hnone.symm.trans hget
    rw [if_neg (hne _ h.ofList.no_publicId),
      get?_shown h id (hne _ h.ofList.no_id) (hne _ h.ofList.no_revision)]
    exact hget

/-! ## Queries for one field -/

theorem Document.lookup_of_get? {doc : Document} {key : String} {value : Value}
    (h : doc.get? key = some value) : doc.lookup key = some value := by
  rw [lookup, h]

/-- A document satisfies the query for a field that it has. -/
theorem Expr.matches_own_field {doc : Document} {key : String} {value : Value}
    (hget : doc.get? key = some value) (plain : ¬ Query.Dollar key) (hnan : value.NaNFree)
    (whole : ¬ Query.AsksForOperators value) :
    (Expr.compile [(key, value)]).matches doc = true := by
  refine ((Expr.matches_compile_iff_holds doc _).1).2 (.intro fun entry hmem => ?_)
  obtain rfl := List.mem_singleton.1 hmem
  exact .equal plain whole (Document.lookup_of_get? hget) (Value.equals_self value hnan)

/-! ## Finding what was read -/

/-- **A document is found by the fields it is returned with.**  In every state that services over a
    store that evaluates views reach, let one of them read a document that is no design document.
    Take any field of what it returns whose name is not in `$` and whose value neither has NaN
    inside nor asks for operators.  Then the documents that this service finds with that field as
    its query, under the stored name of the field, have the one that was read among them; and every
    page of them, in any order, is a part of them. -/
theorem returned_fields_find (token : Nat → String) (services : Nat → Service.Settings)
    (turns : List (Nat × Call)) (i : Nat) {id : String} {doc : Document} {next : Handle Store} :
    let shared := (Shared.empty true).run token services turns
    (((services i).over token).get id).runOn (shared.handle i) = (.ok doc, next) →
    isDesignId id = false →
    ∀ key value, (key, value) ∈ doc → ¬ Query.Dollar key → value.NaNFree →
      ¬ Query.AsksForOperators value →
      ∃ found : List Document, doc ∈ found ∧ ∀ requested skip order,
        shared.page token services i [(Document.storedName key, value)] requested skip order none =
          .ok {
            total := found.length
            limit := (services i).paginate.limit requested
            skip := skip.getD 0
            data := ordered order
              ((found.drop (skip.getD 0)).take ((services i).paginate.limit requested)) } := by
  intro shared hget hdesign key value hmem plain hnan whole
  have sound : shared.Sound token services true :=
    (Shared.sound_empty token services true).run turns
  obtain ⟨⟨record, hheld, rfl⟩, -⟩ := Service.held?_of_get (sound.reached i) hget
  have hstored := Record.get?_storedName (sound.bare _ _ _ hheld) id hmem
  have hmatches := Expr.matches_own_field hstored (Document.not_dollar_storedName plain) hnan whole
  have hfound : (id, record) ∈ shared.store.found (services i).model
      [(Document.storedName key, value)] := Store.mem_found_iff.2 ⟨hheld, hdesign, hmatches⟩
  refine ⟨(shared.store.found _ _).map fun entry => entry.2.listed entry.1 none,
    List.mem_map.2 ⟨(id, record), hfound, rfl⟩, fun requested skip order => ?_⟩
  rw [sound.page_eq, List.length_map, ← List.map_drop, ← List.map_take]
  rfl

/-- One document with a number, created by a service. -/
def oneNote : Shared :=
  (Shared.empty true).run Store.countedToken notesServices
    [(0, .create (.single [("_id", .string "a"), ("n", .int32 5)]))]

/-- It is found by its number. -/
theorem oneNote_found :
    (((notesServices 0).over Store.countedToken).get "a").runOn (oneNote.handle 0) =
      (.ok [("id", .string "a"), ("n", .int32 5)], oneNote.handle 0) ∧
    ∃ found : List Document, [("id", .string "a"), ("n", .int32 5)] ∈ found ∧
      ∀ requested skip order,
        oneNote.page Store.countedToken notesServices 0 [("n", .int32 5)] requested skip order none =
          .ok ⟨found.length, (notesServices 0).paginate.limit requested, skip.getD 0,
            ordered order ((found.drop (skip.getD 0)).take
              ((notesServices 0).paginate.limit requested))⟩ := by
  have hget : (((notesServices 0).over Store.countedToken).get "a").runOn (oneNote.handle 0) =
      (.ok [("id", .string "a"), ("n", .int32 5)], oneNote.handle 0) := rfl
  have plain : ¬ Query.Dollar "n" := fun h => absurd ((Expr.isReserved_iff _).2 h) (by decide)
  have whole : ¬ Query.AsksForOperators (.int32 5) := fun ⟨_, heq, _⟩ => nomatch heq
  exact ⟨hget, returned_fields_find Store.countedToken notesServices _ 0 hget (by decide) "n"
    (.int32 5) (List.mem_cons_of_mem _ List.mem_cons_self) plain trivial whole⟩

/-- Under the name that callers see, the identifier finds nothing. -/
theorem public_identifier_finds_nothing :
    (((notesServices 0).over Store.countedToken).get "a").runOn (oneNote.handle 0) =
      (.ok [("id", .string "a"), ("n", .int32 5)], oneNote.handle 0) ∧
    oneNote.page Store.countedToken notesServices 0 [("id", .string "a")] none none none none =
      .ok ⟨0, 100, 0, []⟩ := by
  exact ⟨rfl, rfl⟩

end DocStore
