/-
  Finds through a design document that was created before.

  A find that names a stored view reads the design document of that view and evaluates what stands
  in it (`Service.runOn_find_named`).  So whether the view of a design document can be found under
  the name with which the document was created is a question about names alone: is the name of the
  view read as what the document is filed under?

  Filing knows the namespace of design documents in any case, reading a name only as it is written.
  `created_view_is_found_iff_namespace` says what follows: the view is found exactly where the
  identifier that was given begins with the namespace as it is written.
-/
import DocStore.Proofs.Service.Naming
import DocStore.Proofs.Service.Reading
import DocStore.Proofs.View.Names

namespace DocStore

/-- Where the database is there, an opening does nothing to the store. -/
theorem Handle.settled_store {handle : Handle Store} {model : String} {db : Database}
    (h : handle.store.databases.get? model = some db) :
    (handle.settled model).store = handle.store := by
  rw [settled, Store.ensured, h]
  exact ite_self _

namespace Service

variable {token : Nat → String} {model : String} {paginate : Paginate} {handle : Handle Store}
  {filters : Filters} {name : String}

/-- A find that names the view of a design document reads that document. -/
theorem runOn_find_named (query : Document) (hview : filters.view = some name) {view : ViewName}
    (hname : ViewName.ofText? name = some view) {record : Record}
    (hheld : handle.store.held? model view.designId = some record) :
    ∃ docs, handle.store.documents model = .ok docs ∧
      (((overMemory token model paginate).find query filters).runOn handle).1 =
        ((Definition.ofDesign (record.shown view.designId) view.view).mapError
          ServiceError.ofStore).map fun definition =>
            let limit := paginate.limit filters.limit
            let skip := filters.skip.getD 0
            pageOf filters limit skip (definition.evaluate docs ⟨some limit, skip⟩) := by
  obtain ⟨db, hdb, -⟩ := Option.bind_eq_some_iff.1 hheld
  have hplan : Service.plan query filters = .ok (.stored view) := by
    rw [plan, hview]
    dsimp only
    rw [hname]
  refine ⟨db.entries.map fun entry => entry.2.shown entry.1, ?_, ?_⟩
  · exact Store.documents_of_get? hdb
  · have hrun : ∀ options, ((Plan.stored view).run (Store.backend token) model options).runOn
        handle.store = (handle.store.invokeView model view options, handle.store) :=
      Store.runOn_invokeView token handle.store model view
    rw [runOn_find_planned handle hplan, Handle.settled_store hdb]
    dsimp only
    rw [hrun, Store.invokeView_of_held hdb hheld]
    cases Definition.ofDesign (record.shown view.designId) view.view <;> rfl

/-- A find whose view has no name that can be read is refused. -/
theorem runOn_find_unnamed (query : Document) (hview : filters.view = some name)
    (hname : ViewName.ofText? name = none) :
    ((overMemory token model paginate).find query filters).runOn handle =
      (.error (.invalidInput (.badViewName name)), handle) :=
  runOn_find_unplanned handle (plan_eq_error_iff.2 ⟨name, hview, hname, rfl⟩)

end Service

/-- **The views of a design document are found under the identifier that it was created with,
    exactly if that begins with the namespace as it is written.**  Let an identifier be one that is
    filed in the namespace of design documents, with something behind the namespace that has no
    slash, and let a view have a name that is not empty and has no slash either.  Join them by a
    slash.
    If the identifier begins with the namespace as it is written, the text is read as the name of
    that view in the design document that is filed under the identifier.  Otherwise the text is
    not the name of a view.
    So behind the creation of a design document with this identifier, a find with this text reads
    the document just created and evaluates the view in it, or else it is refused and touches
    nothing. -/
theorem created_view_is_found_iff_namespace {id own : String}
    (hdesign : isDesignId (Text.lowerCase id) = true) (hpart : behindNamespace id ≠ [])
    (hwhole : '/' ∉ behindNamespace id) (hown : own ≠ "") (hownWhole : '/' ∉ own.toList) :
    let name := id ++ "/" ++ own
    (Text.startsWith "_design/" id = true → ∃ view, ViewName.ofText? name = some view ∧
      view.designId = filedUnder id ∧ view.view = own) ∧
    (Text.startsWith "_design/" id = false → ViewName.ofText? name = none) ∧
    ∀ (token : Nat → String) (model : String) (paginate : Paginate) (handle next : Handle Store)
      (doc : Document) (answer : Payload), Service.Reached token model handle →
      Entries.Distinct doc → doc.takeIdentifier.1 = some id →
      ((Service.overMemory token model paginate).create (.single doc)).runOn handle =
        (.ok answer, next) →
      let left := Record.created token handle.store.issued doc
      next.store.held? model (filedUnder id) = some left ∧
      ∀ (query : Document) (filters : Filters), filters.view = some name →
        let run := ((Service.overMemory token model paginate).find query filters).runOn next
        (Text.startsWith "_design/" id = true →
          ∃ docs, next.store.documents model = .ok docs ∧
            run.1 = ((Definition.ofDesign (left.shown (filedUnder id)) own).mapError
              ServiceError.ofStore).map fun view =>
                let limit := paginate.limit filters.limit
                let skip := filters.skip.getD 0
                Service.pageOf filters limit skip (view.evaluate docs ⟨some limit, skip⟩)) ∧
        (Text.startsWith "_design/" id = false →
          run = (.error (.invalidInput (.badViewName name)), next)) := by
  intro name
  have hread : Text.startsWith "_design/" id = true → ∃ view, ViewName.ofText? name = some view ∧
      view.designId = filedUnder id ∧ view.view = own := fun hcase =>
    ⟨_, ofText?_of_namespace hcase hpart hwhole hown hownWhole,
      (filedUnder_of_design hdesign).symm, rfl⟩
  have hrefused : Text.startsWith "_design/" id = false → ViewName.ofText? name = none :=
    ofText?_of_other_case hdesign
  refine ⟨hread, hrefused, ?_⟩
  intro token model paginate handle next doc answer reached distinct taken created left
  -- The creation lower-cases the identifier; whether the name is read back depends on its own
  -- spelling.
  have hfiled : doc.filedAs (token handle.store.issued) = filedUnder id := by
    rw [Document.filedAs, taken]
    rfl
  have hleft : next.store.held? model (filedUnder id) = some left := by
    rw [Service.held?_of_create reached paginate distinct created, hfiled, if_pos ⟨rfl, rfl⟩]
  refine ⟨hleft, fun query filters hview => ⟨fun hcase => ?found, fun hcase => ?refused⟩⟩
  case found =>
    obtain ⟨view, hname, hid, rfl⟩ := hread hcase
    rw [← hid] at hleft ⊢
    exact Service.runOn_find_named query hview hname hleft
  case refused => exact Service.runOn_find_unnamed query hview (hrefused hcase)

/-- A view that emits the documents with one tag. -/
def oddTags : Definition :=
  ⟨.field "tag" .eq (.string "odd"), .all⟩

/-- A design document that holds the view, with an identifier. -/
def statistics (id : String) : Document :=
  ("_id", .string id) :: oddTags.toDesign "odd"

/-- What a find through the view asks for beside its predicate. -/
def throughView (name : String) : Filters :=
  { view := some name }

/-- A design document that was created with a capital is found under the name that has it. -/
theorem capital_statistics_are_found :
    ∃ next, ((Service.overMemory Store.countedToken "notes" {}).create
        (.single (statistics "_design/Stats"))).runOn untouched =
          (.ok (.single (("id", .string "_design/stats") :: oddTags.toDesign "odd")), next) ∧
      ∃ docs, next.store.documents "notes" = .ok docs ∧
        (((Service.overMemory Store.countedToken "notes" {}).find []
          (throughView "_design/Stats/odd")).runOn next).1 =
            .ok (Service.pageOf (throughView "_design/Stats/odd") 100 0
              (oddTags.evaluate docs ⟨some 100, 0⟩)) := by
  have reached : Service.Reached Store.countedToken "notes" untouched := .built (.empty true)
  have created : ((Service.overMemory Store.countedToken "notes" {}).create
      (.single (statistics "_design/Stats"))).runOn untouched =
        (.ok (.single (("id", .string "_design/stats") :: oddTags.toDesign "odd")), _) := rfl
  obtain ⟨-, -, hfind⟩ := created_view_is_found_iff_namespace
    (show isDesignId (Text.lowerCase "_design/Stats") = true by decide)
    (show behindNamespace "_design/Stats" ≠ [] by decide) (by decide)
    (show "odd" ≠ "" by decide) (by decide)
  obtain ⟨-, hrun⟩ := hfind Store.countedToken "notes" {} untouched _ _ _ reached (by decide)
    rfl created
  obtain ⟨docs, hdocs, hpage⟩ := (hrun [] (throughView "_design/Stats/odd") rfl).1 (by decide)
  exact ⟨_, created, docs, hdocs, hpage⟩

/-- One that was created with the namespace in capitals is filed like it, and cannot be found under
    the name that has them. -/
theorem shouted_statistics_are_not_found :
    isDesignId (Text.lowerCase "_DESIGN/Stats") = true ∧
    filedUnder "_DESIGN/Stats" = "_design/stats" ∧
    behindNamespace "_DESIGN/Stats" = "Stats".toList ∧
    ViewName.ofText? ("_DESIGN/Stats" ++ "/" ++ "odd") = none ∧
    ∃ next, ((Service.overMemory Store.countedToken "notes" {}).create
        (.single (statistics "_DESIGN/Stats"))).runOn untouched =
          (.ok (.single (("id", .string "_design/stats") :: oddTags.toDesign "odd")), next) ∧
      (((Service.overMemory Store.countedToken "notes" {}).find []
        (throughView "_DESIGN/Stats/odd")).runOn next).1 =
          .error (.invalidInput (.badViewName "_DESIGN/Stats/odd")) :=
  ⟨by decide, by decide, by decide, by decide, _, rfl, rfl⟩

end DocStore
