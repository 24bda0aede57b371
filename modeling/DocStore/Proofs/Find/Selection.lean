/-
  What a selection does to a page.

  A selection asks for some fields of the documents found.  It should hide the others and do nothing
  else: the same documents at the same positions, with the same numbers beside them.

  It does so where no order is asked for, and where the order looks at fields that are selected
  (`SortOrder.Selected`).  But documents are put in order after they were cut down.  Where the order
  looks at a field that is hidden, it finds nothing to compare, and the page stays in the order of
  the identifiers.  `select_hides_iff_order_selected` says that this is the only way to break the
  rule, and that documents and numbers are right even then; `hidden_order_is_lost` is a find that
  loses its order.

  A document found and the same document cut down are compared through look-ups
  (`Record.get?_listed`); an order sees documents only through these (`Document.lookup_congr`).
-/
import Mathlib.Data.List.Forall2
import DocStore.Proofs.Find.Pages
import DocStore.Proofs.Find.Rows
import DocStore.Proofs.Service.Creation
import DocStore.Proofs.Service.Shared

namespace DocStore

/-! ## One document

  What is listed of a record with a selection and without one, key by key. -/

namespace Record

variable {record : Record}

/-- Without a selection, the whole body is listed. -/
theorem listed_none (h : record.body.Bare) (id : String) :
    record.listed id none = Document.under (Entries.ofList record.body) id :=
  toPublic_shown h id

/-- A projection shows the selected fields of a bare body and hides the others. -/
theorem get?_projected_fields (h : record.body.Bare) (names : List String) (id key : String) :
    (record.projected (.fields names) id).get? key =
      if key ∈ names then (Entries.ofList record.body).get? key else none := by
  have hbare := bare_projected h (.fields names) id
  -- Neither document has the store's own fields.
  by_cases hrevision : key = Field.revision
  · rw [hrevision, hbare.no_revision, h.ofList.no_revision, ite_self]
  · by_cases hid : key = Field.id
    · rw [hid, hbare.no_id, h.ofList.no_id, ite_self]
    · have hother : (key = Field.id ∨ key = Field.revision ∨ key ∈ names) ↔ key ∈ names :=
        ⟨fun hkey => (hkey.resolve_left hid).resolve_left hrevision, fun hmem => .inr (.inr hmem)⟩
      rw [projected, Entries.get?_erase_of_ne _ (Ne.symm hrevision),
        Entries.get?_erase_of_ne _ (Ne.symm hid), Projection.get?_apply_fields,
        get?_shown h id hid hrevision]
      simp only [hother]

/-- Cut down, a document has `id` and the fields selected, and none besides. -/
theorem get?_listed (h : record.body.Bare) (id : String) (names : List String) (key : String) :
    (record.listed id (some names)).get? key =
      if key = Field.publicId ∨ key ∈ names then (record.listed id none).get? key else none := by
  have hcut : record.listed id (some names) =
      Document.cut (some names) (Document.under (record.projected (.fields names) id) id) :=
    congrArg (Document.cut (some names)) (toPublic_apply h (.fields names) id)
  rw [hcut, listed_none h, Document.get?_cut]
  split
  · rename_i hkey
    rw [Document.under, Entries.get?_cons, Document.under, Entries.get?_cons]
    split
    · rfl
    · rename_i hpublic
      have hmem : key ∈ names := hkey.resolve_left (Ne.symm hpublic)
      rw [get?_projected_fields h, if_pos hmem]
  · rfl

theorem distinct_listed (h : record.body.Bare) (id : String) (select : Option (List String)) :
    Entries.Distinct (record.listed id select) := by
  have hwhole : Entries.Distinct
      ((Projection.ofSelect select).apply (record.shown id)).toPublic := by
    rw [toPublic_apply h]
    exact Entries.distinct_cons_iff.2 ⟨(bare_projected h (.ofSelect select) id).no_publicId,
      record.distinct_projected (.ofSelect select) id⟩
  cases select with
  | none => exact hwhole
  | some names => exact hwhole.filter _

/-- Up to the order of its fields, what is listed under a selection is what is listed without one,
    cut down. -/
theorem listed_perm (h : record.body.Bare) (id : String) (names : List String) :
    (record.listed id (some names)).Perm (Document.cut (some names) (record.listed id none)) := by
  have hcut : Entries.Distinct (Document.cut (some names) (record.listed id none)) :=
    (distinct_listed h id none).filter _
  refine (distinct_listed h id (some names)).perm_of_get? hcut fun key => ?_
  rw [get?_listed h, Document.get?_cut]

end Record

/-! ## What an order sees

  An order looks a path up, and a look-up sees two keys of a document.  Where a selection leaves
  both, the order cannot tell whether there was one. -/

/-- A selection leaves a top-level field as it is: it is `id`, it is selected, or no document that
    is shown has it. -/
def Kept (names : List String) (key : String) : Prop :=
  key = Field.publicId ∨ key = Field.id ∨ key = Field.revision ∨ key ∈ names

/-- A selection leaves what an order looks at: the whole path as a key, and the key at which the
    path begins. -/
def SortOrder.Selected (names : List String) (order : SortOrder) : Prop :=
  Kept names order.path ∧
    ∀ first, (Text.split '.' order.path).head? = some first → Kept names first

/-- A look-up along a path sees two keys of a document: the whole path, and its first piece. -/
theorem Document.lookup_congr {doc other : Document} {path : String}
    (hpath : doc.get? path = other.get? path)
    (hfirst : ∀ first, (Text.split '.' path).head? = some first →
      doc.get? first = other.get? first) : doc.lookup path = other.lookup path := by
  rw [lookup, lookup, hpath]
  cases hsplit : Text.split '.' path with
  | nil => exact absurd hsplit (Text.split_ne_nil '.' path)
  | cons first rest =>
    have hget := hfirst first (congrArg List.head? hsplit)
    have hwalk :
        walk? (.document doc) (first :: rest) = walk? (.document other) (first :: rest) := by
      show (doc.get? first).bind _ = (other.get? first).bind _
      rw [hget]
    rw [hwalk]

/-- A field that is kept is the same as without a selection. -/
theorem Record.get?_listed_of_kept {record : Record} (h : record.body.Bare) (id : String)
    {names : List String} {key : String} (hkey : Kept names key) :
    (record.listed id (some names)).get? key = (record.listed id none).get? key := by
  rw [get?_listed h]
  split
  · rfl
  · rename_i hother
    rw [listed_none h]
    rcases hkey with hpublic | hid | hrevision | hmem
    · exact absurd (Or.inl hpublic) hother
    · rw [hid]
      exact h.ofList.no_id.symm
    · rw [hrevision]
      exact h.ofList.no_revision.symm
    · exact absurd (Or.inr hmem) hother

/-- So an order that looks at selected fields sees the same of both. -/
theorem Record.lookup_listed {record : Record} (h : record.body.Bare) (id : String)
    {names : List String} {order : SortOrder} (hselected : order.Selected names) :
    (record.listed id (some names)).lookup order.path =
      (record.listed id none).lookup order.path :=
  Document.lookup_congr (get?_listed_of_kept h id hselected.1) fun first hfirst =>
    get?_listed_of_kept h id (hselected.2 first hfirst)

/-! ## One page

  A page lists entries.  To sort what is listed is to sort the entries by what is listed of them,
  so two listings of the same entries can be compared after sorting. -/

/-- Documents in the order asked for, if one is. -/
def ordered (order : Option SortOrder) (docs : List Document) : List Document :=
  match order with
  | some order => order.sort docs
  | none => docs

/-- An order puts nothing in and takes nothing out. -/
theorem ordered_perm (order : Option SortOrder) (docs : List Document) :
    (ordered order docs).Perm docs := by
  cases order with
  | none => exact List.Perm.refl docs
  | some order => exact List.mergeSort_perm _ _

/-- Documents that are listed of entries are put in order by putting the entries in order, and it
    does not matter whether these are compared as they are listed or in another way between which
    the order sees no difference. -/
theorem SortOrder.sort_map {α : Type} (order : SortOrder) {listed compared : α → Document}
    {entries : List α} (hsame : ∀ entry ∈ entries,
      (compared entry).lookup order.path = (listed entry).lookup order.path) :
    order.sort (entries.map listed) =
      (entries.mergeSort fun a b => order.compare (compared a) (compared b) != .gt).map listed := by
  have hcompare : ∀ a ∈ entries, ∀ b ∈ entries,
      (order.compare (compared a) (compared b) != .gt) =
        (order.compare (listed a) (listed b) != .gt) := by
    intro a ha b hb
    rw [compare, compare, hsame a ha, hsame b hb]
  rw [sort]
  exact (List.map_mergeSort hcompare).symm

/-- Listed in two ways between which an order sees no difference, entries end up in one order. -/
theorem exists_ordered_map {α : Type} (order : Option SortOrder) (listed listed' : α → Document)
    (entries : List α) (hsame : ∀ o, order = some o → ∀ entry ∈ entries,
      (listed entry).lookup o.path = (listed' entry).lookup o.path) :
    ∃ sorted : List α, sorted.Perm entries ∧
      ordered order (entries.map listed) = sorted.map listed ∧
      ordered order (entries.map listed') = sorted.map listed' := by
  cases order with
  | none => exact ⟨entries, List.Perm.refl entries, rfl, rfl⟩
  | some order =>
    refine ⟨entries.mergeSort fun a b => order.compare (listed a) (listed b) != .gt,
      List.mergeSort_perm _ _, ?_, ?_⟩
    · exact order.sort_map fun _ _ => rfl
    · exact order.sort_map (hsame order rfl)

/-- The page of the entries found, in the order asked for. -/
def Service.orderedPage (paginate : Paginate) (found : List (String × Record))
    (requested skip : Option Nat) (order : Option SortOrder) (select : Option (List String)) :
    Page :=
  { page paginate found requested skip select with
    data := ordered order (page paginate found requested skip select).data }

/-- A find with an order gives the page of the find without it, put in order. -/
theorem Service.runOn_find_ordered {token : Nat → String} {model : String} (paginate : Paginate)
    {handle : Handle Store} (reached : Reached token model handle)
    (transient : handle.store.transientViews = true) (query : Document)
    (requested skip : Option Nat) (order : Option SortOrder) (select : Option (List String)) :
    ((overMemory token model paginate).find query
        ⟨requested, skip, order, select, none⟩).runOn handle =
      (.ok (orderedPage paginate (handle.store.found model query) requested skip order select),
        handle.settled model) := by
  have hserves := reached.serves transient
  have hfound : (handle.settled model).store.found model query =
      handle.store.found model query := by
    rw [Store.found, reached.get?_settled]
    rfl
  have hpage := runOn_find_page token paginate rfl hserves query requested skip select
  rw [hfound, runOn_find handle query rfl] at hpage
  rw [runOn_find handle query rfl]
  dsimp only at hpage ⊢
  -- Both finds run the same view, and make a page of the same rows.
  cases hrun : (Action.runOn _ (handle.settled model).store) with
  | mk outcome store =>
    rw [hrun] at hpage
    cases outcome with
    | error e => cases hpage
    | ok result =>
      obtain ⟨hok, hstore⟩ := Prod.mk.inj hpage
      have hunsorted := Except.ok.inj hok
      rw [hstore]
      refine Prod.ext (congrArg Except.ok ?_) rfl
      rw [orderedPage, ← hunsorted]
      cases order <;> rfl

/-! ## Two pages

  With a selection and without one: always the same documents, and in the same order where the
  order sees no difference. -/

/-- A page is another one cut down: the same numbers, and at every position the document that the
    other one has there, cut down to `id` and the fields selected, up to the order of fields. -/
structure Page.CutDown (names : List String) (cut whole : Page) : Prop where
  total : cut.total = whole.total
  limit : cut.limit = whole.limit
  skip : cut.skip = whole.skip
  data : List.Forall₂ (fun doc other => doc.Perm (Document.cut (some names) other)) cut.data
    whole.data

namespace Service

variable {names : List String} {found : List (String × Record)}

/-- Row by row, a selection lists what it keeps of the same document. -/
theorem forall₂_listed {entries : List (String × Record)}
    (hbare : ∀ entry ∈ entries, entry.2.body.Bare) (names : List String) :
    List.Forall₂ (fun doc other => doc.Perm (Document.cut (some names) other))
      (entries.map fun entry => entry.2.listed entry.1 (some names))
      (entries.map fun entry => entry.2.listed entry.1 none) := by
  rw [List.forall₂_map_left_iff, List.forall₂_map_right_iff, List.forall₂_same]
  intro entry hmem
  exact Record.listed_perm (hbare entry hmem) entry.1 names

/-- What is on a page are entries found. -/
theorem bare_of_page (hbare : ∀ entry ∈ found, entry.2.body.Bare) (skip limit : Nat) :
    ∀ entry ∈ (found.drop skip).take limit, entry.2.body.Bare :=
  fun entry hmem => hbare entry (List.mem_of_mem_drop (List.mem_of_mem_take hmem))

/-- Whatever the order, a page under a selection has the right numbers and the right documents, in
    some order. -/
theorem orderedPage_perm (paginate : Paginate) (hbare : ∀ entry ∈ found, entry.2.body.Bare)
    (requested skip : Option Nat) (order : Option SortOrder) (names : List String) :
    ∃ data, data.Perm (orderedPage paginate found requested skip order none).data ∧
      (orderedPage paginate found requested skip order (some names)).CutDown names
        { orderedPage paginate found requested skip order none with data := data } := by
  have hpage := bare_of_page hbare (skip.getD 0) (paginate.limit requested)
  obtain ⟨sorted, hperm, hcut, -⟩ := exists_ordered_map order
    (fun entry : String × Record => entry.2.listed entry.1 (some names))
    (fun entry => entry.2.listed entry.1 (some names))
    ((found.drop (skip.getD 0)).take (paginate.limit requested)) fun _ _ _ _ => rfl
  have hsorted : ∀ entry ∈ sorted, entry.2.body.Bare :=
    fun entry hmem => hpage entry (hperm.mem_iff.1 hmem)
  refine ⟨sorted.map fun entry => entry.2.listed entry.1 none, ?_, rfl, rfl, rfl, ?_⟩
  · exact (hperm.map _).trans (ordered_perm order _).symm
  · have hdata : (orderedPage paginate found requested skip order (some names)).data = _ := hcut
    rw [hdata]
    exact forall₂_listed hsorted names

/-- Where the order looks at fields that are selected, they are also at the right positions. -/
theorem orderedPage_cutDown (paginate : Paginate) (hbare : ∀ entry ∈ found, entry.2.body.Bare)
    (requested skip : Option Nat) {order : Option SortOrder}
    (hselected : ∀ o, order = some o → o.Selected names) :
    (orderedPage paginate found requested skip order (some names)).CutDown names
      (orderedPage paginate found requested skip order none) := by
  have hpage := bare_of_page hbare (skip.getD 0) (paginate.limit requested)
  obtain ⟨sorted, hperm, hcut, hwhole⟩ := exists_ordered_map order
    (fun entry : String × Record => entry.2.listed entry.1 (some names))
    (fun entry => entry.2.listed entry.1 none)
    ((found.drop (skip.getD 0)).take (paginate.limit requested))
    fun o ho entry hmem => Record.lookup_listed (hpage entry hmem) entry.1 (hselected o ho)
  have hsorted : ∀ entry ∈ sorted, entry.2.body.Bare :=
    fun entry hmem => hpage entry (hperm.mem_iff.1 hmem)
  have hdata : (orderedPage paginate found requested skip order (some names)).data = _ := hcut
  have hothers : (orderedPage paginate found requested skip order none).data = _ := hwhole
  refine ⟨rfl, rfl, rfl, ?_⟩
  rw [hdata, hothers]
  exact forall₂_listed hsorted names

end Service

/-! ## Orders that look at hidden fields

  For the converse: if one of the two keys is hidden, there are documents that have a value at the
  path and lose it. -/

namespace SortOrder

/-- Two values that stand in the wrong order. -/
theorem exists_descending (order : SortOrder) :
    ∃ first second : Value, ∀ doc other : Document, doc.lookup order.path = some first →
      other.lookup order.path = some second → order.compare doc other = .gt := by
  cases hdirection : order.direction with
  | ascending =>
    refine ⟨.int32 2, .int32 1, fun doc other hdoc hother => ?_⟩
    rw [compare, hdoc, hother, hdirection]
    rfl
  | descending =>
    refine ⟨.int32 1, .int32 2, fun doc other hdoc hother => ?_⟩
    rw [compare, hdoc, hother, hdirection]
    rfl

/-- Where nothing is found, nothing is compared. -/
theorem compare_of_none {order : SortOrder} {doc other : Document}
    (hdoc : doc.lookup order.path = none) (hother : other.lookup order.path = none) :
    order.compare doc other = .eq := by
  rw [compare, hdoc, hother]
  cases order.direction <;> rfl

/-- Two documents change places exactly if the first one stands behind the second. -/
theorem sort_pair (order : SortOrder) (doc other : Document) :
    order.sort [doc, other] =
      if order.compare doc other != .gt then [doc, other] else [other, doc] := by
  simp [sort, List.mergeSort, List.merge]

end SortOrder

/-- A value inside documents, one in the other, under these keys. -/
def nested : List String → Value → Value
  | [], value => value
  | key :: keys, value => .document [(key, nested keys value)]

theorem walk?_nested (keys : List String) (value : Value) :
    Document.walk? (nested keys value) keys = some value := by
  induction keys with
  | nil => rfl
  | cons key keys ih =>
    show (Entries.get? [(key, nested keys value)] key).bind _ = _
    rw [Entries.get?_cons, if_pos rfl]
    exact ih

/-- In a document that is no more than its identifier, only the identifier is found. -/
theorem Document.lookup_under_nil {path : String} (hpath : path ≠ Field.publicId) (id : String) :
    (under [] id).lookup path = none := by
  have hkey : (under [] id).get? path = none := by
    rw [under, Entries.get?_cons, if_neg (Ne.symm hpath)]
    rfl
  rw [lookup, hkey]
  cases hsplit : Text.split '.' path with
  | nil => exact absurd hsplit (Text.split_ne_nil '.' path)
  | cons first rest =>
    show ((under [] id).get? first).bind _ = _
    rw [under, Entries.get?_cons]
    split
    · -- The path begins at the identifier and goes on, and text has no fields.
      rename_i hfirst
      cases rest with
      | nil => exact absurd (Text.eq_of_split_eq_singleton hsplit).symm (hfirst ▸ hpath)
      | cons key keys => rfl
    · rfl

/-- The identifier is selected always, so an order by it is never hidden. -/
theorem SortOrder.path_ne_publicId {names : List String} {order : SortOrder}
    (hhidden : ¬ order.Selected names) : order.path ≠ Field.publicId := by
  intro heq
  have hpieces : Text.split '.' Field.publicId = [Field.publicId] := by decide
  refine hhidden ⟨Or.inl heq, fun first hfirst => ?_⟩
  rw [heq, hpieces] at hfirst
  cases hfirst
  exact Or.inl rfl

/-- An order that looks at a hidden field finds a value in some documents, and nothing where the
    hidden field is gone. -/
theorem SortOrder.exists_hidden {names : List String} {order : SortOrder}
    (hhidden : ¬ order.Selected names) :
    ∃ (key : String) (wrap : Value → Value), ¬ Kept names key ∧
      (∀ id value, (Document.under [(key, wrap value)] id).lookup order.path = some value) ∧
      ∀ id, (Document.under [] id).lookup order.path = none := by
  have hid := path_ne_publicId hhidden
  have hnothing : ∀ id, (Document.under [] id).lookup order.path = none :=
    Document.lookup_under_nil hid
  by_cases hpath : Kept names order.path
  · -- The path is selected as a key, so the key at which it begins is hidden.
    obtain ⟨first, hhead, hfirst⟩ : ∃ first, (Text.split '.' order.path).head? = some first ∧
        ¬ Kept names first := by
      by_contra hall
      refine hhidden ⟨hpath, fun first hhead => ?_⟩
      by_contra hfirst
      exact hall ⟨first, hhead, hfirst⟩
    obtain ⟨rest, hsplit⟩ := List.head?_eq_some_iff.1 hhead
    have hpublic : first ≠ Field.publicId := fun heq => hfirst (Or.inl heq)
    have hne : first ≠ order.path := fun heq => hfirst (heq ▸ hpath)
    refine ⟨first, nested rest, hfirst, fun id value => ?_, hnothing⟩
    have hkey : (Document.under [(first, nested rest value)] id).get? order.path = none := by
      rw [Document.under, Entries.get?_cons, if_neg (Ne.symm hid), Entries.get?_cons, if_neg hne]
      rfl
    rw [Document.lookup, hkey, hsplit]
    show ((Document.under [(first, nested rest value)] id).get? first).bind _ = _
    rw [Document.under, Entries.get?_cons, if_neg (Ne.symm hpublic), Entries.get?_cons, if_pos rfl]
    exact walk?_nested rest value
  · refine ⟨order.path, fun value => value, hpath, fun id value => ?_, hnothing⟩
    have hkey : (Document.under [(order.path, value)] id).get? order.path = some value := by
      rw [Document.under, Entries.get?_cons, if_neg (Ne.symm hid), Entries.get?_cons, if_pos rfl]
    rw [Document.lookup, hkey]

/-! ## Two documents in the wrong order

  Two such documents are created by a service, with identifiers that stand against their order.
  With the field they change places, and without it they do not. -/

/-- A document that gives its identifier and has one field. -/
def oneField (id key : String) (value : Value) : Document :=
  [(Field.id, .string id), (key, value)]

section

variable {names : List String} {key : String}

theorem distinct_oneField (hkey : ¬ Kept names key) (id : String) (value : Value) :
    Entries.Distinct (oneField id key value) := by
  have hne : key ≠ Field.id := fun heq => hkey (Or.inr (Or.inl heq))
  refine Entries.distinct_cons_iff.2 ⟨?_, Entries.distinct_cons_iff.2 ⟨rfl, Entries.Distinct.nil⟩⟩
  rw [Entries.get?_cons, if_neg hne]
  rfl

theorem fields_oneField (hkey : ¬ Kept names key) (id : String) (value : Value) :
    (oneField id key value).fields = [(key, value)] := by
  have hid : key ≠ Field.id := fun heq => hkey (Or.inr (Or.inl heq))
  have hpublic : key ≠ Field.publicId := fun heq => hkey (Or.inl heq)
  have hrevision : key ≠ Field.revision := fun heq => hkey (Or.inr (Or.inr (Or.inl heq)))
  simp [oneField, Document.fields, hid, hpublic, hrevision]

end

/-- A creation by one of the services adds its document to what is held. -/
theorem Shared.held?_turn_create {token : Nat → String} {services : Nat → Service.Settings}
    {transientViews : Bool} {shared : Shared} (sound : shared.Sound token services transientViews)
    (i : Nat) {doc : Document} (distinct : Entries.Distinct doc) {id : String}
    (hid : doc.filedAs (token shared.store.issued) = id)
    (hfree : shared.store.held? (services i).model id = none) :
    ∃ record : Record, record.body = doc.fields ∧ ∀ n j,
      (shared.turn token services (i, .create (.single doc))).store.held? n j =
        if n = (services i).model ∧ j = id then some record else shared.store.held? n j := by
  subst hid
  obtain ⟨next, hrun, hheld⟩ :=
    Service.runOn_create_free (sound.reached i) (services i).paginate distinct hfree
  have hstore : (shared.turn token services (i, .create (.single doc))).store = next.store :=
    congrArg (fun run => run.2.store) hrun
  refine ⟨Record.created token shared.store.issued doc, rfl, fun n j => ?_⟩
  rw [hstore]
  exact hheld n j

/-- Every service has the same model. -/
def notesServices : Nat → Service.Settings :=
  fun _ => ⟨"notes", {}⟩

/-- The documents are created one after the other. -/
def createdBoth (first second : Document) : Shared :=
  (Shared.empty true).run Store.countedToken notesServices
    [(0, .create (.single first)), (0, .create (.single second))]

/-- What is held behind that. -/
theorem held?_createdBoth {names : List String} {key : String} (hkey : ¬ Kept names key)
    (value value' : Value) :
    ∃ first second : Record, first.body = [(key, value)] ∧ second.body = [(key, value')] ∧
      ∀ id, (createdBoth (oneField "a" key value) (oneField "b" key value')).store.held? "notes"
        id = if id = "b" then some second else if id = "a" then some first else none := by
  have sound := Shared.sound_empty Store.countedToken notesServices true
  have ha : (oneField "a" key value).filedAs
      (Store.countedToken (Shared.empty true).store.issued) = "a" := rfl
  obtain ⟨first, hbody, hfirst⟩ :=
    Shared.held?_turn_create sound 0 (distinct_oneField hkey "a" value) ha rfl
  have sound' := sound.turn 0 (.create (.single (oneField "a" key value)))
  have hb : (oneField "b" key value').filedAs (Store.countedToken ((Shared.empty true).turn
      Store.countedToken notesServices
        (0, .create (.single (oneField "a" key value)))).store.issued) = "b" := rfl
  -- The first creation leaves the place of the second one free.
  have hfree := hfirst "notes" "b"
  rw [if_neg (by decide)] at hfree
  obtain ⟨second, hbody', hsecond⟩ :=
    Shared.held?_turn_create sound' 0 (distinct_oneField hkey "b" value') hb hfree
  rw [fields_oneField hkey] at hbody hbody'
  refine ⟨first, second, hbody, hbody', fun id => ?_⟩
  -- What is held now, from the last creation backwards.
  refine (hsecond "notes" id).trans ?_
  rw [hfirst]
  by_cases hid : id = "b"
  · rw [if_pos hid, if_pos ⟨rfl, hid⟩]
  · rw [if_neg hid, if_neg fun hplace => hid hplace.2]
    by_cases hid' : id = "a"
    · rw [if_pos hid', if_pos ⟨rfl, hid'⟩]
    · rw [if_neg hid', if_neg fun hplace => hid' hplace.2]
      rfl

/-- Both documents are found, in the order of their identifiers. -/
theorem found_createdBoth {names : List String} {key : String} (hkey : ¬ Kept names key)
    (value value' : Value) :
    ∃ first second : Record, first.body = [(key, value)] ∧ second.body = [(key, value')] ∧
      (createdBoth (oneField "a" key value) (oneField "b" key value')).store.found "notes" [] =
        [("a", first), ("b", second)] := by
  obtain ⟨first, second, hbody, hbody', hheld⟩ := held?_createdBoth hkey value value'
  refine ⟨first, second, hbody, hbody', ?_⟩
  have htable : ((createdBoth (oneField "a" key value)
      (oneField "b" key value')).store.databases.get? "notes").getD Table.empty =
        (Table.empty.insert "a" first).insert "b" second := by
    refine Table.ext_get? fun id => ?_
    have hget : (((createdBoth (oneField "a" key value)
        (oneField "b" key value')).store.databases.get? "notes").getD Table.empty).get? id =
          (createdBoth (oneField "a" key value)
            (oneField "b" key value')).store.held? "notes" id := by
      rw [Store.held?]
      cases (createdBoth (oneField "a" key value)
        (oneField "b" key value')).store.databases.get? "notes" <;> rfl
    rw [hget, hheld, Table.get?_insert, Table.get?_insert, Table.get?_empty]
  have hentries : ((Table.empty.insert "a" first).insert "b" second).entries =
      [("a", first), ("b", second)] := by
    show Entries.place [("a", first)] "b" second = _
    rw [Entries.place, if_neg (by decide), if_neg (by decide)]
    rfl
  rw [Store.found, htable, hentries]
  refine List.filter_eq_self.2 fun entry hmem => ?_
  -- Neither is a design document, and every document satisfies the empty query.
  have ha : isDesignId "a" = false := by decide
  have hb : isDesignId "b" = false := by decide
  have hordinary : isDesignId entry.1 = false := by
    rcases List.mem_cons.1 hmem with rfl | hmem
    · exact ha
    · rw [List.mem_singleton.1 hmem]
      exact hb
  rw [hordinary]
  rfl

/-- What is listed of a document with one field, without a selection and under one that hides the
    field. -/
theorem listed_oneField {names : List String} {key : String} (hkey : ¬ Kept names key)
    {record : Record} {value : Value} (hbody : record.body = [(key, value)]) (id : String) :
    record.listed id none = Document.under [(key, value)] id ∧
      record.listed id (some names) = Document.under [] id := by
  have hpublic : key ≠ Field.publicId := fun heq => hkey (Or.inl heq)
  have hbare : record.body.Bare := by
    rw [hbody, ← fields_oneField hkey id value]
    exact Document.bare_fields _
  have hwhole : record.listed id none = Document.under [(key, value)] id := by
    rw [Record.listed_none hbare, hbody]
    rfl
  refine ⟨hwhole, List.perm_singleton.1 ?_⟩
  have halone : Entries.Distinct (Document.under [] id) :=
    Entries.distinct_cons_iff.2 ⟨rfl, Entries.Distinct.nil⟩
  refine (Record.distinct_listed hbare id (some names)).perm_of_get? halone fun other => ?_
  rw [Record.get?_listed hbare, hwhole]
  simp only [Document.under, Entries.get?_cons, Entries.get?_nil]
  by_cases hother : Field.publicId = other
  · rw [if_pos (Or.inl hother.symm), if_pos hother, if_pos hother]
  · rw [if_neg hother]
    split
    · rename_i hselected
      -- What is selected is not the hidden field.
      have hmem : other ∈ names := hselected.resolve_left (Ne.symm hother)
      have hne : key ≠ other := by
        rintro rfl
        exact hkey (Or.inr (Or.inr (Or.inr hmem)))
      rw [if_neg hne]
    · rfl

/-- An order that looks at a hidden field is lost on some page. -/
theorem exists_lost_order {names : List String} {order : SortOrder}
    (hhidden : ¬ order.Selected names) :
    ∃ shared : Shared, (∃ turns, shared =
        (Shared.empty true).run Store.countedToken notesServices turns) ∧
      ¬ (Service.orderedPage {} (shared.store.found "notes" []) none none (some order)
          (some names)).CutDown names
        (Service.orderedPage {} (shared.store.found "notes" []) none none (some order) none) := by
  obtain ⟨key, wrap, hkey, hvalue, hnothing⟩ := SortOrder.exists_hidden hhidden
  obtain ⟨greater, less, hgt⟩ := order.exists_descending
  obtain ⟨first, second, hbody, hbody', hfound⟩ := found_createdBoth hkey (wrap greater) (wrap less)
  refine ⟨createdBoth (oneField "a" key (wrap greater)) (oneField "b" key (wrap less)),
    ⟨_, rfl⟩, fun hcut => ?_⟩
  obtain ⟨hwhole, halone⟩ := listed_oneField hkey hbody "a"
  obtain ⟨hwhole', halone'⟩ := listed_oneField hkey hbody' "b"
  have hdata := hcut.data
  rw [hfound] at hdata
  have hleft : (Service.orderedPage {} [("a", first), ("b", second)] none none (some order)
      (some names)).data = [Document.under [] "a", Document.under [] "b"] := by
    show order.sort [first.listed "a" (some names), second.listed "b" (some names)] = _
    rw [halone, halone', order.sort_pair, SortOrder.compare_of_none (hnothing "a") (hnothing "b")]
    rfl
  have hright : (Service.orderedPage {} [("a", first), ("b", second)] none none (some order)
      none).data = [Document.under [(key, wrap less)] "b",
        Document.under [(key, wrap greater)] "a"] := by
    show order.sort [first.listed "a" none, second.listed "b" none] = _
    rw [hwhole, hwhole', order.sort_pair, hgt _ _ (hvalue "a" greater) (hvalue "b" less)]
    rfl
  rw [hleft, hright] at hdata
  -- The first document of one page is another one than the first of the other.
  have hperm := (List.forall₂_cons.1 hdata).1
  have hmem : (Field.publicId, Value.string "a") ∈
      Document.cut (some names) (Document.under [(key, wrap less)] "b") :=
    hperm.mem_iff.1 List.mem_cons_self
  rcases List.mem_cons.1 (List.mem_filter.1 hmem).1 with hid | hfield
  · exact absurd (Value.string.inj (congrArg Prod.snd hid)) (by decide)
  · rw [List.mem_singleton] at hfield
    exact hkey (Or.inl (congrArg Prod.fst hfield).symm)

/-! ## A selection hides, and orders may be lost -/

/-- What one of the services answers to a find without a stored view. -/
def Shared.page (token : Nat → String) (services : Nat → Service.Settings) (shared : Shared)
    (i : Nat) (query : Document) (requested skip : Option Nat) (order : Option SortOrder)
    (select : Option (List String)) : Except ServiceError Page :=
  ((((services i).over token).find query ⟨requested, skip, order, select, none⟩).runOn
    (shared.handle i)).1

/-- It is a page of entries that the store has. -/
theorem Shared.Sound.page_eq {token : Nat → String} {services : Nat → Service.Settings}
    {shared : Shared} (sound : shared.Sound token services true) (i : Nat) (query : Document)
    (requested skip : Option Nat) (order : Option SortOrder) (select : Option (List String)) :
    shared.page token services i query requested skip order select =
      .ok (Service.orderedPage (services i).paginate
        (shared.store.found (services i).model query) requested skip order select) :=
  congrArg Prod.fst (Service.runOn_find_ordered (services i).paginate (sound.reached i)
    sound.transientViews query requested skip order select)

/-- With an order it is the page without one, put in order. -/
theorem Shared.Sound.page_ordered {token : Nat → String} {services : Nat → Service.Settings}
    {shared : Shared} (sound : shared.Sound token services true) {i : Nat} {query : Document}
    {requested skip : Option Nat} {select : Option (List String)} {unsorted : Page}
    (hunsorted : shared.page token services i query requested skip none select = .ok unsorted)
    (order : Option SortOrder) :
    shared.page token services i query requested skip order select =
      .ok { unsorted with data := ordered order unsorted.data } := by
  rw [sound.page_eq] at hunsorted ⊢
  cases hunsorted
  rfl

/-- All entries found are bare. -/
theorem Shared.Sound.bare_found {token : Nat → String} {services : Nat → Service.Settings}
    {transientViews : Bool} {shared : Shared} (sound : shared.Sound token services transientViews)
    (model : String) (query : Document) :
    ∀ entry ∈ shared.store.found model query, entry.2.body.Bare :=
  fun entry hmem => sound.bare model entry.1 entry.2 (Store.mem_found_iff.1 hmem).1

/-- **A selection only hides fields, unless the order looks at one that is hidden.**  Over a store
    that evaluates views, a find under a selection has the numbers of the find without it, and the
    same documents, cut down to `id` and the fields selected, in some order.  They are at the same
    positions in every state that services reach, for every query and every page of it, exactly
    where no order is asked for or the order looks at selected fields. -/
theorem select_hides_iff_order_selected (names : List String) (order : Option SortOrder) :
    (∀ token services turns i query requested skip,
      let shared := (Shared.empty true).run token services turns
      ∃ cut whole,
        shared.page token services i query requested skip order (some names) = .ok cut ∧
        shared.page token services i query requested skip order none = .ok whole ∧
        ∃ data, data.Perm whole.data ∧ cut.CutDown names { whole with data := data }) ∧
    ((∀ token services turns i query requested skip cut whole,
      let shared := (Shared.empty true).run token services turns
      shared.page token services i query requested skip order (some names) = .ok cut →
      shared.page token services i query requested skip order none = .ok whole →
      cut.CutDown names whole) ↔
        ∀ o, order = some o → o.Selected names) := by
  have sound : ∀ token services turns,
      ((Shared.empty true).run token services turns).Sound token services true :=
    fun token services turns => (Shared.sound_empty token services true).run turns
  refine ⟨?documents, ?lost, ?kept⟩
  case documents =>
    intro token services turns i query requested skip shared
    have hsound : shared.Sound token services true := sound token services turns
    have hbare := hsound.bare_found (services i).model query
    exact ⟨_, _, hsound.page_eq i query requested skip order (some names),
      hsound.page_eq i query requested skip order none,
      Service.orderedPage_perm (services i).paginate hbare requested skip order names⟩
  case lost =>
    intro hcut o horder
    -- An order by a field that is cut away is lost on a page of two documents.
    by_contra hhidden
    obtain ⟨shared, ⟨turns, rfl⟩, hlost⟩ := exists_lost_order hhidden
    have hsound := sound Store.countedToken notesServices turns
    refine hlost ?_
    refine hcut Store.countedToken notesServices turns 0 [] none none _ _ ?_ ?_
    · rw [horder]
      exact hsound.page_eq 0 [] none none (some o) (some names)
    · rw [horder]
      exact hsound.page_eq 0 [] none none (some o) none
  case kept =>
    intro hselected token services turns i query requested skip cut whole shared hcut hwhole
    have hsound : shared.Sound token services true := sound token services turns
    have hbare := hsound.bare_found (services i).model query
    rw [hsound.page_eq] at hcut hwhole
    cases hcut
    cases hwhole
    exact Service.orderedPage_cutDown (services i).paginate hbare requested skip hselected

/-- Two documents with a number and a text. -/
def numbered : Document :=
  [(Field.id, .string "a"), ("n", .int32 2), ("t", .string "x")]

def numberedLess : Document :=
  [(Field.id, .string "b"), ("n", .int32 1), ("t", .string "y")]

/-- They are found in the order of their numbers, which is not the order of their identifiers.  With
    only the texts selected, the numbers are hidden and the order is lost. -/
theorem hidden_order_is_lost :
    let shared := createdBoth numbered numberedLess
    let byNumber := some ⟨"n", .ascending⟩
    shared.page Store.countedToken notesServices 0 [] none none byNumber none =
      .ok ⟨2, 100, 0, [[("id", .string "b"), ("n", .int32 1), ("t", .string "y")],
        [("id", .string "a"), ("n", .int32 2), ("t", .string "x")]]⟩ ∧
    shared.page Store.countedToken notesServices 0 [] none none byNumber (some ["t"]) =
      .ok ⟨2, 100, 0, [[("id", .string "a"), ("t", .string "x")],
        [("id", .string "b"), ("t", .string "y")]]⟩ := by
  intro shared byNumber
  have sound := (Shared.sound_empty Store.countedToken notesServices true).run
    [(0, .create (.single numbered)), (0, .create (.single numberedLess))]
  have hwhole : shared.page Store.countedToken notesServices 0 [] none none none none =
      .ok ⟨2, 100, 0, [[("id", .string "a"), ("n", .int32 2), ("t", .string "x")],
        [("id", .string "b"), ("n", .int32 1), ("t", .string "y")]]⟩ := rfl
  have hcut : shared.page Store.countedToken notesServices 0 [] none none none (some ["t"]) =
      .ok ⟨2, 100, 0, [[("id", .string "a"), ("t", .string "x")],
        [("id", .string "b"), ("t", .string "y")]]⟩ := rfl
  -- On a page of two, sorting is one comparison.
  refine ⟨(sound.page_ordered hwhole byNumber).trans ?_,
    (sound.page_ordered hcut byNumber).trans ?_⟩
  · rw [ordered, SortOrder.sort_pair]
    rfl
  · rw [ordered, SortOrder.sort_pair]
    rfl

end DocStore
