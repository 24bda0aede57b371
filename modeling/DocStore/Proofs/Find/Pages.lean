/-
  Find is exact, and its pages partition the matches.

  `Store.found` says which entries of a store satisfy a query, without any paging.  A page of a
  find is the part of them that skip and limit name, and its total is their number, whatever
  part was asked for.  So whoever asks for one page after another, a limit apart, sees every one
  of them once.

  The find settles the handle before the first page and leaves it alone from then on
  (`runOn_find_page`); that the pages add up is then a matter of cutting one list
  (`flatMap_parts`).
-/
import DocStore.Proofs.Find.Scan

namespace DocStore

/-- The entries of a service's database that satisfy a query: no design documents, and only those
    whose shown form satisfies what the query compiles to. -/
def Store.found (store : Store) (model : String) (query : Document) : List (String × Record) :=
  ((store.databases.get? model).getD Table.empty).entries.filter fun entry =>
    !isDesignId entry.1 && (Expr.compile query).matches (entry.2.shown entry.1)

/-- Found is what is held, is no design document, and satisfies the query. -/
theorem Store.mem_found_iff {store : Store} {model : String} {query : Document} {id : String}
    {record : Record} : (id, record) ∈ store.found model query ↔
      store.held? model id = some record ∧ isDesignId id = false ∧
        (Expr.compile query).matches (record.shown id) = true := by
  have hheld : (id, record) ∈ ((store.databases.get? model).getD Table.empty).entries ↔
      store.held? model id = some record := by
    rw [Table.mem_entries_iff, held?]
    cases store.databases.get? model <;> rfl
  rw [found, List.mem_filter, hheld, Bool.and_eq_true, Bool.not_eq_true']

theorem Store.found_increasing (store : Store) (model : String) (query : Document) :
    (store.found model query).Pairwise fun a b => a.1 < b.1 :=
  List.Pairwise.filter _ (Table.ordered _)

/-! ## Parts of a list

  A list is cut into parts of one length, of which the last may be shorter; one behind the other
  they make the list again. -/

/-- The numbers of matches to pass over for one page after another. -/
def Page.skips (limit total : Nat) : List Nat :=
  (List.range ((total + limit - 1) / limit)).map (· * limit)

/-- They are the multiples of the limit below the total. -/
theorem Page.mem_skips_iff {limit total skip : Nat} (h : 1 ≤ limit) :
    skip ∈ skips limit total ↔ limit ∣ skip ∧ skip < total := by
  rw [skips, List.mem_map]
  constructor
  · rintro ⟨k, hk, rfl⟩
    -- Rounding up adds less than one limit, so the page begins below the total.
    have hlt : k < (total + limit - 1) / limit := List.mem_range.1 hk
    have hle : (k + 1) * limit ≤ total + limit - 1 := (Nat.le_div_iff_mul_le h).1 hlt
    rw [Nat.succ_mul] at hle
    exact ⟨Nat.dvd_mul_left limit k, by omega⟩
  · rintro ⟨⟨k, rfl⟩, hlt⟩
    have hle : (k + 1) * limit ≤ total + limit - 1 := by
      rw [Nat.succ_mul, Nat.mul_comm k limit]
      omega
    exact ⟨k, List.mem_range.2 ((Nat.le_div_iff_mul_le h).2 hle), Nat.mul_comm k limit⟩

/-- The first `n` parts of a list, one behind the other. -/
theorem flatMap_parts_take {α : Type} (items : List α) (limit n : Nat) :
    ((List.range n).map (· * limit)).flatMap (fun skip => (items.drop skip).take limit) =
      items.take (n * limit) := by
  induction n with
  | zero => rw [Nat.zero_mul, List.take_zero]; rfl
  | succ n ih =>
    rw [List.range_succ, List.map_append, List.flatMap_append, ih, Nat.succ_mul, List.take_add,
      List.map_singleton, List.flatMap_singleton]

/-- All parts of a list make the list. -/
theorem flatMap_parts {α : Type} (items : List α) {limit : Nat} (h : 1 ≤ limit) :
    (Page.skips limit items.length).flatMap (fun skip => (items.drop skip).take limit) = items := by
  rw [Page.skips, flatMap_parts_take]
  apply List.take_of_length_le
  have hlt : items.length + limit - 1 <
      ((items.length + limit - 1) / limit + 1) * limit :=
    (Nat.div_lt_iff_lt_mul h).1 (Nat.lt_succ_self _)
  rw [Nat.succ_mul] at hlt
  omega

/-! ## Finding page after page

  A find that evaluates its view leaves the store as it is, so all pages are parts of one list. -/

namespace Service

variable {token : Nat → String} {model : String} {paginate : Paginate}

/-- The part of the entries found that a request gets. -/
def page (paginate : Paginate) (found : List (String × Record)) (requested skip : Option Nat)
    (select : Option (List String)) : Page where
  total := found.length
  limit := paginate.limit requested
  skip := skip.getD 0
  data := ((found.drop (skip.getD 0)).take (paginate.limit requested)).map fun entry =>
    entry.2.listed entry.1 select

/-- The page that the rows of entries make, where each row shows its entry as callers see it. -/
theorem pageOf_rows (filters : Filters) (hsort : filters.sort = none)
    {found : List (String × Record)} {rowOf : String × Record → Row}
    (hrows : ∀ entry ∈ found,
      (rowOf entry).toPublic filters.select = entry.2.listed entry.1 filters.select)
    (limit skip : Nat) :
    pageOf filters limit skip
        ⟨(found.map rowOf).length, skip, ViewOptions.page ⟨some limit, skip⟩ (found.map rowOf)⟩ =
      ⟨found.length, limit, skip, ((found.drop skip).take limit).map fun entry =>
        entry.2.listed entry.1 filters.select⟩ := by
  have hdata : (((found.map rowOf).drop skip).take limit).map (·.toPublic filters.select) =
      ((found.drop skip).take limit).map fun entry => entry.2.listed entry.1 filters.select := by
    rw [← List.map_drop, ← List.map_take, List.map_map]
    refine List.map_congr_left fun entry hmem => ?_
    exact hrows entry (List.mem_of_mem_drop (List.mem_of_mem_take hmem))
  rw [pageOf, hsort, ViewOptions.page, List.length_map, hdata]

/-- A handle that is open, over a store that answers every find. -/
structure Serves (model : String) (handle : Handle Store) : Prop where
  ready : handle.ready = true
  wellFormed : handle.store.WellFormed
  database : (handle.store.databases.get? model).isSome
  transientViews : handle.store.transientViews = true

/-- A handle that serves has nothing left to open. -/
theorem Serves.settled_eq {handle : Handle Store} (h : Serves model handle) :
    handle.settled model = handle := by
  obtain ⟨store, ready⟩ := handle
  have hready : ready = true := h.ready
  rw [hready]
  rfl

/-- Behind its opening, a reached handle serves. -/
theorem Reached.serves {handle : Handle Store} (h : Reached token model handle)
    (transient : handle.store.transientViews = true) : Serves model (handle.settled model) where
  ready := rfl
  wellFormed := h.opened.wellFormed
  database := by
    rw [h.get?_settled]
    rfl
  transientViews := by
    rw [Handle.settled_transientViews]
    exact transient

/-- The page that a find gives on a handle that it settles. -/
theorem runOn_find_page (token : Nat → String) (paginate : Paginate) {handle settled : Handle Store}
    (hsettled : handle.settled model = settled) (h : Serves model settled) (query : Document)
    (requested skip : Option Nat) (select : Option (List String)) :
    ((overMemory token model paginate).find query
        ⟨requested, skip, none, select, none⟩).runOn handle =
      (.ok (page paginate (settled.store.found model query) requested skip select), settled) := by
  obtain ⟨db, hdb⟩ := Option.isSome_iff_exists.1 h.database
  have hdbwf : db.WellFormed := h.wellFormed.database hdb
  have hfound : settled.store.found model query =
      db.entries.filter (Definition.compile query select).emits := by
    rw [Store.found, hdb]
    rfl
  have hrows : ∀ entry ∈ settled.store.found model query,
      ((Definition.compile query select).rowOf entry).toPublic select =
        entry.2.listed entry.1 select := by
    intro entry hmem
    rw [hfound] at hmem
    exact Definition.toPublic_rowOf query select (hdbwf entry (List.mem_filter.1 hmem).1)
  -- A find depends on the handle only through what opening makes of it.
  rw [runOn_find handle query rfl, hsettled]
  dsimp only
  rw [Plan.runOn_transient token settled.store hdb h.transientViews,
    Definition.evaluate_shown _ hdbwf, ← hfound]
  refine Prod.ext (congrArg Except.ok ?_) (by rw [← h.ready])
  exact pageOf_rows ⟨requested, skip, none, select, none⟩ rfl hrows _ _

/-- Whoever asks for one page after another gets them all from the same store. -/
theorem runOn_each_find (token : Nat → String) (paginate : Paginate) {settled : Handle Store}
    (hserves : Serves model settled) (query : Document) (requested : Option Nat)
    (select : Option (List String)) (skips : List Nat) :
    ∀ handle : Handle Store, handle.settled model = settled →
      ∃ last, (Action.each (fun skip => (overMemory token model paginate).find query
          ⟨requested, some skip, none, select, none⟩) skips).runOn handle =
        (.ok (skips.map fun skip =>
          page paginate (settled.store.found model query) requested (some skip) select), last) := by
  induction skips with
  | nil => exact fun handle _ => ⟨handle, rfl⟩
  | cons skip rest ih =>
    intro handle hsettled
    have hpage := runOn_find_page token paginate hsettled hserves query requested (some skip) select
    obtain ⟨last, hrest⟩ := ih settled hserves.settled_eq
    refine ⟨last, ?_⟩
    rw [Action.each, Action.runOn_bind_ok _ hpage, Action.runOn_bind_ok _ hrest]
    rfl

end Service

/-- **Find is exact, and its pages partition the matches.**  Over every store in memory that
    evaluates views, in every state that it can be in, a find without a stored view and without an
    order gives the page of the entries found that limit and skip name, with the number of all of
    them as total.  The entries found are those that are held in the service's database, are no
    design documents and satisfy the query, in increasing order of their identifiers.
    The pages at the multiples of the limit below the total, asked for one after another, all
    report that total, and list every entry found once and in that order. -/
theorem find_pages_partition {token : Nat → String} {model : String} (paginate : Paginate)
    {handle : Handle Store} (reached : Service.Reached token model handle)
    (transient : handle.store.transientViews = true) (query : Document)
    (requested : Option Nat) (select : Option (List String)) :
    (∀ skip : Option Nat,
      ((Service.overMemory token model paginate).find query
          ⟨requested, skip, none, select, none⟩).runOn handle =
        (.ok {
          total := (handle.store.found model query).length
          limit := paginate.limit requested
          skip := skip.getD 0
          data := (((handle.store.found model query).drop (skip.getD 0)).take
            (paginate.limit requested)).map fun entry => entry.2.listed entry.1 select },
          handle.settled model)) ∧
    (∀ id record, (id, record) ∈ handle.store.found model query ↔
      handle.store.held? model id = some record ∧ isDesignId id = false ∧
        (Expr.compile query).matches (record.shown id) = true) ∧
    (handle.store.found model query).Pairwise (fun a b => a.1 < b.1) ∧
    (1 ≤ paginate.limit requested →
      (∀ skip, skip ∈ Page.skips (paginate.limit requested)
          (handle.store.found model query).length ↔
        paginate.limit requested ∣ skip ∧ skip < (handle.store.found model query).length) ∧
      ∃ pages last,
        (Action.each (fun skip => (Service.overMemory token model paginate).find query
            ⟨requested, some skip, none, select, none⟩)
          (Page.skips (paginate.limit requested) (handle.store.found model query).length)).runOn
            handle = (.ok pages, last) ∧
        (∀ page ∈ pages, page.total = (handle.store.found model query).length) ∧
        pages.flatMap Page.data =
          (handle.store.found model query).map fun entry => entry.2.listed entry.1 select) := by
  have hserves := reached.serves transient
  have hfound : (handle.settled model).store.found model query =
      handle.store.found model query := by
    rw [Store.found, reached.get?_settled]
    rfl
  refine ⟨?single, fun id record => Store.mem_found_iff, Store.found_increasing _ _ _, ?pages⟩
  case single =>
    intro skip
    have hpage := Service.runOn_find_page token paginate rfl hserves query requested skip select
    rw [hfound] at hpage
    exact hpage
  case pages =>
    intro hlimit
    refine ⟨fun skip => Page.mem_skips_iff hlimit, ?_⟩
    obtain ⟨last, hrun⟩ := Service.runOn_each_find token paginate hserves query requested select
      (Page.skips (paginate.limit requested) (handle.store.found model query).length) handle rfl
    rw [hfound] at hrun
    refine ⟨_, last, hrun, ?_, ?_⟩
    · intro page hmem
      obtain ⟨skip, -, rfl⟩ := List.mem_map.1 hmem
      rfl
    · -- The parts of the entries found, each shown, are the parts of what is shown.
      have hparts := congrArg
        (List.map fun entry : String × Record => entry.2.listed entry.1 select)
        (flatMap_parts (handle.store.found model query) hlimit)
      rw [List.map_flatMap] at hparts
      rw [List.flatMap_map]
      exact hparts

/-- A handle over a store that holds three documents, not written in the order of their
    identifiers. -/
def threeHeld : Handle Store :=
  ⟨(Store.respondAll Store.countedToken [] (Store.empty true)
    [.createDatabase "notes", .saveDocument "notes" (some "b") [],
      .saveDocument "notes" (some "c") [], .saveDocument "notes" (some "a") []]).2, false⟩

/-- With one document on a page, the second page holds the second one in order. -/
theorem threeHeld_second_page :
    Service.Reached Store.countedToken "notes" threeHeld ∧
    threeHeld.store.transientViews = true ∧
    (((Service.overMemory Store.countedToken "notes" {}).find []
      ⟨some 1, some 1, none, none, none⟩).runOn threeHeld).1 =
        .ok ⟨3, 1, 1, [[("id", .string "b")]]⟩ := by
  have reached : Service.Reached Store.countedToken "notes" threeHeld :=
    .built ((Store.Reached.empty true).respondAll _)
  have transient : threeHeld.store.transientViews = true := rfl
  obtain ⟨single, -⟩ := find_pages_partition {} reached transient [] (some 1) none
  refine ⟨reached, transient, ?_⟩
  rw [single (some 1)]
  rfl

end DocStore
