/-
  What an order does to a page.

  An order puts the documents of a page, which stand in the order of their identifiers, into the
  order of the values at its path.  Only the comparison decides how well that goes: over values
  without an order among them it is no ordering at all, and the page is put into some order.  Where
  the values are read as elements of one linear order (`Value.Reading`), it is one, and the page is
  sorted.  Integers of both widths, strings, booleans and dates are read in this way.

  Documents with the same value stay in the order of their identifiers, in whichever direction:
  sorting is stable (`pairwise_mergeSort`), and the descending order turns the comparison round and
  not the page.
-/
import Mathlib.Data.String.Basic
import Mathlib.Order.Compare
import DocStore.Proofs.Find.Selection

namespace DocStore

/-! ## Stable sorting

  Beyond what the library says of merging: elements that are tied stand in the order in which they
  stood. -/

section

variable {α : Type} {le : α → α → Bool}

/-- Sorting leaves elements none of which is above another one in the order in which they stand. -/
theorem filter_mergeSort (trans : ∀ a b c, le a b = true → le b c = true → le a c = true)
    (total : ∀ a b, (le a b || le b a) = true) {tied : α → Bool}
    (htied : ∀ a b, tied a = true → tied b = true → le a b = true) (l : List α) :
    (l.mergeSort le).filter tied = l.filter tied := by
  have hpairwise : (l.filter tied).Pairwise fun a b => le a b = true :=
    List.pairwise_of_forall_mem_list fun a ha b hb =>
      htied a b (List.mem_filter.1 ha).2 (List.mem_filter.1 hb).2
  have hsub : (l.filter tied).Sublist (l.mergeSort le) :=
    List.sublist_mergeSort trans total hpairwise List.filter_sublist
  -- What remains of the tied elements can be no more than there were before.
  have htwice : (l.filter tied).Sublist ((l.mergeSort le).filter tied) := by
    have hfilter := hsub.filter tied
    rwa [List.filter_filter, List.filter_congr fun a _ => Bool.and_self (tied a)] at hfilter
  exact (htwice.eq_of_length ((List.mergeSort_perm l le).filter tied).length_eq.symm).symm

/-- Sorted elements are in order, and of two that are not above each other, the one that stood
    first still stands first. -/
theorem pairwise_mergeSort (trans : ∀ a b c, le a b = true → le b c = true → le a c = true)
    (total : ∀ a b, (le a b || le b a) = true) {before : α → α → Prop} {l : List α}
    (h : l.Pairwise before) :
    (l.mergeSort le).Pairwise fun a b => le a b = true ∧ (le b a = true → before a b) := by
  rw [List.pairwise_iff_forall_sublist]
  intro a b hsub
  have hab : le a b = true :=
    List.pairwise_iff_forall_sublist.1 (List.pairwise_mergeSort trans total l) hsub
  refine ⟨hab, fun hba => ?_⟩
  have hrefl : ∀ x, le x x = true := fun x => (Bool.or_self _).symm.trans (total x x)
  -- The elements that are tied with `a` keep their order, and `b` is one of them.
  let tied : α → Bool := fun x => le a x && le x a
  have htied : ∀ x y, tied x = true → tied y = true → le x y = true := fun x y hx hy =>
    trans x a y (Bool.and_eq_true_iff.1 hx).2 (Bool.and_eq_true_iff.1 hy).1
  have hpair : [a, b].filter tied = [a, b] := by
    simp [tied, hrefl, hab, hba]
  have hkept := hsub.filter tied
  rw [hpair, filter_mergeSort trans total htied] at hkept
  exact List.pairwise_iff_forall_sublist.1 h (hkept.trans List.filter_sublist)

end

/-! ## Values of one kind

  Four ways to read values, and in each of them comparing values is comparing what is read. -/

/-- A way to read values as elements of a linear order, which the comparison of values agrees
    with. -/
structure Value.Reading (α : Type) [LinearOrder α] where
  read : Value → Option α
  compares {x y : Value} {a b : α} (hx : read x = some a) (hy : read y = some b) :
    compareValues (some x) (some y) = compare a b

namespace Value.Reading

/-- Integers of either width. -/
def integers : Reading Int where
  read
    | .int32 n => some n.toInt
    | .int64 n => some n.toInt
    | _ => none
  compares {x y} _ _ hx hy := by
    cases x <;> cases hx <;> cases y <;> cases hy <;> rfl

def strings : Reading String where
  read := asString?
  compares {x y} _ _ hx hy := by
    cases x <;> cases hx
    cases y <;> cases hy
    rfl

def booleans : Reading Bool where
  read
    | .bool b => some b
    | _ => none
  compares {x y} _ _ hx hy := by
    cases x <;> cases hx
    cases y <;> cases hy
    rfl

def dates : Reading Int where
  read
    | .dateTime milliseconds => some milliseconds.toInt
    | _ => none
  compares {x y} _ _ hx hy := by
    cases x <;> cases hx
    cases y <;> cases hy
    rfl

end Value.Reading

/-! ## Sorting by one kind

  Entries whose documents can be read in one of these ways are compared by a linear order, turned
  round where the order is descending, so sorting does what it should. -/

/-- The document that is listed of an entry without a selection. -/
def listedWhole (entry : String × Record) : Document :=
  entry.2.listed entry.1 none

namespace SortOrder

variable {α : Type} [LinearOrder α] {order : SortOrder} {a b c : α}

/-- Whether the first of two keys belongs in front of the second one. -/
def Before (order : SortOrder) (a b : α) : Prop :=
  match order.direction with
  | .ascending => a < b
  | .descending => b < a

instance : Decidable (order.Before a b) :=
  match order with
  | ⟨_, .ascending⟩ => inferInstanceAs (Decidable (a < b))
  | ⟨_, .descending⟩ => inferInstanceAs (Decidable (b < a))

theorem not_before_self : ¬ order.Before a a := by
  obtain ⟨_, _ | _⟩ := order
  · exact lt_irrefl a
  · exact lt_irrefl a

theorem Before.asymm (h : order.Before a b) : ¬ order.Before b a := by
  obtain ⟨_, _ | _⟩ := order
  · exact lt_asymm h
  · exact lt_asymm h

/-- If neither does, they are the same key. -/
theorem before_or_eq (h : ¬ order.Before b a) : order.Before a b ∨ a = b := by
  obtain ⟨_, _ | _⟩ := order
  · exact lt_or_eq_of_le (not_lt.1 h)
  · exact (lt_or_eq_of_le (not_lt.1 h)).imp id Eq.symm

theorem not_before_trans (hab : ¬ order.Before b a) (hbc : ¬ order.Before c b) :
    ¬ order.Before c a := by
  obtain ⟨_, _ | _⟩ := order
  · exact not_lt.2 ((not_lt.1 hab).trans (not_lt.1 hbc))
  · exact not_lt.2 ((not_lt.1 hbc).trans (not_lt.1 hab))

/-- What is read of the value at the path of an order. -/
def key? (order : SortOrder) (reading : Value.Reading α) (doc : Document) : Option α :=
  (doc.lookup order.path).bind reading.read

/-- Documents with keys are compared by them. -/
theorem compare_eq_gt_iff {reading : Value.Reading α} {doc other : Document}
    (ha : order.key? reading doc = some a) (hb : order.key? reading other = some b) :
    order.compare doc other = .gt ↔ order.Before b a := by
  obtain ⟨x, hx, hreadx⟩ := Option.bind_eq_some_iff.1 ha
  obtain ⟨y, hy, hready⟩ := Option.bind_eq_some_iff.1 hb
  rw [compare, hx, hy, reading.compares hreadx hready, Before]
  cases order.direction with
  | ascending => exact compare_gt_iff_gt
  | descending => exact Ordering.swap_eq_gt.trans compare_lt_iff_lt

/-- Two entries as sorting leaves them: both have a key, and either the first one's key belongs in
    front of the other one's, or the keys are the same and the identifiers increase. -/
def InOrder (order : SortOrder) (reading : Value.Reading α) (first second : String × Record) :
    Prop :=
  ∃ a b, order.key? reading (listedWhole first) = some a ∧
    order.key? reading (listedWhole second) = some b ∧
    (order.Before a b ∨ a = b ∧ first.1 < second.1)

/-- Two entries that are in order are not in order the other way round. -/
theorem InOrder.asymm {reading : Value.Reading α} {first second : String × Record}
    (h : order.InOrder reading first second) : ¬ order.InOrder reading second first := by
  rintro ⟨b', a', hb', ha', hback⟩
  obtain ⟨a, b, ha, hb, hfront⟩ := h
  obtain rfl : a = a' := Option.some.inj (ha.symm.trans ha')
  obtain rfl : b = b' := Option.some.inj (hb.symm.trans hb')
  rcases hfront with hfront | ⟨rfl, hfront⟩
  · rcases hback with hback | ⟨rfl, -⟩
    · exact hfront.asymm hback
    · exact not_before_self hfront
  · rcases hback with hback | ⟨-, hback⟩
    · exact not_before_self hback
    · exact lt_asymm hfront hback

/-- So there is no more than one way to put entries in order. -/
theorem eq_of_pairwise_inOrder {reading : Value.Reading α} {sorted other : List (String × Record)}
    (h : sorted.Pairwise (order.InOrder reading)) (hother : other.Pairwise (order.InOrder reading))
    (hperm : sorted.Perm other) : sorted = other :=
  List.Perm.eq_of_pairwise (fun _ _ _ _ hfront hback => absurd hback hfront.asymm) h hother hperm

/-- Whether entries, rearranged, are sorted by what a reading gives, if it gives a key for all of
    them. -/
def Sorts (order : SortOrder) (reading : Value.Reading α)
    (entries sorted : List (String × Record)) : Prop :=
  (∀ entry ∈ entries, ∃ a, order.key? reading (listedWhole entry) = some a) →
    sorted.Pairwise (order.InOrder reading)

/-- Entries sorted by the documents that are listed of them. -/
def sortEntries (order : SortOrder) (entries : List (String × Record)) : List (String × Record) :=
  entries.mergeSort fun first second =>
    order.compare (listedWhole first) (listedWhole second) != .gt

/-- Whether the rank of the first of two does not belong behind that of the second one. -/
def inTurn {β : Type} (order : SortOrder) (rank : β → α) (first second : β) : Bool :=
  !decide (order.Before (rank second) (rank first))

section

variable {β : Type} {rank : β → α} {x y z : β}

/-- Rows are in turn unless the later one has to stand first. -/
theorem inTurn_iff : order.inTurn rank x y = true ↔ ¬ order.Before (rank y) (rank x) := by
  rw [inTurn, Bool.not_eq_true', decide_eq_false_iff_not]

theorem inTurn_trans (hxy : order.inTurn rank x y = true) (hyz : order.inTurn rank y z = true) :
    order.inTurn rank x z = true :=
  inTurn_iff.2 (not_before_trans (inTurn_iff.1 hxy) (inTurn_iff.1 hyz))

theorem inTurn_total (x y : β) : (order.inTurn rank x y || order.inTurn rank y x) = true := by
  rw [Bool.or_eq_true, inTurn_iff, inTurn_iff]
  exact or_iff_not_imp_left.2 fun h => (not_not.1 h).asymm

end

/-- Entries that all have a key are sorted by ranks. -/
theorem sortEntries_eq {reading : Value.Reading α} {rank : String × Record → α}
    {entries : List (String × Record)}
    (hrank : ∀ entry ∈ entries, order.key? reading (listedWhole entry) = some (rank entry)) :
    order.sortEntries entries = entries.mergeSort (order.inTurn rank) := by
  have hcompare : ∀ first ∈ entries, ∀ second ∈ entries,
      (order.compare (listedWhole first) (listedWhole second) != .gt) =
        order.inTurn rank first second := by
    intro first hfirst second hsecond
    rw [Bool.eq_iff_iff, inTurn_iff, bne_iff_ne, Ne,
      compare_eq_gt_iff (hrank first hfirst) (hrank second hsecond)]
  have hmap := List.map_mergeSort (f := id) hcompare
  rwa [List.map_id, List.map_id] at hmap

/-- Sorting entries that stand in the order of their identifiers sorts them by any reading. -/
theorem sorts_sortEntries [Inhabited α] (order : SortOrder) (reading : Value.Reading α)
    {entries : List (String × Record)}
    (increasing : entries.Pairwise fun first second => first.1 < second.1) :
    order.Sorts reading entries (order.sortEntries entries) := by
  intro hkeys
  -- Entries elsewhere may have no key, and any rank will do for them.
  let rank : String × Record → α := fun entry =>
    (order.key? reading (listedWhole entry)).getD default
  have hrank : ∀ entry ∈ entries, order.key? reading (listedWhole entry) = some (rank entry) := by
    intro entry hmem
    obtain ⟨a, ha⟩ := hkeys entry hmem
    exact (Option.getD_of_ne_none (ha ▸ Option.some_ne_none a) default).symm
  rw [sortEntries_eq hrank]
  have hsorted : (entries.mergeSort (order.inTurn rank)).Pairwise fun first second =>
      order.inTurn rank first second = true ∧
        (order.inTurn rank second first = true → first.1 < second.1) :=
    pairwise_mergeSort (fun _ _ _ => inTurn_trans) inTurn_total increasing
  refine hsorted.imp_of_mem ?_
  rintro first second hfirst hsecond ⟨hturn, htied⟩
  refine ⟨rank first, rank second, hrank first (List.mem_mergeSort.1 hfirst),
    hrank second (List.mem_mergeSort.1 hsecond), ?_⟩
  rcases before_or_eq (inTurn_iff.1 hturn) with hbefore | heq
  · exact .inl hbefore
  · refine .inr ⟨heq, htied (inTurn_iff.2 ?_)⟩
    rw [heq]
    exact not_before_self

/-- Whether entries, rearranged, are sorted if the values by which an order places them are all of
    one kind: integers of either width, strings, booleans or dates. -/
structure SortsKinds (order : SortOrder) (entries sorted : List (String × Record)) : Prop where
  integers : order.Sorts .integers entries sorted
  strings : order.Sorts .strings entries sorted
  booleans : order.Sorts .booleans entries sorted
  dates : order.Sorts .dates entries sorted

/-- Entries in the order of their identifiers are sorted as promised for each of the four kinds. -/
theorem sortsKinds_sortEntries (order : SortOrder) {entries : List (String × Record)}
    (increasing : entries.Pairwise fun first second => first.1 < second.1) :
    order.SortsKinds entries (order.sortEntries entries) where
  integers := order.sorts_sortEntries .integers increasing
  strings := order.sorts_sortEntries .strings increasing
  booleans := order.sorts_sortEntries .booleans increasing
  dates := order.sorts_sortEntries .dates increasing

end SortOrder

/-! ## Sorting a page -/

/-- The entries that limit and skip pick from those found. -/
def Store.picked (store : Store) (model : String) (query : Document) (limit skip : Nat) :
    List (String × Record) :=
  ((store.found model query).drop skip).take limit

/-- A page is picked in the order of identifiers. -/
theorem Store.picked_increasing (store : Store) (model : String) (query : Document)
    (limit skip : Nat) :
    (store.picked model query limit skip).Pairwise fun first second => first.1 < second.1 :=
  (store.found_increasing model query).sublist
    ((List.take_sublist _ _).trans (List.drop_sublist _ _))

/-- **An order permutes the page, sorts it, and is stable.**  Over every store in memory that
    evaluates views, in every state that it can be in, a find without a stored view and without a
    selection gives a page of the entries found, in the order of their identifiers.  With an order
    it gives the same page, of the same total, limit and skip, with the same entries rearranged.
    If the values at the path of the order are integers of either width in all documents of the
    page, or strings, or booleans, or dates in all of them, the documents stand in the order of
    these values, up or down, and those with the same value in the order of their identifiers. -/
theorem find_sorts_page {token : Nat → String} {model : String} (paginate : Paginate)
    {handle : Handle Store} (reached : Service.Reached token model handle)
    (transient : handle.store.transientViews = true) (query : Document)
    (requested skip : Option Nat) (order : SortOrder) :
    ∃ (unsorted : Page) (entries sorted : List (String × Record)),
      entries =
        handle.store.picked model query (paginate.limit requested) (skip.getD 0) ∧
      unsorted.data = entries.map listedWhole ∧
      ((Service.overMemory token model paginate).find query
          ⟨requested, skip, none, none, none⟩).runOn handle =
        (.ok unsorted, handle.settled model) ∧
      sorted.Perm entries ∧
      ((Service.overMemory token model paginate).find query
          ⟨requested, skip, some order, none, none⟩).runOn handle =
        (.ok { unsorted with data := sorted.map listedWhole }, handle.settled model) ∧
      order.SortsKinds entries sorted := by
  have increasing := handle.store.picked_increasing model query (paginate.limit requested)
    (skip.getD 0)
  -- The program sorts documents as they are shown; sorting what is held and showing it then comes
  -- to the same.
  have hdata : ordered (some order)
      (Service.page paginate (handle.store.found model query) requested skip none).data =
        (order.sortEntries (handle.store.picked model query (paginate.limit requested)
          (skip.getD 0))).map listedWhole :=
    order.sort_map fun _ _ => rfl
  refine ⟨Service.page paginate (handle.store.found model query) requested skip none, _,
    order.sortEntries _, rfl, rfl, ?unsorted, List.mergeSort_perm _ _, ?sorted,
    order.sortsKinds_sortEntries increasing⟩
  case unsorted =>
    exact Service.runOn_find_ordered paginate reached transient query requested skip none none
  case sorted =>
    rw [Service.runOn_find_ordered paginate reached transient query requested skip (some order)
      none, Service.orderedPage, hdata]

/-- A handle over a store with three documents, two of which have the same number in different
    widths. -/
def repeatedKeys : Handle Store :=
  ⟨(Store.respondAll Store.countedToken [] (Store.empty true)
    [.createDatabase "notes", .saveDocument "notes" (some "c") [("n", .int32 2)],
      .saveDocument "notes" (some "b") [("n", .int64 2)],
      .saveDocument "notes" (some "a") [("n", .int32 1)]]).2, false⟩

/-- In descending order the greater number comes first, and of the same numbers still the lesser
    identifier. -/
theorem repeatedKeys_descending :
    Service.Reached Store.countedToken "notes" repeatedKeys ∧
    repeatedKeys.store.transientViews = true ∧
    (((Service.overMemory Store.countedToken "notes" {}).find []
      ⟨none, none, some ⟨"n", .descending⟩, none, none⟩).runOn repeatedKeys).1.map Page.data =
        .ok [[("id", .string "b"), ("n", .int64 2)], [("id", .string "c"), ("n", .int32 2)],
          [("id", .string "a"), ("n", .int32 1)]] := by
  have reached : Service.Reached Store.countedToken "notes" repeatedKeys :=
    .built ((Store.Reached.empty true).respondAll _)
  have transient : repeatedKeys.store.transientViews = true := rfl
  refine ⟨reached, transient, ?_⟩
  obtain ⟨unsorted, entries, sorted, hentries, -, -, hperm, hrun, kinds⟩ :=
    find_sorts_page {} reached transient [] none none ⟨"n", .descending⟩
  -- The three entries in the order of the store, with their keys.
  obtain ⟨a, b, c, hpicked, hlisted, ha, hb, hc, hids⟩ : ∃ a b c : String × Record,
      repeatedKeys.store.picked "notes" [] (({} : Paginate).limit none) 0 = [a, b, c] ∧
      [b, c, a].map listedWhole = [[("id", .string "b"), ("n", .int64 2)],
        [("id", .string "c"), ("n", .int32 2)], [("id", .string "a"), ("n", .int32 1)]] ∧
      SortOrder.key? ⟨"n", .descending⟩ .integers (listedWhole a) = some 1 ∧
      SortOrder.key? ⟨"n", .descending⟩ .integers (listedWhole b) = some 2 ∧
      SortOrder.key? ⟨"n", .descending⟩ .integers (listedWhole c) = some 2 ∧ b.1 < c.1 :=
    ⟨_, _, _, rfl, rfl, rfl, rfl, rfl, by decide⟩
  obtain rfl : entries = [a, b, c] := hentries.trans hpicked
  have hpairwise := kinds.integers (by simp [ha, hb, hc])
  -- Both lists are in order and have the same entries, so they are the same.
  have hinOrder : [b, c, a].Pairwise (SortOrder.InOrder ⟨"n", .descending⟩ .integers) := by
    have hbc : SortOrder.InOrder ⟨"n", .descending⟩ .integers b c :=
      ⟨2, 2, hb, hc, .inr ⟨rfl, hids⟩⟩
    have hba : SortOrder.InOrder ⟨"n", .descending⟩ .integers b a :=
      ⟨2, 1, hb, ha, .inl (by decide)⟩
    have hca : SortOrder.InOrder ⟨"n", .descending⟩ .integers c a :=
      ⟨2, 1, hc, ha, .inl (by decide)⟩
    simp [hbc, hba, hca]
  have hsorted := SortOrder.eq_of_pairwise_inOrder hpairwise hinOrder
    (hperm.trans (List.perm_append_singleton a [b, c]).symm)
  rw [hrun, ← hlisted, hsorted]
  rfl

end DocStore
