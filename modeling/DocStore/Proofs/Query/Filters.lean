/-
  Splitting a raw query loses nothing and mixes nothing up.

  A raw query is a query proper with filters strewn in among its fields.  `Interleaved` says so
  without saying where: one list of fields and another one, each in its order, make a third.  Out
  of the third, splitting takes exactly the first, because no field of a query has a key that
  filters stand under, and exactly the filters that the second one spells, because it alone can have
  something under those keys.

  Filters have many spellings.  A count is a number that is not negative: an integer of either
  width, a double that is exactly that integer, or text (`SpellsCount`).  A direction is 1 or -1 in
  all these forms, or a word (`SpellsDirection`).  The doubles are where there is something to show:
  no double that is a count is infinite, nor is it cut off at the greatest count.
-/
import DocStore.Query.Filters
import DocStore.Proofs.Text.Decimal

namespace DocStore

/-! ## Interleaved lists

  Filters may be strewn in anywhere among the fields of a query. -/

/-- The third list is made of the first two, each of which keeps its order. -/
inductive Interleaved {α : Type} : List α → List α → List α → Prop
  | nil : Interleaved [] [] []
  | left (a : α) {as bs cs : List α} : Interleaved as bs cs → Interleaved (a :: as) bs (a :: cs)
  | right (b : α) {as bs cs : List α} : Interleaved as bs cs → Interleaved as (b :: bs) (b :: cs)

namespace Interleaved

theorem of_nil {α : Type} : ∀ as : List α, Interleaved as [] as
  | [] => nil
  | a :: as => left a (of_nil as)

/-- What tells the two lists apart takes the first one out of the third. -/
theorem filter_eq {α : Type} {p : α → Bool} {as bs cs : List α} (h : Interleaved as bs cs)
    (has : ∀ a ∈ as, p a = true) (hbs : ∀ b ∈ bs, p b = false) : cs.filter p = as := by
  induction h with
  | nil => rfl
  | left a h ih =>
    rw [List.forall_mem_cons] at has
    rw [List.filter_cons_of_pos has.1, ih has.2 hbs]
  | right b h ih =>
    rw [List.forall_mem_cons] at hbs
    rw [List.filter_cons_of_neg (by rw [hbs.1]; decide), ih has hbs.2]

/-- A key that the first list does not have is looked up in the second. -/
theorem get?_eq {α : Type} {key : String} {entries others raw : Entries α}
    (h : Interleaved entries others raw) (hkey : ∀ entry ∈ entries, entry.1 ≠ key) :
    raw.get? key = others.get? key := by
  induction h with
  | nil => rfl
  | left a h ih =>
    rw [List.forall_mem_cons] at hkey
    rw [Entries.get?_cons, if_neg hkey.1, ih hkey.2]
  | right b h ih => rw [Entries.get?_cons, Entries.get?_cons, ih hkey]

end Interleaved

/-! ## Counts among the doubles

  A double may spell a count.  That every count up to the greatest one is found again is a matter
  of where doubles stand. -/

namespace Double

variable {x : Double}

/-- A place is the magnitude of bits that are no NaN, up to its sign. -/
theorem natAbs_of_position? {p : Int} (h : x.position? = some p) :
    x.magnitudeBits ≤ infinityBits ∧ p.natAbs = magnitude x.magnitudeBits := by
  rw [position?] at h
  split at h
  · cases h
  · rename_i hnumber
    rw [isNaN, decide_eq_true_eq, Nat.not_lt] at hnumber
    refine ⟨hnumber, ?_⟩
    rw [← Option.some.inj h]
    split
    · rw [Int.natAbs_neg, Int.natAbs_natCast]
    · rw [Int.natAbs_natCast]

/-- Doubles in front of the infinite ones are finite. -/
theorem isFinite_of_position? {p : Int} (h : x.position? = some p)
    (hp : p.natAbs < magnitude infinityBits) : x.isFinite = true := by
  obtain ⟨hnumber, hmagnitude⟩ := natAbs_of_position? h
  refine decide_eq_true (Nat.lt_of_le_of_ne hnumber fun hinfinite => ?_)
  rw [hmagnitude, hinfinite] at hp
  exact Nat.lt_irrefl _ hp

theorem unitsPerOne_pos : 0 < unitsPerOne := by
  decide +kernel

/-- The greatest count is far below infinity, so no double rounds to it. -/
theorem maxCount_lt_infinity : maxCount * unitsPerOne < magnitude infinityBits := by
  decide +kernel

/-- A double that is a count is read as that count. -/
theorem toCount?_of_position? {n : Nat} (hn : n ≤ maxCount)
    (h : x.position? = some (n * unitsPerOne : Nat)) : x.toCount? maxCount = some n := by
  have hbelow : n * unitsPerOne ≤ maxCount * unitsPerOne := Nat.mul_le_mul_right _ hn
  have hfinite : x.isFinite = true := by
    refine isFinite_of_position? h ?_
    rw [Int.natAbs_natCast]
    exact Nat.lt_of_le_of_lt hbelow maxCount_lt_infinity
  rw [toCount?, h]
  show (if 0 ≤ ((n * unitsPerOne : Nat) : Int) ∧ x.isFinite then
    some (min (((n * unitsPerOne : Nat) : Int).toNat / unitsPerOne) maxCount) else none) = some n
  rw [if_pos ⟨Int.natCast_nonneg _, hfinite⟩, Int.toNat_natCast,
    Nat.mul_div_cancel n unitsPerOne_pos, Nat.min_eq_left hn]

/-- A double that is a whole number lies below zero if that number does. -/
theorem compare?_zero_of_position? {n : Int} (h : x.position? = some (n * unitsPerOne)) :
    x.compare? (ofInt 0) = some .lt ↔ n < 0 := by
  have hzero : (ofInt 0).position? = some 0 := by decide +kernel
  have hunits : (0 : Int) < unitsPerOne := Int.natCast_pos.2 unitsPerOne_pos
  rw [compare?, h, hzero, Option.bind_some, Option.map_some, Option.some.injEq,
    Int.compare_eq_lt]
  constructor
  · intro hbelow
    exact Int.not_le.1 fun hn => Int.not_le.2 hbelow (Int.mul_nonneg hn (Int.le_of_lt hunits))
  · intro hn
    exact Int.mul_neg_of_neg_of_pos hn hunits

end Double

/-! ## Spellings of filters

  What callers may write for each of the filters. -/

/-- The value is this whole number: as an integer of either width, or as a double that is exactly
    that. -/
inductive Value.Spells : Value → Int → Prop
  | int32 (x : Int32) : Spells (.int32 x) x.toInt
  | int64 (x : Int64) : Spells (.int64 x) x.toInt
  | double {x : Double} {n : Int} (h : x.position? = some (n * Double.unitsPerOne)) :
      Spells (.double x) n

namespace Filters

/-- The value is this count, as a number or as text. -/
def SpellsCount (n : Nat) (value : Value) : Prop :=
  n ≤ maxCount ∧ (value.Spells n ∨ ∃ text, value = .string text ∧ Text.Spells text n)

/-- The value is 1 for ascending order or -1 for descending order, as a number or as text, or it is
    the word for the direction, in either case. -/
def SpellsDirection : Direction → Value → Prop
  | .ascending, value => value.Spells 1 ∨
      ∃ text, value = .string text ∧ (text = "1" ∨ text.toList.map Char.toLower = "asc".toList)
  | .descending, value => value.Spells (-1) ∨
      ∃ text, value = .string text ∧ (text = "-1" ∨ text.toList.map Char.toLower = "desc".toList)

/-- The value is a document whose only field has the path for its key and the direction for its
    value. -/
def SpellsSort (order : SortOrder) (value : Value) : Prop :=
  ∃ direction, value = .document [(order.path, direction)] ∧
    SpellsDirection order.direction direction

def SpellsSelect (names : List String) (value : Value) : Prop :=
  value = .array (names.map .string)

def SpellsView (name : String) (value : Value) : Prop :=
  value = .string name ∧ name ≠ ""

/-- The entries are spellings of these filters and nothing else: under the key of a filter stands a
    spelling of it if there is such a filter, and nothing if there is none. -/
structure SpelledBy (filters : Filters) (entries : Document) : Prop where
  reserved : ∀ entry ∈ entries, entry.1 ∈ reservedKeys
  limit : Option.Rel SpellsCount filters.limit (entries.get? "$limit")
  skip : Option.Rel SpellsCount filters.skip (entries.get? "$skip")
  sort : Option.Rel SpellsSort filters.sort (entries.get? "$sort")
  select : Option.Rel SpellsSelect filters.select (entries.get? "$select")
  view : Option.Rel SpellsView filters.view (entries.get? "q")

/-! ## Spellings are read

  One lemma for each filter, and one that puts them together. -/

/-- From every spelling of a filter, that filter is read. -/
def Reads {α : Type} (spells : α → Value → Prop) (read? : Value → Option α) : Prop :=
  ∀ filter value, spells filter value → read? value = some filter

/-- A count is read from every spelling of it. -/
theorem reads_count : Reads SpellsCount count? := by
  rintro n value ⟨hn, hnumber | ⟨text, rfl, htext⟩⟩
  · generalize hwhole : (n : Int) = whole at hnumber
    cases hnumber with
    | int32 x => rw [count?, if_pos (by omega), ← hwhole, Int.toNat_natCast]
    | int64 x => rw [count?, if_pos (by omega), ← hwhole, Int.toNat_natCast]
    | double h =>
      rw [← hwhole, ← Int.natCast_mul] at h
      exact Double.toCount?_of_position? hn h
  · exact Text.unsigned?_eq_some_iff.2 ⟨htext, hn⟩

/-- A number asks for descending order if it is negative. -/
theorem descends_of_spells {n : Int} {value : Value} (h : value.Spells n) :
    descends value = decide (n < 0) := by
  cases h with
  | int32 x => rfl
  | int64 x => rfl
  | double h =>
    rw [descends, Bool.eq_iff_iff, beq_iff_eq, decide_eq_true_eq]
    exact Double.compare?_zero_of_position? h

/-- A direction is read from every spelling of it. -/
theorem descends_of_spellsDirection {direction : Direction} {value : Value}
    (h : SpellsDirection direction value) :
    (if descends value then .descending else .ascending) = direction := by
  cases direction with
  | ascending =>
    rcases h with hnumber | ⟨text, rfl, rfl | hword⟩
    · rw [descends_of_spells hnumber]
      rfl
    · rfl
    · have hminus : text ≠ "-1" := by
        rintro rfl
        revert hword
        decide
      rw [descends, hword, beq_false_of_ne hminus]
      rfl
  | descending =>
    rcases h with hnumber | ⟨text, rfl, rfl | hword⟩
    · rw [descends_of_spells hnumber]
      rfl
    · rfl
    · rw [descends, hword, beq_self_eq_true, Bool.or_true]
      rfl

theorem reads_sort : Reads SpellsSort sort? := by
  rintro order value ⟨direction, rfl, hdirection⟩
  rw [sort?, descends_of_spellsDirection hdirection]

theorem reads_select : Reads SpellsSelect select? := by
  rintro names _ rfl
  rw [select?, List.filterMap_map]
  exact congrArg some List.filterMap_some

theorem reads_view : Reads SpellsView view? := by
  rintro name _ ⟨rfl, hname⟩
  rw [view?, if_neg]
  rwa [String.isEmpty_iff]

/-- A filter that stands there spelled is read, and where none stands none is. -/
theorem Reads.bind_eq {α : Type} {spells : α → Value → Prop} {read? : Value → Option α}
    (hread : Reads spells read?) {filter : Option α} {found : Option Value}
    (h : Option.Rel spells filter found) : found.bind read? = filter := by
  cases h with
  | none => rfl
  | some h => exact hread _ _ h

/-- Settings are read from every document that spells them, in whatever order. -/
theorem read_of_spelledBy {filters : Filters} {entries : Document} (h : filters.SpelledBy entries) :
    read entries = filters := by
  rw [read, reads_count.bind_eq h.limit, reads_count.bind_eq h.skip, reads_sort.bind_eq h.sort,
    reads_select.bind_eq h.select, reads_view.bind_eq h.view]

/-- Documents with the same values under the keys of filters carry the same filters. -/
theorem read_congr {raw other : Document}
    (h : ∀ key ∈ reservedKeys, raw.get? key = other.get? key) : read raw = read other := by
  rw [read, read, h "$limit" (by decide), h "$skip" (by decide), h "$sort" (by decide),
    h "$select" (by decide), h "q" (by decide)]

/-! ## Splitting -/

/-- Dropping keys one after another leaves the entries under none of them. -/
theorem foldl_erase {α : Type} (keys : List String) (entries : Entries α) :
    keys.foldl (fun entries key => entries.erase key) entries =
      entries.filter fun entry => entry.1 ∉ keys := by
  induction keys generalizing entries with
  | nil => exact (List.filter_eq_self.2 fun _ _ => decide_eq_true List.not_mem_nil).symm
  | cons key rest ih =>
    rw [List.foldl_cons, ih, Entries.erase, List.filter_filter]
    refine List.filter_congr fun entry _ => ?_
    rw [Bool.eq_iff_iff, Bool.and_eq_true, decide_eq_true_eq, decide_eq_true_eq,
      decide_eq_true_eq, List.mem_cons, not_or, and_comm]

/-- The query is what stands under no reserved key. -/
theorem ofRaw_query (raw : Document) :
    (ofRaw raw).1 = raw.filter fun entry => entry.1 ∉ reservedKeys :=
  foldl_erase reservedKeys raw

/-- A query with filters strewn in is split into the query and the filters. -/
theorem ofRaw_of_interleaved {query entries raw : Document} {filters : Filters}
    (hquery : ∀ entry ∈ query, entry.1 ∉ reservedKeys) (hfilters : filters.SpelledBy entries)
    (hraw : Interleaved query entries raw) : ofRaw raw = (query, filters) := by
  have hrest : (ofRaw raw).1 = query := by
    rw [ofRaw_query]
    refine hraw.filter_eq (fun entry hentry => decide_eq_true (hquery entry hentry)) ?_
    intro entry hentry
    exact decide_eq_false fun hfree => hfree (hfilters.reserved entry hentry)
  have hread : (ofRaw raw).2 = filters := by
    rw [← read_of_spelledBy hfilters]
    refine read_congr fun key hkey => hraw.get?_eq fun entry hentry heq => ?_
    exact hquery entry hentry (heq ▸ hkey)
  exact Prod.ext hrest hread

theorem spelledBy_nil : ({} : Filters).SpelledBy [] :=
  ⟨nofun, .none, .none, .none, .none, .none⟩

/-- What splitting leaves is a query without filters. -/
theorem ofRaw_ofRaw (raw : Document) : ofRaw (ofRaw raw).1 = ((ofRaw raw).1, {}) := by
  refine ofRaw_of_interleaved ?_ spelledBy_nil (.of_nil (ofRaw raw).1)
  intro entry hentry
  rw [ofRaw_query] at hentry
  exact of_decide_eq_true (List.mem_filter.1 hentry).2

end Filters

open Filters in
/-- **A raw query is split without loss.**  Where filters, each in any of its spellings, are strewn
    in among the fields of a query at any places, splitting gives the query with its fields in
    order, and exactly the filters.  Whatever stands under the keys of filters, the fields under
    all other keys are left in order, each filter depends on what stands under its own key alone,
    and splitting what is left changes nothing and finds no filter. -/
theorem raw_query_is_split_without_loss :
    (∀ {query entries raw : Document} {filters : Filters},
      (∀ entry ∈ query, entry.1 ∉ reservedKeys) → filters.SpelledBy entries →
        Interleaved query entries raw → ofRaw raw = (query, filters)) ∧
    ∀ raw : Document,
      (ofRaw raw).1 = raw.filter (fun entry => entry.1 ∉ reservedKeys) ∧
      (∀ other : Document,
        (raw.get? "$limit" = other.get? "$limit" → (ofRaw raw).2.limit = (ofRaw other).2.limit) ∧
        (raw.get? "$skip" = other.get? "$skip" → (ofRaw raw).2.skip = (ofRaw other).2.skip) ∧
        (raw.get? "$sort" = other.get? "$sort" → (ofRaw raw).2.sort = (ofRaw other).2.sort) ∧
        (raw.get? "$select" = other.get? "$select" →
          (ofRaw raw).2.select = (ofRaw other).2.select) ∧
        (raw.get? "q" = other.get? "q" → (ofRaw raw).2.view = (ofRaw other).2.view)) ∧
      ofRaw (ofRaw raw).1 = ((ofRaw raw).1, {}) := by
  refine ⟨ofRaw_of_interleaved, fun raw => ⟨ofRaw_query raw, fun other => ?_, ofRaw_ofRaw raw⟩⟩
  exact ⟨congrArg (Option.bind · count?), congrArg (Option.bind · count?),
    congrArg (Option.bind · sort?), congrArg (Option.bind · select?),
    congrArg (Option.bind · view?)⟩

/-- A query proper. -/
def plainQuery : Document :=
  [("message", .string "test"), ("n", .int32 5)]

/-- All filters, the limit as the double 2 and the page's start as text. -/
def spelledFilters : Document :=
  [("$skip", .string "+03"), ("$limit", .double ⟨0x4000000000000000⟩),
    ("q", .string "reports/by_day"), ("$sort", .document [("createdAt", .string "Desc")]),
    ("$select", .array [.string "message"])]

/-- The filters strewn in among the fields. -/
def strewnQuery : Document :=
  [("$skip", .string "+03"), ("message", .string "test"),
    ("$limit", .double ⟨0x4000000000000000⟩), ("q", .string "reports/by_day"), ("n", .int32 5),
    ("$sort", .document [("createdAt", .string "Desc")]), ("$select", .array [.string "message"])]

/-- They are taken out again. -/
theorem strewn_query_is_split :
    Interleaved plainQuery spelledFilters strewnQuery ∧
    Filters.ofRaw strewnQuery = (plainQuery,
      ⟨some 2, some 3, some ⟨"createdAt", .descending⟩, some ["message"],
        some "reports/by_day"⟩) := by
  have hstrewn : Interleaved plainQuery spelledFilters strewnQuery :=
    .right _ (.left _ (.right _ (.right _ (.left _ (.right _ (.right _ .nil))))))
  have htwo : Value.Spells (.double ⟨0x4000000000000000⟩) 2 := .double (by decide +kernel)
  have hthree : Text.Spells "+03" 3 := ⟨['0', '3'], Or.inr rfl, List.cons_ne_nil _ _, by simp, rfl⟩
  have hdescending : Filters.SpellsDirection .descending (.string "Desc") :=
    Or.inr ⟨_, rfl, Or.inr (by decide)⟩
  refine ⟨hstrewn, raw_query_is_split_without_loss.1 (by decide) ?_ hstrewn⟩
  exact ⟨by decide, .some ⟨by decide, Or.inl htwo⟩, .some ⟨by decide, Or.inr ⟨_, rfl, hthree⟩⟩,
    .some ⟨_, rfl, hdescending⟩, .some rfl, .some ⟨rfl, by decide⟩⟩

end DocStore
