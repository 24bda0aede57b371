/-
  Entries that repeat no key.

  A document keeps its fields in the order in which they were first written, and it names each of
  them once.  `Entries.Distinct` is the second half of this.  All writes keep it: `insert`, `erase`
  and `overlay` lead from distinct entries to distinct entries.

  With it, the order that a write leaves can be told without following the write.
  `overlay_eq_overlaid` is the main statement: writing new entries over old ones, one after another,
  gives the old ones in their order, each with its new value if it has one, and behind them those
  of the new ones that were not there, in their order.
-/
import Mathlib.Data.List.Nodup
import DocStore.Document

namespace DocStore

namespace Entries

variable {α : Type} {entries news : Entries α} {key other : String} {value : α}

/-- No key is repeated. -/
def Distinct (entries : Entries α) : Prop :=
  entries.keys.Nodup

instance (entries : Entries α) : Decidable entries.Distinct :=
  inferInstanceAs (Decidable entries.keys.Nodup)

/-! ## Look-up and keys

  Without repeated keys, a document is its look-ups up to the order of its fields. -/

/-- Nothing is found under a key exactly if no entry has it. -/
theorem get?_eq_none_iff : entries.get? key = none ↔ key ∉ entries.keys := by
  induction entries with
  | nil => exact ⟨fun _ => List.not_mem_nil, fun _ => rfl⟩
  | cons entry rest ih =>
    obtain ⟨k, v⟩ := entry
    rw [get?_cons]
    by_cases hk : k = key
    · rw [if_pos hk]
      exact ⟨(fun h => nomatch h), fun h => absurd (List.mem_cons.2 (Or.inl hk.symm)) h⟩
    · rw [if_neg hk, ih]
      exact ⟨fun h hmem => (List.mem_cons.1 hmem).elim (fun heq => hk heq.symm) h,
        fun h hmem => h (List.mem_cons_of_mem _ hmem)⟩

/-- Distinct entries are a first one and distinct others that do not repeat its key. -/
theorem distinct_cons_iff {k : String} {v : α} {rest : Entries α} :
    Distinct ((k, v) :: rest) ↔ rest.get? k = none ∧ rest.Distinct := by
  rw [get?_eq_none_iff]
  exact List.nodup_cons

/-- Where no key is repeated, every entry is the one that is found under its key. -/
theorem Distinct.mem_iff_get? (h : entries.Distinct) (key : String) (value : α) :
    (key, value) ∈ entries ↔ entries.get? key = some value := by
  refine ⟨?_, mem_of_get?⟩
  induction entries with
  | nil => exact fun hmem => nomatch hmem
  | cons entry rest ih =>
    obtain ⟨k, v⟩ := entry
    obtain ⟨hnew, hrest⟩ := distinct_cons_iff.1 h
    intro hmem
    rw [get?_cons]
    rcases List.mem_cons.1 hmem with heq | hmem
    · cases heq
      rw [if_pos rfl]
    · have hget := ih hrest hmem
      -- The first key is not repeated, so what is found behind it has another one.
      have hne : k ≠ key := by
        rintro rfl
        rw [hnew] at hget
        cases hget
      rw [if_neg hne, hget]

/-- Distinct entries with the same look-ups are the same up to their order. -/
theorem Distinct.perm_of_get? (h : entries.Distinct) (hnews : news.Distinct)
    (hsame : ∀ key, entries.get? key = news.get? key) : entries.Perm news := by
  refine (List.perm_ext_iff_of_nodup (List.Nodup.of_map _ h) (List.Nodup.of_map _ hnews)).2 ?_
  rintro ⟨key, value⟩
  rw [h.mem_iff_get?, hnews.mem_iff_get?, hsame]

/-- Where no key is repeated, the order of the entries has no influence on what is found. -/
theorem Distinct.get?_of_perm (h : entries.Distinct) (hperm : entries.Perm news) (key : String) :
    entries.get? key = news.get? key := by
  have hnews : news.Distinct := (hperm.map Prod.fst).nodup_iff.1 h
  refine Option.ext fun value => ?_
  rw [← h.mem_iff_get?, ← hnews.mem_iff_get?]
  exact hperm.mem_iff

/-- A new entry is put somewhere among the old ones. -/
theorem place_perm (value : α) (hnew : entries.get? key = none) :
    (entries.place key value).Perm ((key, value) :: entries) := by
  induction entries with
  | nil => exact .refl _
  | cons entry rest ih =>
    obtain ⟨k, v⟩ := entry
    rw [get?_cons] at hnew
    by_cases hk : k = key
    · rw [if_pos hk] at hnew
      cases hnew
    · rw [if_neg hk] at hnew
      -- In front of the first greater key, or further behind.
      by_cases hlt : key < k
      · rw [place, if_pos hlt]
      · rw [place, if_neg hlt, if_neg hk]
        exact ((ih hnew).cons _).trans (.swap _ _ _)

/-! ## What writes keep

  A write puts a new key at the end or changes a value in place; neither repeats a key. -/

/-- A new key goes to the end. -/
theorem insert_of_new (value : α) (h : entries.get? key = none) :
    entries.insert key value = entries ++ [(key, value)] := by
  induction entries with
  | nil => rfl
  | cons entry rest ih =>
    obtain ⟨k, v⟩ := entry
    rw [get?_cons] at h
    by_cases hk : k = key
    · rw [if_pos hk] at h
      cases h
    · rw [if_neg hk] at h
      rw [insert, if_neg hk, ih h, List.cons_append]

/-- A key that is there keeps its place, and so do all others. -/
theorem keys_insert_of_held (value : α) (h : entries.get? key ≠ none) :
    (entries.insert key value).keys = entries.keys := by
  induction entries with
  | nil => exact absurd rfl h
  | cons entry rest ih =>
    obtain ⟨k, v⟩ := entry
    rw [get?_cons] at h
    by_cases hk : k = key
    · rw [insert, if_pos hk, ← hk]
      rfl
    · rw [if_neg hk] at h
      rw [insert, if_neg hk]
      exact congrArg (k :: ·) (ih h)

/-- A write repeats no key. -/
theorem Distinct.insert (h : entries.Distinct) (key : String) (value : α) :
    (entries.insert key value).Distinct := by
  -- Either the key is new, at the end, or the keys stay as they are.
  by_cases hheld : entries.get? key = none
  · rw [insert_of_new value hheld, Distinct, keys, List.map_append]
    refine List.nodup_append.2 ⟨h, List.nodup_singleton key, ?_⟩
    rintro k hmem l hl rfl
    rw [List.map_singleton, List.mem_singleton] at hl
    rw [hl] at hmem
    exact get?_eq_none_iff.1 hheld hmem
  · rw [Distinct, keys_insert_of_held value hheld]
    exact h

/-- Nor do any number of writes. -/
theorem Distinct.overlay (h : entries.Distinct) (news : Entries α) :
    (entries.overlay news).Distinct := by
  induction news generalizing entries with
  | nil => exact h
  | cons entry rest ih => exact ih (h.insert entry.1 entry.2)

/-- What is left of distinct entries is distinct. -/
theorem Distinct.filter (h : entries.Distinct) (p : String × α → Bool) :
    Distinct (entries.filter p) :=
  h.sublist (List.Sublist.map _ List.filter_sublist)

theorem Distinct.nil : Distinct ([] : Entries α) := List.nodup_nil

/-- However often a list repeats a key, it makes distinct entries. -/
theorem distinct_ofList (entries : List (String × α)) : (ofList entries).Distinct :=
  Distinct.nil.overlay entries

/-! ## What a filter leaves -/

/-- A filter that lets a key pass with every value does not hide it. -/
theorem get?_filter_of_true {p : String × α → Bool} (h : ∀ value, p (key, value) = true) :
    get? (entries.filter p) key = entries.get? key := by
  induction entries with
  | nil => rfl
  | cons entry rest ih =>
    obtain ⟨k, v⟩ := entry
    by_cases hk : k = key
    · rw [hk, List.filter_cons_of_pos (h v), get?_cons, get?_cons, if_pos rfl, if_pos rfl]
    · rw [List.filter_cons, get?_cons, if_neg hk]
      split
      · rw [get?_cons, if_neg hk, ih]
      · exact ih

/-- A filter that lets it pass with no value does. -/
theorem get?_filter_of_false {p : String × α → Bool} (h : ∀ value, p (key, value) = false) :
    get? (entries.filter p) key = none := by
  rw [get?_eq_none_iff]
  intro hmem
  obtain ⟨⟨k, v⟩, hentry, rfl⟩ := List.mem_map.1 hmem
  have htrue := (List.mem_filter.1 hentry).2
  rw [h v] at htrue
  cases htrue

theorem erase_comm (entries : Entries α) (key other : String) :
    (entries.erase key).erase other = (entries.erase other).erase key :=
  List.filter_comm ..

/-! ## The order that writes leave

  By induction on what is written.  Each write is one of two kinds, and `overlaid` has to be shown
  to agree with it in both. -/

/-- An entry whose key is not written to stays in front. -/
theorem overlay_cons_of_none {k : String} {v : α} (rest : Entries α) (h : news.get? k = none) :
    overlay ((k, v) :: rest) news = (k, v) :: overlay rest news := by
  induction news generalizing rest with
  | nil => rfl
  | cons entry more ih =>
    obtain ⟨l, w⟩ := entry
    rw [get?_cons] at h
    by_cases hl : l = k
    · rw [if_pos hl] at h
      cases h
    · rw [if_neg hl] at h
      rw [overlay_cons, insert, if_neg (Ne.symm hl), ih _ h, overlay_cons]

/-- New entries stand behind the old ones. -/
theorem overlay_of_new (hnews : news.Distinct) (h : ∀ key ∈ news.keys, entries.get? key = none) :
    entries.overlay news = entries ++ news := by
  induction news generalizing entries with
  | nil => exact (List.append_nil entries).symm
  | cons entry rest ih =>
    obtain ⟨k, v⟩ := entry
    obtain ⟨hnew, hrest⟩ := distinct_cons_iff.1 hnews
    -- The first of them goes to the end and is no hindrance to the rest.
    have hk : entries.get? k = none := h k List.mem_cons_self
    rw [overlay_cons, ih hrest, insert_of_new v hk, List.append_assoc, List.singleton_append]
    intro key hmem
    have hne : k ≠ key := by
      rintro rfl
      exact get?_eq_none_iff.1 hnew hmem
    rw [get?_insert_of_ne _ _ hne]
    exact h key (List.mem_cons_of_mem _ hmem)

/-- Distinct entries are their own normal form. -/
theorem ofList_of_distinct (h : entries.Distinct) : ofList entries = entries :=
  overlay_of_new h fun _ _ => rfl

theorem ofList_ofList (entries : List (String × α)) : ofList (ofList entries) = ofList entries :=
  ofList_of_distinct (distinct_ofList entries)

/-- Old entries with new values where there are some, and behind them those of the new entries that
    were not there. -/
def overlaid (entries news : Entries α) : Entries α :=
  (entries.map fun entry => (entry.1, (news.get? entry.1).getD entry.2)) ++
    news.filter fun entry => !entries.contains entry.1

/-- Of distinct entries, a write in place changes the one with its key. -/
theorem Distinct.insert_of_held (h : entries.Distinct) (hheld : entries.get? key ≠ none)
    (value : α) : entries.insert key value =
      entries.map fun entry => if entry.1 = key then (key, value) else entry := by
  induction entries with
  | nil => exact absurd rfl hheld
  | cons entry rest ih =>
    obtain ⟨k, v⟩ := entry
    obtain ⟨hnew, hrest⟩ := distinct_cons_iff.1 h
    rw [get?_cons] at hheld
    by_cases hk : k = key
    · -- The key is not repeated, so the rest stays as it is.
      have hsame :
          rest.map (fun entry => if entry.1 = key then (key, value) else entry) = rest := by
        refine (List.map_congr_left fun entry hmem => if_neg ?_).trans (List.map_id' rest)
        rintro rfl
        exact get?_eq_none_iff.1 hnew (hk ▸ List.mem_map.2 ⟨entry, hmem, rfl⟩)
      rw [Entries.insert, if_pos hk, List.map_cons, if_pos hk, hsame]
    · rw [if_neg hk] at hheld
      rw [Entries.insert, if_neg hk, ih hrest hheld, List.map_cons, if_neg hk]

theorem contains_eq_false_iff : entries.contains key = false ↔ entries.get? key = none := by
  rw [contains, Option.isSome_eq_false_iff, Option.isNone_iff_eq_none]

/-- Which keys are there is a matter of the keys alone. -/
theorem contains_eq_of_keys {others : Entries α} (h : entries.keys = others.keys) (key : String) :
    entries.contains key = others.contains key := by
  rw [Bool.eq_iff_iff, ← not_iff_not, Bool.not_eq_true, Bool.not_eq_true, contains_eq_false_iff,
    contains_eq_false_iff, get?_eq_none_iff, get?_eq_none_iff, h]

/-- A new entry, written first, is the last of the old ones when the rest is written. -/
theorem overlaid_insert_of_new {rest : Entries α} (hnew : rest.get? key = none)
    (hheld : entries.get? key = none) (value : α) :
    (entries.insert key value).overlaid rest = entries.overlaid ((key, value) :: rest) := by
  have hold : (entries.map fun entry => (entry.1, (rest.get? entry.1).getD entry.2)) =
      entries.map fun entry => (entry.1, (get? ((key, value) :: rest) entry.1).getD entry.2) := by
    refine List.map_congr_left fun entry hmem => ?_
    rw [get?_cons, if_neg]
    rintro rfl
    exact get?_eq_none_iff.1 hheld (List.mem_map.2 ⟨entry, hmem, rfl⟩)
  have hothers : (rest.filter fun entry => !(entries.insert key value).contains entry.1) =
      rest.filter fun entry => !entries.contains entry.1 := by
    refine List.filter_congr fun entry hmem => ?_
    have hne : key ≠ entry.1 := by
      rintro rfl
      exact get?_eq_none_iff.1 hnew (List.mem_map.2 ⟨entry, hmem, rfl⟩)
    rw [contains, get?_insert_of_ne _ _ hne, contains]
  -- On the right, the filter keeps the new entry, in front of the others that it keeps.
  have hfirst : (!entries.contains (key, value).1) = true := by
    rw [contains_eq_false_iff.2 hheld]
    rfl
  rw [overlaid, overlaid, hothers, insert_of_new value hheld, List.map_append, List.map_singleton,
    hnew, hold, List.filter_cons, if_pos hfirst, List.append_assoc]
  rfl

/-- An old entry, written first, gets its value in place, and the rest finds the same keys. -/
theorem Distinct.overlaid_insert_of_held {rest : Entries α} (h : entries.Distinct)
    (hnew : rest.get? key = none) (hheld : entries.get? key ≠ none) (value : α) :
    (entries.insert key value).overlaid rest = entries.overlaid ((key, value) :: rest) := by
  have hold : ((entries.insert key value).map fun entry =>
        (entry.1, (rest.get? entry.1).getD entry.2)) =
      entries.map fun entry => (entry.1, (get? ((key, value) :: rest) entry.1).getD entry.2) := by
    rw [h.insert_of_held hheld, List.map_map]
    refine List.map_congr_left fun entry _ => ?_
    obtain ⟨k, v⟩ := entry
    dsimp only [Function.comp_apply]
    by_cases hk : k = key
    · rw [if_pos hk, get?_cons, if_pos hk.symm, hnew, hk]
      rfl
    · rw [if_neg hk, get?_cons, if_neg (Ne.symm hk)]
  have hothers : (rest.filter fun entry => !(entries.insert key value).contains entry.1) =
      rest.filter fun entry => !entries.contains entry.1 :=
    List.filter_congr fun entry _ => by rw [contains_eq_of_keys (keys_insert_of_held value hheld)]
  -- On the right, the filter drops the entry, since its key is an old one.
  have hfirst : ¬ (!entries.contains (key, value).1) = true := by
    rw [Bool.not_eq_true', contains_eq_false_iff]
    exact hheld
  rw [overlaid, overlaid, hothers, hold, List.filter_cons, if_neg hfirst]

/-- **Writing new entries over old ones** leaves the old ones in their order with their new values,
    and behind them the others of the new ones in theirs. -/
theorem overlay_eq_overlaid (h : entries.Distinct) (hnews : news.Distinct) :
    entries.overlay news = entries.overlaid news := by
  -- Induction on the new entries: each is written to what those before it have left.
  induction news generalizing entries with
  | nil =>
    rw [overlaid, List.filter_nil, List.append_nil]
    exact (List.map_id' entries).symm
  | cons entry rest ih =>
    obtain ⟨k, v⟩ := entry
    obtain ⟨hnew, hrest⟩ := distinct_cons_iff.1 hnews
    rw [overlay_cons, ih (h.insert k v) hrest]
    by_cases hheld : entries.get? k = none
    · exact overlaid_insert_of_new hnew hheld v
    · exact h.overlaid_insert_of_held hnew hheld v

end Entries

end DocStore
