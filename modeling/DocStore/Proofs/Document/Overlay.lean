/-
  Writing over what was written over.

  `overlay` writes entries one after another, in place where their key is there and behind all
  others where it is not.  Two such rows of writes come to one: `overlay_overlay` says that writing
  `news` and then `more` leaves the entries, in the order, that writing `news.overlay more` leaves.
  The crux is a single entry behind a row (`overlay_insert`).  Under a key of the row it meets an
  entry that the row has put there, and then it does not matter how far behind it comes
  (`overlay_insert_of_held`); under a new key it is the last one in both cases.

  Rows with different keys may change places as far as look-ups go, though not as far as the order
  goes.  This is said key by key: entries whose key passes a test are written over as if there were
  no others (`filter_overlay`), and of two rows only one writes under a given key.
-/
import DocStore.Proofs.Document.Distinct

namespace DocStore

namespace Entries

variable {α : Type} {entries news more : Entries α} {key other : String} {value : α}

/-! ## Two rows of writes

  Writes can be moved past one another as long as they go to different keys and the order of the
  entries does not depend on it. -/

/-- Of two writes under one key the later one counts. -/
theorem insert_insert_self (entries : Entries α) (key : String) (value later : α) :
    (entries.insert key value).insert key later = entries.insert key later := by
  induction entries with
  | nil => exact if_pos rfl
  | cons entry rest ih =>
    obtain ⟨k, v⟩ := entry
    by_cases hk : k = key
    · rw [insert, if_pos hk, insert, if_pos rfl, insert, if_pos hk]
    · rw [insert, if_neg hk, insert, if_neg hk, ih, insert, if_neg hk]

/-- A write in place may be made earlier or later. -/
theorem insert_comm_of_held (h : entries.get? key ≠ none) (hne : other ≠ key) (value new : α) :
    (entries.insert other new).insert key value = (entries.insert key value).insert other new := by
  induction entries with
  | nil => exact absurd rfl h
  | cons entry rest ih =>
    obtain ⟨k, v⟩ := entry
    rw [get?_cons] at h
    -- The key is held, so its value is written where it stands and the order of the fields is the
    -- same on both sides.
    by_cases hk : k = key
    · subst hk
      rw [insert, if_neg (Ne.symm hne), insert, if_pos rfl, insert, if_pos rfl, insert,
        if_neg (Ne.symm hne)]
    · rw [if_neg hk] at h
      by_cases ho : k = other
      · subst ho
        rw [insert, if_pos rfl, insert, if_neg hk, insert, if_neg hk, insert, if_pos rfl]
      · rw [insert, if_neg ho, insert, if_neg hk, ih h, insert, if_neg hk, insert, if_neg ho]

/-- So a write in place may be made in front of a row that leaves its key alone, or behind it. -/
theorem overlay_insert_of_held (h : entries.get? key ≠ none) (hnews : news.get? key = none)
    (value : α) :
    (entries.overlay news).insert key value = (entries.insert key value).overlay news := by
  induction news generalizing entries with
  | nil => rfl
  | cons entry rest ih =>
    obtain ⟨k, v⟩ := entry
    rw [get?_cons] at hnews
    by_cases hk : k = key
    · rw [if_pos hk] at hnews
      cases hnews
    · rw [if_neg hk] at hnews
      have hheld : (entries.insert k v).get? key ≠ none := by
        rwa [get?_insert_of_ne _ _ hk]
      rw [overlay_cons, ih hheld hnews, insert_comm_of_held h hk, overlay_cons]

/-- A write behind a row is a write into the row. -/
theorem overlay_insert (hnews : news.Distinct) (entries : Entries α) (key : String) (value : α) :
    (entries.overlay news).insert key value = entries.overlay (news.insert key value) := by
  induction news generalizing entries with
  | nil => rfl
  | cons entry rest ih =>
    obtain ⟨k, v⟩ := entry
    obtain ⟨hnew, hrest⟩ := distinct_cons_iff.1 hnews
    by_cases hk : k = key
    · -- The row itself has put an entry under the key, with which the write changes places.
      subst hk
      have hheld : (entries.insert k v).get? k ≠ none := by
        rw [get?_insert_self]
        exact Option.some_ne_none v
      rw [insert, if_pos rfl, overlay_cons, overlay_insert_of_held hheld hnew, insert_insert_self,
        overlay_cons]
    · rw [insert, if_neg hk, overlay_cons, ih hrest, overlay_cons]

/-- **Two rows of writes are one**, the second written over the first. -/
theorem overlay_overlay (hnews : news.Distinct) (entries more : Entries α) :
    (entries.overlay news).overlay more = entries.overlay (news.overlay more) := by
  induction more generalizing news with
  | nil => rfl
  | cons entry rest ih =>
    obtain ⟨k, v⟩ := entry
    rw [overlay_cons, overlay_insert hnews, ih (hnews.insert k v), overlay_cons]

/-- Entries written over themselves stay as they are. -/
theorem Distinct.overlay_self (h : entries.Distinct) : entries.overlay entries = entries := by
  have hold : (entries.map fun entry => (entry.1, (entries.get? entry.1).getD entry.2)) =
      entries := by
    refine (List.map_congr_left fun entry hmem => ?_).trans (List.map_id' entries)
    obtain ⟨k, v⟩ := entry
    rw [(h.mem_iff_get? k v).1 hmem, Option.getD_some]
  have hothers : (entries.filter fun entry => !entries.contains entry.1) = [] := by
    refine List.filter_eq_nil_iff.2 fun entry hmem => ?_
    rw [contains, (h.mem_iff_get? entry.1 entry.2).1 hmem]
    exact Bool.false_ne_true
  rw [overlay_eq_overlaid h h, overlaid, hold, hothers, List.append_nil]

/-! ## Key by key

  Where it does depend on it, the entries under any one key are still the same. -/

/-- The entries whose key passes a test. -/
def withKeys (keep : String → Bool) (entries : Entries α) : Entries α :=
  entries.filter fun entry => keep entry.1

variable {keep : String → Bool}

theorem withKeys_cons (keep : String → Bool) (k : String) (v : α) (rest : Entries α) :
    withKeys keep ((k, v) :: rest) =
      if keep k then (k, v) :: withKeys keep rest else withKeys keep rest :=
  List.filter_cons ..

/-- A write shows if its key is kept. -/
theorem withKeys_insert (keep : String → Bool) (entries : Entries α) (key : String) (value : α) :
    (entries.insert key value).withKeys keep =
      if keep key then (entries.withKeys keep).insert key value else entries.withKeys keep := by
  induction entries with
  | nil => exact withKeys_cons keep key value []
  | cons entry rest ih =>
    obtain ⟨k, v⟩ := entry
    by_cases hk : k = key
    · subst hk
      rw [insert, if_pos rfl, withKeys_cons, withKeys_cons]
      split
      · rw [insert, if_pos rfl]
      · rfl
    · rw [insert, if_neg hk, withKeys_cons, withKeys_cons, ih]
      split
      · split
        · rw [insert, if_neg hk]
        · rfl
      · rfl

/-- Entries chosen by their keys are written over as if there were no others. -/
theorem withKeys_overlay (keep : String → Bool) (entries news : Entries α) :
    (entries.overlay news).withKeys keep =
      (entries.withKeys keep).overlay (news.withKeys keep) := by
  induction news generalizing entries with
  | nil => rfl
  | cons entry rest ih =>
    obtain ⟨k, v⟩ := entry
    rw [overlay_cons, ih, withKeys_insert, withKeys_cons]
    split
    · rw [overlay_cons]
    · rfl

theorem get?_withKeys (keep : String → Bool) (entries : Entries α) (key : String) :
    (entries.withKeys keep).get? key = if keep key then entries.get? key else none := by
  split
  · rename_i hkeep
    exact get?_filter_of_true fun _ => hkeep
  · rename_i hkeep
    exact get?_filter_of_false fun _ => Bool.eq_false_iff.2 hkeep

/-- What is found under a key is found among the entries under that key. -/
theorem get?_withKeys_self (entries : Entries α) (key : String) :
    (entries.withKeys (· == key)).get? key = entries.get? key := by
  rw [get?_withKeys, if_pos (beq_self_eq_true key)]

theorem withKeys_of_none (h : entries.get? key = none) : entries.withKeys (· == key) = [] := by
  refine List.filter_eq_nil_iff.2 fun entry hmem hsame => ?_
  rw [get?_eq_none_iff] at h
  exact h (beq_iff_eq.1 hsame ▸ List.mem_map.2 ⟨entry, hmem, rfl⟩)

/-- Under every key both have the same entries. -/
def SameUnderKeys (entries others : Entries α) : Prop :=
  ∀ key, entries.withKeys (· == key) = others.withKeys (· == key)

/-- The first entry under a key is the one that is found. -/
theorem SameUnderKeys.get?_eq {others : Entries α} (h : entries.SameUnderKeys others)
    (key : String) : entries.get? key = others.get? key := by
  rw [← get?_withKeys_self entries, h, get?_withKeys_self]

/-- In normal form, the last entry under every key counts, and it is the same. -/
theorem SameUnderKeys.ofList {others : Entries α} (h : entries.SameUnderKeys others) :
    (Entries.ofList entries).SameUnderKeys (Entries.ofList others) := by
  intro key
  rw [Entries.ofList, Entries.ofList, withKeys_overlay, withKeys_overlay, h]

/-- What is not written to is found as before, wherever it is repeated. -/
theorem get?_ofList_overlay_of_none (h : news.get? key = none) (entries : Entries α) :
    (ofList (entries.overlay news)).get? key = (ofList entries).get? key := by
  have hsame : (ofList (entries.overlay news)).withKeys (· == key) =
      (ofList entries).withKeys (· == key) := by
    rw [ofList, ofList, withKeys_overlay, withKeys_overlay, withKeys_overlay, withKeys_of_none h]
    rfl
  rw [← get?_withKeys_self, hsame, get?_withKeys_self]

/-- **Rows of writes with different keys** may change places, as far as the entries under any one
    key go. -/
theorem overlay_comm_underKeys (h : ∀ key, news.get? key = none ∨ more.get? key = none)
    (entries : Entries α) :
    ((entries.overlay news).overlay more).SameUnderKeys
      ((entries.overlay more).overlay news) := by
  intro key
  rw [withKeys_overlay, withKeys_overlay, withKeys_overlay, withKeys_overlay]
  rcases h key with hnone | hnone
  · rw [withKeys_of_none hnone]
    rfl
  · rw [withKeys_of_none hnone]
    rfl

end Entries

end DocStore
