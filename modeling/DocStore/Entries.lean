/-
  Lists of keyed entries, the shape shared by documents, JSON objects and the tables of a store.

  Two disciplines live on the same lists.  A *document* keeps its fields in the order in which
  they were first written: `insert` replaces a value in place or appends a new entry, `erase`
  keeps the order of what stays.  An *object* or a *table* keeps its entries in key order: `place`
  puts an entry where its key belongs.  Keys are compared by code point, which for well-formed
  text is the order of their UTF-8 bytes.

  What the operations do is said through look-up: `get?_insert_self`, `get?_insert_of_ne`,
  `get?_erase_self`, `get?_erase_of_ne`, `get?_place_self` and `get?_place_of_ne` describe each
  write by what a later `get?` sees, so nobody has to unfold them again.
-/

namespace DocStore

/-- A list of entries, each a key with what it holds. -/
abbrev Entries (α : Type) := List (String × α)

namespace Entries

variable {α : Type}

/-- What the first entry under `key` holds. -/
def get? : Entries α → String → Option α
  | [], _ => none
  | (k, v) :: rest, key => if k = key then some v else get? rest key

/-- Whether some entry stands under `key`. -/
def contains (entries : Entries α) (key : String) : Bool :=
  (entries.get? key).isSome

/-- The keys, in the order of the entries. -/
def keys (entries : Entries α) : List String :=
  entries.map Prod.fst

/-- Writes a value under `key`: in place if the key is there, else behind the last entry. -/
def insert : Entries α → String → α → Entries α
  | [], key, value => [(key, value)]
  | (k, v) :: rest, key, value =>
      if k = key then (key, value) :: rest else (k, v) :: insert rest key value

/-- Drops whatever stands under `key` and keeps the order of the rest. -/
def erase (entries : Entries α) (key : String) : Entries α :=
  entries.filter fun entry => entry.1 ≠ key

/-- Writes the entries of `news` over `entries`, one after another. -/
def overlay (entries news : Entries α) : Entries α :=
  news.foldl (fun acc entry => acc.insert entry.1 entry.2) entries

/-- The entries in which a repeated key keeps its first position and takes its last value. -/
def ofList (entries : List (String × α)) : Entries α :=
  overlay [] entries

/-- Puts a value under `key` into entries that stand in key order: in place if the key is there,
    else in front of the first greater key. -/
def place : Entries α → String → α → Entries α
  | [], key, value => [(key, value)]
  | (k, v) :: rest, key, value =>
      if key < k then (key, value) :: (k, v) :: rest
      else if k = key then (key, value) :: rest
      else (k, v) :: place rest key value

/-- The entries in key order, a repeated key taking its last value. -/
def sorted (entries : List (String × α)) : Entries α :=
  entries.foldl (fun acc entry => acc.place entry.1 entry.2) []

/-- Entries stand in key order when every key is less than all later ones; no key repeats then. -/
def Ordered (entries : Entries α) : Prop :=
  entries.Pairwise fun a b => a.1 < b.1

/-! ## What a later look-up sees -/

@[simp] theorem get?_nil (key : String) : get? ([] : Entries α) key = none := rfl

/-- Looking a key up passes over the entries with other keys; the first one with this key counts. -/
theorem get?_cons (k : String) (v : α) (rest : Entries α) (key : String) :
    get? ((k, v) :: rest) key = if k = key then some v else rest.get? key := rfl

/-- An insertion is found under its key, whether it took the place of a value or came behind all
    others. -/
@[simp] theorem get?_insert_self (entries : Entries α) (key : String) (value : α) :
    (entries.insert key value).get? key = some value := by
  induction entries with
  | nil => simp [insert, get?]
  | cons entry rest ih =>
    obtain ⟨k, v⟩ := entry
    by_cases h : k = key <;> simp [insert, get?, h, ih]

/-- It touches no other key. -/
theorem get?_insert_of_ne (entries : Entries α) {key other : String} (value : α)
    (h : key ≠ other) : (entries.insert key value).get? other = entries.get? other := by
  induction entries with
  | nil => simp [insert, get?, h]
  | cons entry rest ih =>
    obtain ⟨k, v⟩ := entry
    by_cases hk : k = key
    · subst hk; simp [insert, get?, h]
    · simp [insert, get?, hk, ih]

/-- Erasing is told entry by entry. -/
theorem erase_cons (k : String) (v : α) (rest : Entries α) (key : String) :
    erase ((k, v) :: rest) key = if k = key then erase rest key else (k, v) :: erase rest key := by
  by_cases h : k = key <;> simp [erase, h]

/-- Every entry with the key goes, not only the first one. -/
@[simp] theorem get?_erase_self (entries : Entries α) (key : String) :
    (entries.erase key).get? key = none := by
  induction entries with
  | nil => rfl
  | cons entry rest ih =>
    obtain ⟨k, v⟩ := entry
    by_cases h : k = key
    · rw [erase_cons, if_pos h, ih]
    · rw [erase_cons, if_neg h, get?_cons, if_neg h, ih]

/-- Under the other keys everything is found as before. -/
theorem get?_erase_of_ne (entries : Entries α) {key other : String} (h : key ≠ other) :
    (entries.erase key).get? other = entries.get? other := by
  induction entries with
  | nil => rfl
  | cons entry rest ih =>
    obtain ⟨k, v⟩ := entry
    by_cases hk : k = key
    · rw [erase_cons, if_pos hk, ih, get?_cons, if_neg (hk ▸ h)]
    · rw [erase_cons, if_neg hk, get?_cons, get?_cons, ih]

/-- Entries are written over others one by one, from the front. -/
theorem overlay_cons (entries : Entries α) (key : String) (value : α) (news : Entries α) :
    entries.overlay ((key, value) :: news) = (entries.insert key value).overlay news := rfl

/-- What is not among the new entries is seen as before. -/
theorem get?_overlay_of_none {news : Entries α} {key : String} (h : news.get? key = none) :
    ∀ entries : Entries α, (entries.overlay news).get? key = entries.get? key := by
  induction news with
  | nil => intro entries; rfl
  | cons entry rest ih =>
    obtain ⟨k, v⟩ := entry
    intro entries
    rw [get?_cons] at h
    by_cases hk : k = key
    · rw [if_pos hk] at h
      cases h
    · rw [if_neg hk] at h
      rw [overlay_cons, ih h, get?_insert_of_ne _ _ hk]

/-- Erasing brings nothing back. -/
theorem get?_erase_eq_none {entries : Entries α} {key : String} (h : entries.get? key = none)
    (erased : String) : (entries.erase erased).get? key = none := by
  by_cases hk : erased = key
  · subst hk; exact get?_erase_self entries erased
  · rw [get?_erase_of_ne entries hk, h]

/-- Nothing is dropped where nothing stands. -/
theorem erase_of_get?_eq_none {entries : Entries α} {key : String} (h : entries.get? key = none) :
    entries.erase key = entries := by
  induction entries with
  | nil => rfl
  | cons entry rest ih =>
    obtain ⟨k, v⟩ := entry
    rw [get?_cons] at h
    by_cases hk : k = key
    · rw [if_pos hk] at h
      cases h
    · rw [if_neg hk] at h
      rw [erase_cons, if_neg hk, ih h]

/-- What was placed in the order of the keys is found. -/
@[simp] theorem get?_place_self (entries : Entries α) (key : String) (value : α) :
    (entries.place key value).get? key = some value := by
  induction entries with
  | nil => simp [place, get?]
  | cons entry rest ih =>
    obtain ⟨k, v⟩ := entry
    by_cases hlt : key < k
    · rw [place, if_pos hlt, get?_cons, if_pos rfl]
    · by_cases hk : k = key
      · rw [place, if_neg hlt, if_pos hk, get?_cons, if_pos rfl]
      · rw [place, if_neg hlt, if_neg hk, get?_cons, if_neg hk, ih]

/-- Placing touches no other key. -/
theorem get?_place_of_ne (entries : Entries α) {key other : String} (value : α)
    (h : key ≠ other) : (entries.place key value).get? other = entries.get? other := by
  induction entries with
  | nil => simp [place, get?, h]
  | cons entry rest ih =>
    obtain ⟨k, v⟩ := entry
    by_cases hlt : key < k
    · rw [place, if_pos hlt, get?_cons, if_neg h]
    · by_cases hk : k = key
      · rw [place, if_neg hlt, if_pos hk, get?_cons, if_neg h, get?_cons, if_neg (hk ▸ h)]
      · rw [place, if_neg hlt, if_neg hk, get?_cons, get?_cons, ih]

/-- What is picked from the entries does not change by an entry from which nothing is picked. -/
theorem filterMap_place {β : Type} {f : String × α → Option β} {entries : Entries α} {key : String}
    {value : α} (hnew : entries.get? key = none) (hf : f (key, value) = none) :
    (entries.place key value).filterMap f = entries.filterMap f := by
  induction entries with
  | nil => rw [place, List.filterMap_cons, hf]
  | cons entry rest ih =>
    obtain ⟨k, v⟩ := entry
    rw [get?_cons] at hnew
    by_cases hk : k = key
    · rw [if_pos hk] at hnew
      cases hnew
    · rw [if_neg hk] at hnew
      by_cases hlt : key < k
      · rw [place, if_pos hlt, List.filterMap_cons, hf]
      · rw [place, if_neg hlt, if_neg hk, List.filterMap_cons, List.filterMap_cons, ih hnew]

/-! ## Key order -/

/-- Nothing but the new entry comes in by placing. -/
theorem mem_place {entries : Entries α} {key : String} {value : α} {entry : String × α}
    (h : entry ∈ entries.place key value) : entry = (key, value) ∨ entry ∈ entries := by
  induction entries with
  | nil => exact Or.inl (List.mem_singleton.1 h)
  | cons head rest ih =>
    obtain ⟨k, v⟩ := head
    by_cases hlt : key < k
    · rw [place, if_pos hlt] at h
      exact List.mem_cons.1 h
    · by_cases hk : k = key
      · rw [place, if_neg hlt, if_pos hk] at h
        exact (List.mem_cons.1 h).imp id (List.mem_cons_of_mem _)
      · rw [place, if_neg hlt, if_neg hk] at h
        rcases List.mem_cons.1 h with rfl | h
        · exact Or.inr List.mem_cons_self
        · exact (ih h).imp id (List.mem_cons_of_mem _)

theorem Ordered.nil : Ordered ([] : Entries α) := List.Pairwise.nil

/-- Placing keeps the order of the keys, which is what it is for. -/
theorem Ordered.place {entries : Entries α} (h : entries.Ordered) (key : String) (value : α) :
    (entries.place key value).Ordered := by
  induction entries with
  | nil => simp [Entries.place, Ordered]
  | cons head rest ih =>
    obtain ⟨k, v⟩ := head
    obtain ⟨hhead, hrest⟩ := List.pairwise_cons.1 h
    by_cases hlt : key < k
    · simp only [Entries.place, hlt, if_true]
      refine List.pairwise_cons.2 ⟨?_, h⟩
      intro entry hentry
      rcases List.mem_cons.1 hentry with rfl | hmem
      · exact hlt
      · exact String.lt_trans hlt (hhead entry hmem)
    · by_cases hk : k = key
      · subst hk
        simp only [Entries.place, hlt, if_true, if_false]
        exact List.pairwise_cons.2 ⟨hhead, hrest⟩
      · simp only [Entries.place, hlt, hk, if_false]
        refine List.pairwise_cons.2 ⟨?_, ih hrest⟩
        intro entry hentry
        rcases mem_place hentry with rfl | hmem
        · exact Decidable.byContradiction fun hge =>
            hk (String.le_antisymm (String.not_lt.1 hlt) (String.not_lt.1 hge))
        · exact hhead entry hmem

theorem Ordered.erase {entries : Entries α} (h : entries.Ordered) (key : String) :
    (entries.erase key).Ordered :=
  List.Pairwise.filter _ h

/-- What is found is one of the entries. -/
theorem mem_of_get? {entries : Entries α} {key : String} {value : α}
    (h : entries.get? key = some value) : (key, value) ∈ entries := by
  induction entries with
  | nil => cases h
  | cons head rest ih =>
    obtain ⟨k, v⟩ := head
    rw [get?_cons] at h
    by_cases hk : k = key
    · rw [if_pos hk] at h
      cases h
      rw [hk]
      exact List.mem_cons_self
    · rw [if_neg hk] at h
      exact List.mem_cons_of_mem _ (ih h)

/-- A key that is less than all keys of the entries is none of them. -/
theorem get?_eq_none_of_lt {entries : Entries α} {key : String}
    (h : ∀ entry ∈ entries, key < entry.1) : entries.get? key = none := by
  cases hget : entries.get? key with
  | none => rfl
  | some value => exact absurd (h _ (mem_of_get? hget)) (String.lt_irrefl key)

/-- Under keys that are all different, which those in order are, every entry is found. -/
theorem Ordered.get?_of_mem {entries : Entries α} (h : entries.Ordered) {key : String} {value : α}
    (mem : (key, value) ∈ entries) : entries.get? key = some value := by
  induction entries with
  | nil => cases mem
  | cons head rest ih =>
    obtain ⟨k, v⟩ := head
    obtain ⟨hhead, hrest⟩ := List.pairwise_cons.1 h
    rw [get?_cons]
    rcases List.mem_cons.1 mem with same | mem
    · cases same
      rw [if_pos rfl]
    · have hlt : k < key := hhead _ mem
      have hne : k ≠ key := fun heq => String.lt_irrefl key (heq ▸ hlt)
      rw [if_neg hne]
      exact ih hrest mem

/-- In entries that stand in key order, the first key of a look-up that succeeds is not passed by
    the first key of other entries with the same look-ups. -/
theorem Ordered.head_not_lt {k l : String} {v w : α} {rest others : Entries α}
    (h : Ordered ((l, w) :: others))
    (same : ∀ key, get? ((k, v) :: rest) key = get? ((l, w) :: others) key) : ¬ k < l := by
  intro hlt
  have hnone : get? ((l, w) :: others) k = none := by
    refine get?_eq_none_of_lt fun entry mem => ?_
    rcases List.mem_cons.1 mem with rfl | mem
    · exact hlt
    · exact String.lt_trans hlt ((List.pairwise_cons.1 h).1 entry mem)
  have hsome := same k
  rw [hnone, get?_cons, if_pos rfl] at hsome
  cases hsome

/-- Entries in key order are determined by their look-ups. -/
theorem Ordered.ext : ∀ {entries others : Entries α}, entries.Ordered → others.Ordered →
    (∀ key, entries.get? key = others.get? key) → entries = others
  | [], [], _, _, _ => rfl
  | [], (l, w) :: _, _, _, same => by
    have h := same l
    rw [get?_cons, if_pos rfl] at h
    cases h
  | (k, v) :: _, [], _, _, same => by
    have h := same k
    rw [get?_cons, if_pos rfl] at h
    cases h
  | (k, v) :: rest, (l, w) :: others, hentries, hothers, same => by
    have heq : k = l := String.le_antisymm
      (String.not_lt.1 (hentries.head_not_lt fun key => (same key).symm))
      (String.not_lt.1 (hothers.head_not_lt same))
    subst heq
    have hvalue : v = w := by
      have h := same k
      rw [get?_cons, get?_cons, if_pos rfl, if_pos rfl] at h
      exact Option.some.inj h
    subst hvalue
    obtain ⟨hhead, hrest⟩ := List.pairwise_cons.1 hentries
    obtain ⟨hhead', hrest'⟩ := List.pairwise_cons.1 hothers
    have htail : rest = others := by
      refine Ordered.ext hrest hrest' fun key => ?_
      by_cases hk : k = key
      · subst hk
        rw [get?_eq_none_of_lt hhead, get?_eq_none_of_lt hhead']
      · have h := same key
        rwa [get?_cons, get?_cons, if_neg hk, if_neg hk] at h
    rw [htail]

end Entries

end DocStore
