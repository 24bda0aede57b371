/-
  Documents with the text of their revision taken out.

  Two documents of a store may differ in nothing but the texts of their revisions.  Masked, they are
  one (`Record.masked_shown`).  So what does not depend on such texts is what masking does not
  change, and that is almost all there is: the shape that callers see (`toPublic_masked`), what a
  projection leaves of it (`Projection.apply_masked`), and where any path leads but the one to the
  revision itself (`lookup_masked`).

  Masking is a map over the values of entries, one that looks at their keys.  Such maps leave keys
  and order alone, so they go through every operation on entries.
-/
import DocStore.Identity
import DocStore.Projection
import DocStore.Proofs.Store.Held

namespace DocStore

namespace Entries

variable {α β : Type} (f : String → α → β)

/-- The entries with every value mapped, in sight of its key. -/
def mapValues (entries : Entries α) : Entries β :=
  entries.map fun entry => (entry.1, f entry.1 entry.2)

theorem mapValues_cons (key : String) (value : α) (rest : Entries α) :
    mapValues f ((key, value) :: rest) = (key, f key value) :: mapValues f rest :=
  rfl

theorem get?_mapValues (entries : Entries α) (key : String) :
    (mapValues f entries).get? key = (entries.get? key).map (f key) := by
  induction entries with
  | nil => rfl
  | cons entry rest ih =>
    obtain ⟨k, v⟩ := entry
    rw [mapValues_cons, get?_cons, get?_cons]
    by_cases hk : k = key
    · rw [if_pos hk, if_pos hk, hk]
      rfl
    · rw [if_neg hk, if_neg hk, ih]

theorem contains_mapValues (entries : Entries α) (key : String) :
    (mapValues f entries).contains key = entries.contains key := by
  rw [contains, get?_mapValues, Option.isSome_map, contains]

/-- A value may be changed before it is written or afterwards. -/
theorem mapValues_insert (entries : Entries α) (key : String) (value : α) :
    mapValues f (entries.insert key value) = (mapValues f entries).insert key (f key value) := by
  induction entries with
  | nil => rfl
  | cons entry rest ih =>
    obtain ⟨k, v⟩ := entry
    rw [insert, mapValues_cons, insert]
    by_cases hk : k = key
    · rw [if_pos hk, if_pos hk, mapValues_cons]
    · rw [if_neg hk, if_neg hk, mapValues_cons, ih]

theorem mapValues_overlay (entries news : Entries α) :
    mapValues f (entries.overlay news) = (mapValues f entries).overlay (mapValues f news) := by
  induction news generalizing entries with
  | nil => rfl
  | cons entry rest ih =>
    rw [overlay_cons, ih, mapValues_insert]
    rfl

/-- What is removed need not be changed first. -/
theorem mapValues_erase (entries : Entries α) (key : String) :
    mapValues f (entries.erase key) = (mapValues f entries).erase key := by
  induction entries with
  | nil => rfl
  | cons entry rest ih =>
    obtain ⟨k, v⟩ := entry
    rw [erase_cons, mapValues_cons, erase_cons]
    by_cases hk : k = key
    · rw [if_pos hk, if_pos hk, ih]
    · rw [if_neg hk, if_neg hk, mapValues_cons, ih]

/-- Entries in key order whose values are mapped to the same are mapped to the same. -/
theorem Ordered.mapValues_congr {entries others : Entries α} (h : entries.Ordered)
    (hothers : others.Ordered)
    (same : ∀ key, (entries.get? key).map (f key) = (others.get? key).map (f key)) :
    mapValues f entries = mapValues f others := by
  refine Ordered.ext (List.Pairwise.map _ (fun _ _ hlt => hlt) h)
    (List.Pairwise.map _ (fun _ _ hlt => hlt) hothers) fun key => ?_
  rw [get?_mapValues, get?_mapValues]
  exact same key

end Entries

/-! ## Masking

  To mask is to map one value, so all that writes and look-ups do commutes with it, unless it is
  the revision that is looked up. -/

/-- A value, unless it stands for a revision. -/
def Value.unlessRevision (key : String) (value : Value) : Value :=
  if key = Field.revision then .null else value

namespace Document

variable {doc : Document} {key : String}

/-- The document with the text of its revision taken out. -/
def masked (doc : Document) : Document :=
  Entries.mapValues Value.unlessRevision doc

/-- Only the revision is masked. -/
theorem get?_masked (doc : Document) (h : key ≠ Field.revision) :
    doc.masked.get? key = doc.get? key := by
  have hvalue : Value.unlessRevision key = id := funext fun value => if_neg h
  rw [masked, Entries.get?_mapValues, hvalue, Option.map_id]
  rfl

/-- Without a revision there is nothing to take out. -/
theorem masked_of_no_revision (h : doc.get? Field.revision = none) : doc.masked = doc := by
  induction doc with
  | nil => rfl
  | cons entry rest ih =>
    obtain ⟨k, v⟩ := entry
    rw [Entries.get?_cons] at h
    by_cases hk : k = Field.revision
    · rw [if_pos hk] at h
      cases h
    · rw [if_neg hk] at h
      rw [masked, Entries.mapValues_cons, Value.unlessRevision, if_neg hk]
      exact congrArg ((k, v) :: ·) (ih h)

/-- Callers see no revision. -/
theorem toPublic_masked (doc : Document) : doc.masked.toPublic = doc.toPublic := by
  have hrest : (doc.masked.erase Field.id).erase Field.revision =
      (doc.erase Field.id).erase Field.revision := by
    rw [masked, ← Entries.mapValues_erase, ← Entries.mapValues_erase]
    exact masked_of_no_revision (Entries.get?_erase_self _ _)
  rw [toPublic, toPublic, hrest, get?_masked doc (by decide)]

/-- No path but the one to the revision itself leads to it or through it. -/
theorem lookup_masked {revision : String} {path : String}
    (h : doc.get? Field.revision = some (.string revision)) (hpath : path ≠ Field.revision) :
    doc.masked.lookup path = doc.lookup path := by
  have hwalk : ∀ first rest, Text.split '.' path = first :: rest →
      walk? (.document doc.masked) (first :: rest) = walk? (.document doc) (first :: rest) := by
    intro first rest hsplit
    show (doc.masked.get? first).bind _ = (doc.get? first).bind _
    by_cases hfirst : first = Field.revision
    · -- The path goes on behind the revision, which is no document.
      cases rest with
      | nil => exact absurd ((Text.eq_of_split_eq_singleton hsplit).symm.trans hfirst) hpath
      | cons key more =>
        rw [hfirst, h, masked, Entries.get?_mapValues, h]
        rfl
    · rw [get?_masked doc hfirst]
  rw [lookup, lookup, get?_masked doc hpath]
  cases hsplit : Text.split '.' path with
  | nil => exact absurd hsplit (Text.split_ne_nil '.' path)
  | cons first rest => rw [hwalk first rest hsplit]

end Document

theorem Projection.gather_masked (doc : Document) : ∀ (names : List String) (kept : Document),
    (gather doc kept names).masked = gather doc.masked kept.masked names
  | [], kept => rfl
  | name :: rest, kept => by
    have hcontains : kept.masked.contains name = kept.contains name :=
      Entries.contains_mapValues _ kept name
    have hget : doc.masked.get? name = (doc.get? name).map (Value.unlessRevision name) :=
      Entries.get?_mapValues _ doc name
    rw [gather, gather, hcontains, hget]
    split
    · exact gather_masked doc rest kept
    · cases doc.get? name with
      | none => exact gather_masked doc rest kept
      | some value =>
        have hinsert : Document.masked (kept.insert name value) =
            kept.masked.insert name (Value.unlessRevision name value) :=
          Entries.mapValues_insert _ kept name value
        dsimp only [Option.map_some]
        rw [← hinsert]
        exact gather_masked doc rest _

/-- A projection takes no field apart. -/
theorem Projection.apply_masked (projection : Projection) (doc : Document) :
    (projection.apply doc).masked = projection.apply doc.masked := by
  cases projection with
  | all => rfl
  | fields names => exact gather_masked doc _ []

/-- Masked, the store shows of a document its identifier and its body. -/
theorem Record.masked_shown {record other : Record} (h : record.body = other.body) (id : String) :
    (record.shown id).masked = (other.shown id).masked := by
  rw [Document.masked, Document.masked, shown, shown, Entries.mapValues_overlay,
    Entries.mapValues_overlay, h]
  rfl

end DocStore
