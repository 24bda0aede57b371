/-
  Finds that do not depend on revisions.

  The text of a revision is drawn anew whenever a document is written, so two stores that were
  written alike differ in it.  A find can tell them apart only through a condition on the very field
  that holds it: a predicate without such conditions is blind to revisions (`Expr.Blind`), also
  behind a detour through a stored view (`Expr.Blind.reread`), and callers are shown none.  So over
  two databases with the same bodies under the same identifiers (`Database.SameBodies`) a blind view
  makes the same page (`Service.pageOf_evaluate_congr`).

  The scan goes through both databases in the order of the identifiers.  To compare the two, all
  their documents are put under one revision (`Record.plain`), which makes them equal as lists.
-/
import DocStore.Proofs.Document.Masked
import DocStore.Proofs.Find.Untouched

namespace DocStore

/-! ## Blind predicates

  Induction on predicates, for two properties: blindness passes through a design document, and
  blind predicates do not see what is masked. -/

namespace Expr

mutual

/-- The predicate has no condition on the field of the revision. -/
def Blind : Expr → Prop
  | .and exprs => BlindItems exprs
  | .or exprs => BlindItems exprs
  | .field name _ _ => name ≠ Field.revision

def BlindItems : List Expr → Prop
  | [] => True
  | e :: rest => e.Blind ∧ BlindItems rest

end

mutual

instance decidableBlind : (e : Expr) → Decidable e.Blind
  | .and exprs => decidableBlindItems exprs
  | .or exprs => decidableBlindItems exprs
  | .field name _ _ => inferInstanceAs (Decidable (name ≠ Field.revision))

instance decidableBlindItems : (exprs : List Expr) → Decidable (BlindItems exprs)
  | [] => inferInstanceAs (Decidable True)
  | e :: rest =>
    have := decidableBlind e
    have := decidableBlindItems rest
    inferInstanceAs (Decidable (e.Blind ∧ BlindItems rest))

end

mutual

/-- Stored and read again, conditions are on the same fields. -/
theorem Blind.reread : ∀ {e e' : Expr}, e.Blind → e.reread = .ok e' → e'.Blind
  | .and exprs, e', h, hread => by
    obtain ⟨exprs', hitems, hpure⟩ := bind_eq_ok_iff.1 hread
    cases hpure
    have hall : BlindItems exprs := h
    exact hall.reread hitems
  | .or exprs, e', h, hread => by
    obtain ⟨exprs', hitems, hpure⟩ := bind_eq_ok_iff.1 hread
    cases hpure
    have hall : BlindItems exprs := h
    exact hall.reread hitems
  | .field name op literal, e', h, hread => by
    obtain ⟨literal', -, hpure⟩ := bind_eq_ok_iff.1 hread
    cases hpure
    exact h

theorem BlindItems.reread : ∀ {exprs exprs' : List Expr}, BlindItems exprs →
    rereadItems exprs = .ok exprs' → BlindItems exprs'
  | [], exprs', _, hread => by
    cases hread
    trivial
  | e :: rest, exprs', h, hread => by
    obtain ⟨e', he, hread⟩ := bind_eq_ok_iff.1 hread
    obtain ⟨rest', hrest, hpure⟩ := bind_eq_ok_iff.1 hread
    cases hpure
    exact ⟨Blind.reread h.1 he, BlindItems.reread h.2 hrest⟩

end

variable {doc : Document} {revision : String}

mutual

/-- Blind predicates do not see what masking takes out. -/
theorem Blind.matches_masked (hrevision : doc.get? Field.revision = some (.string revision)) :
    ∀ {e : Expr}, e.Blind → e.matches doc.masked = e.matches doc
  | .and exprs, h => by
    have hall : BlindItems exprs := h
    exact (hall.matches_masked hrevision).1
  | .or exprs, h => by
    have hall : BlindItems exprs := h
    exact (hall.matches_masked hrevision).2
  | .field name op literal, h => by
    rw [Expr.matches, Expr.matches, Document.lookup_masked hrevision h]

theorem BlindItems.matches_masked (hrevision : doc.get? Field.revision = some (.string revision)) :
    ∀ {exprs : List Expr}, BlindItems exprs →
      allMatch doc.masked exprs = allMatch doc exprs ∧
        anyMatches doc.masked exprs = anyMatches doc exprs
  | [], _ => ⟨rfl, rfl⟩
  | e :: rest, h => by
    have hfirst := Blind.matches_masked hrevision h.1
    have hrest := BlindItems.matches_masked hrevision h.2
    rw [allMatch, allMatch, anyMatches, anyMatches, hfirst, hrest.1, hrest.2]
    exact ⟨rfl, rfl⟩

end

end Expr

/-! ## One document

  A record is compared with the one of the same body under a fixed revision. -/

namespace Record

variable {record other : Record} {id : String}

/-- The body of a document under a revision that is the same for all. -/
def plain (record : Record) : Record :=
  ⟨0, Store.revisionText 0 "", record.body⟩

theorem WellFormed.plain (h : record.WellFormed) : record.plain.WellFormed :=
  ⟨h.no_id, h.no_revision, "", rfl⟩

theorem body_plain (record : Record) : record.plain.body = record.body :=
  rfl

/-- With revisions masked, it shows the same. -/
theorem masked_plain (record : Record) (id : String) :
    (record.plain.shown id).masked = (record.shown id).masked :=
  masked_shown record.body_plain id

/-- A document satisfies a blind predicate whatever its revision is. -/
theorem matches_plain (h : record.WellFormed) {e : Expr} (blind : e.Blind) (id : String) :
    e.matches (record.plain.shown id) = e.matches (record.shown id) := by
  rw [← blind.matches_masked (h.plain.get?_shown_revision id),
    ← blind.matches_masked (h.get?_shown_revision id), masked_plain]

/-- Callers see a document, and what a projection leaves of it, without its revision. -/
theorem toPublic_apply_congr (h : record.body = other.body) (projection : Projection)
    (id : String) :
    (projection.apply (record.shown id)).toPublic =
      (projection.apply (other.shown id)).toPublic := by
  rw [← Document.toPublic_masked, projection.apply_masked, masked_shown h,
    ← projection.apply_masked, Document.toPublic_masked]

end Record

namespace Definition

variable {view : Definition} {record : Record}

/-- A blind predicate emits it or not, whatever its revision. -/
theorem emits_plain (h : record.WellFormed) (blind : view.predicate.Blind) (id : String) :
    view.emits (id, record.plain) = view.emits (id, record) := by
  rw [emits, emits, record.matches_plain h blind]

/-- In public form its row is the same, since that has no revision. -/
theorem toPublic_rowOf_plain (h : record.WellFormed) (view : Definition) (id : String)
    (select : Option (List String)) :
    (view.rowOf (id, record.plain)).toPublic select =
      (view.rowOf (id, record)).toPublic select := by
  have hid : (view.rowOf (id, record)).value.get? Field.id = some (.string id) :=
    view.projection.get?_apply_id (h.get?_shown_id id)
  have hplain : (view.rowOf (id, record.plain)).value.get? Field.id = some (.string id) :=
    view.projection.get?_apply_id (h.plain.get?_shown_id id)
  have hshape : (view.projection.apply (record.plain.shown id)).toPublic =
      (view.projection.apply (record.shown id)).toPublic :=
    Record.toPublic_apply_congr record.body_plain view.projection id
  rw [Row.toPublic_of_id hid, Row.toPublic_of_id hplain]
  exact congrArg (Document.cut select) hshape

/-- What stands in a design document does not depend on its revision. -/
theorem ofDesign_plain (record : Record) (id name : String) :
    ofDesign (record.plain.shown id) name = ofDesign (record.shown id) name := by
  have hget : ∀ key, key ≠ Field.revision →
      (record.plain.shown id).get? key = (record.shown id).get? key := by
    intro key hkey
    rw [← Document.get?_masked _ hkey, record.masked_plain, Document.get?_masked _ hkey]
  rw [ofDesign, ofDesign, stored?, stored?, Document.id?, Document.id?, hget "views" (by decide),
    hget Field.id (by decide)]

end Definition

/-! ## Databases with the same bodies

  Both databases are turned into the one in which every revision is the fixed one. -/

namespace Database

/-- Both databases hold documents with the same bodies under the same identifiers. -/
def SameBodies (db other : Database) : Prop :=
  ∀ id, (db.get? id).map Record.body = (other.get? id).map Record.body

variable {db other : Database}

/-- Under one revision, they are the same. -/
theorem SameBodies.plain_entries (h : db.SameBodies other) :
    Entries.mapValues (fun _ record => Record.plain record) db.entries =
      Entries.mapValues (fun _ record => Record.plain record) other.entries := by
  refine db.ordered.mapValues_congr _ other.ordered fun id => ?_
  have hbody := h id
  have hplain : ∀ found : Option Record, found.map Record.plain =
      (found.map Record.body).map fun body => ⟨0, Store.revisionText 0 "", body⟩ := by
    intro found
    cases found <;> rfl
  show (db.get? id).map Record.plain = (other.get? id).map Record.plain
  rw [hplain, hplain, hbody]

/-- The rows that a view emits over a database, as callers see them. -/
def listing (view : Definition) (select : Option (List String)) (db : Database) : List Document :=
  (db.entries.filter view.emits).map fun entry => (view.rowOf entry).toPublic select

/-- A blind view lists the same of documents under one revision. -/
theorem listing_plain {view : Definition} (hdb : db.WellFormed) (blind : view.predicate.Blind)
    (select : Option (List String)) :
    db.listing view select =
      ((Entries.mapValues (fun _ record => Record.plain record) db.entries).filter
        view.emits).map fun entry => (view.rowOf entry).toPublic select := by
  rw [listing, Entries.mapValues, List.filter_map, List.map_map]
  have hemits : db.entries.filter (view.emits ∘ fun entry => (entry.1, entry.2.plain)) =
      db.entries.filter view.emits :=
    List.filter_congr fun entry hmem => Definition.emits_plain (hdb entry hmem) blind entry.1
  rw [hemits]
  refine List.map_congr_left fun entry hmem => ?_
  exact (Definition.toPublic_rowOf_plain (hdb entry (List.mem_filter.1 hmem).1) view entry.1
    select).symm

/-- So it lists the same over both. -/
theorem SameBodies.listing_eq {view : Definition} (h : db.SameBodies other) (hdb : db.WellFormed)
    (hother : other.WellFormed) (blind : view.predicate.Blind) (select : Option (List String)) :
    db.listing view select = other.listing view select := by
  rw [listing_plain hdb blind, listing_plain hother blind, h.plain_entries]

end Database

namespace Service

/-- A page is made of what a view lists. -/
theorem pageOf_evaluate (filters : Filters) (limit skip : Nat) (view : Definition) {db : Database}
    (hdb : db.WellFormed) :
    pageOf filters limit skip
        (view.evaluate (db.entries.map fun entry => entry.2.shown entry.1) ⟨some limit, skip⟩) =
      let listed := db.listing view filters.select
      let part := (listed.drop skip).take limit
      ⟨listed.length, limit, skip,
        match filters.sort with
        | some order => order.sort part
        | none => part⟩ := by
  rw [view.evaluate_shown hdb]
  dsimp only
  rw [pageOf, ViewOptions.page, Database.listing]
  simp only [List.map_take, List.map_drop, List.map_map, List.length_map]
  rfl

/-- So databases with the same bodies give the same page. -/
theorem pageOf_evaluate_congr (filters : Filters) (limit skip : Nat) {view : Definition}
    {db other : Database} (h : db.SameBodies other) (hdb : db.WellFormed) (hother : other.WellFormed)
    (blind : view.predicate.Blind) :
    pageOf filters limit skip
        (view.evaluate (db.entries.map fun entry => entry.2.shown entry.1) ⟨some limit, skip⟩) =
      pageOf filters limit skip (view.evaluate
        (other.entries.map fun entry => entry.2.shown entry.1) ⟨some limit, skip⟩) := by
  rw [pageOf_evaluate _ _ _ _ hdb, pageOf_evaluate _ _ _ _ hother, h.listing_eq hdb hother blind]

end Service

end DocStore
