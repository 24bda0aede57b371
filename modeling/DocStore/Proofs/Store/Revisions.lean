/-
  Revisions prevent lost updates.

  A write that names a revision is meant to succeed only if nobody wrote in between.  That the
  store compares two texts is not enough for this: a document that is removed and created again
  counts its writes from one again, so the number in a revision comes back, and only the token
  behind it tells the new revision from the old one.

  `Consistent` ties the state of a store to its whole history: which revisions were ever returned,
  which of them are current, and which were spent, that is, named by a write that succeeded.  It
  holds after every history in which no token was drawn twice, because a write draws a token that
  no earlier revision has (`Consistent.fresh`).  `revisions_prevent_lost_updates` reads off it what
  clients rely on.
-/
import DocStore.Proofs.Store.History
import Mathlib.Data.List.Nodup

namespace DocStore

namespace Store

/-! ## A revision determines its token

  Different tokens make different revisions, because the first dash ends the number. -/

/-- Numbers are printed in digits only. -/
theorem dash_not_mem_toString (n : Nat) : '-' ∉ (toString n).toList := by
  intro h
  rw [Nat.toString_eq_repr, Nat.toList_repr] at h
  have hdigit := Nat.isDigit_of_mem_toDigits (by decide) (by decide) h
  exact absurd hdigit (by decide)

/-- A revision is the digits of its number, a dash and the token. -/
theorem toList_revisionText (n : Nat) (token : String) :
    (revisionText n token).toList = (toString n).toList ++ '-' :: token.toList := by
  simp [revisionText, String.toList_append]

/-- The same as a test, for cutting a revision at its dash. -/
theorem ne_dash_of_mem_toString {n : Nat} :
    ∀ c ∈ (toString n).toList, decide (c ≠ '-') = true :=
  fun _ hc => decide_eq_true fun heq => dash_not_mem_toString n (heq ▸ hc)

/-- What stands in front of the first dash in a revision is its number. -/
theorem takeWhile_revisionText (n : Nat) (token : String) :
    (revisionText n token).toList.takeWhile (· ≠ '-') = (toString n).toList := by
  rw [toList_revisionText, List.takeWhile_append_of_pos ne_dash_of_mem_toString]
  exact List.append_nil _

/-- What stands from the first dash on in a revision is the dash and the token. -/
theorem dropWhile_revisionText (n : Nat) (token : String) :
    (revisionText n token).toList.dropWhile (· ≠ '-') = '-' :: token.toList := by
  rw [toList_revisionText, List.dropWhile_append_of_pos ne_dash_of_mem_toString]
  rfl

/-- Two revisions that are the same text have the same token: the first dash ends the number in
    both. -/
theorem revisionText_token {m n : Nat} {s t : String} (h : revisionText m s = revisionText n t) :
    s = t := by
  have hdash := dropWhile_revisionText m s
  rw [h, dropWhile_revisionText] at hdash
  exact (String.toList_inj.1 (List.cons.inj hdash).2).symm

end Store

/-- No two of the first `n` tokens are the same. -/
def DrawsDistinct (token : Nat → String) (n : Nat) : Prop :=
  ∀ i < n, ∀ j < n, token i = token j → i = j

instance (token : Nat → String) (n : Nat) : Decidable (DrawsDistinct token n) :=
  inferInstanceAs (Decidable (∀ i < n, ∀ j < n, token i = token j → i = j))

/-- What is distinct among many draws is so among fewer. -/
theorem DrawsDistinct.mono {token : Nat → String} {m n : Nat} (h : DrawsDistinct token n)
    (hle : m ≤ n) : DrawsDistinct token m := by
  intro i hi j hj
  exact h i (by omega) j (by omega)

/-! ## Current and spent revisions of a history

  Histories are read from the latest exchange on, by one equation for exchanges that are writes
  and one for those that are not. -/

/-- The revision that a write leaves in its place; none if it removed the document. -/
def Write.leaves? (w : Write) : Option String :=
  if w.removes then none else some w.revision

/-- The revisions that writes named and wrote over, latest first. -/
def spent (past : List Exchange) : List String :=
  past.filterMap Exchange.spent?

/-- Exchanges are told one by one: those that are no write add nothing to the list of writes, -/
theorem writes_cons_none {e : Exchange} {past : List Exchange} (h : e.write? = none) :
    writes (e :: past) = writes past := by
  rw [writes, List.filterMap_cons, h]
  rfl

/-- and a write comes in front, being the latest. -/
theorem writes_cons_some {e : Exchange} {past : List Exchange} {w : Write}
    (h : e.write? = some w) : writes (e :: past) = w :: writes past := by
  rw [writes, List.filterMap_cons, h]
  rfl

/-- Likewise for the revisions that were spent. -/
theorem spent_cons_none {e : Exchange} {past : List Exchange} (h : e.spent? = none) :
    spent (e :: past) = spent past := by
  rw [spent, List.filterMap_cons, h]
  rfl

theorem spent_cons_some {e : Exchange} {past : List Exchange} {revision : String}
    (h : e.spent? = some revision) : spent (e :: past) = revision :: spent past := by
  rw [spent, List.filterMap_cons, h]
  rfl

/-- A revision was spent by the latest exchange or by one before it. -/
theorem mem_spent_cons {e : Exchange} {past : List Exchange} {revision : String}
    (h : revision ∈ spent (e :: past)) : e.spent? = some revision ∨ revision ∈ spent past := by
  cases hspent : e.spent? with
  | none =>
    rw [spent_cons_none hspent] at h
    exact Or.inr h
  | some named =>
    rw [spent_cons_some hspent] at h
    rcases List.mem_cons.1 h with rfl | h
    · exact Or.inl rfl
    · exact Or.inr h

/-- The latest write to a place is not changed by what is no write. -/
theorem lastWrite?_cons_none {e : Exchange} {past : List Exchange} (h : e.write? = none)
    (name id : String) : lastWrite? (e :: past) name id = lastWrite? past name id := by
  rw [lastWrite?, writes_cons_none h]
  rfl

/-- A write is the latest one in its place and leaves all other places alone. -/
theorem lastWrite?_cons_some {e : Exchange} {past : List Exchange} {w : Write}
    (h : e.write? = some w) (name id : String) :
    lastWrite? (e :: past) name id =
      if name = w.database ∧ id = w.id then some w else lastWrite? past name id := by
  rw [lastWrite?, writes_cons_some h, List.find?_cons]
  by_cases hplace : name = w.database ∧ id = w.id
  · rw [if_pos hplace, hplace.1, hplace.2, beq_self_eq_true, beq_self_eq_true]
    rfl
  · have hother : (w.database == name && w.id == id) = false := by
      rw [Bool.eq_false_iff]
      intro hsame
      rw [Bool.and_eq_true, beq_iff_eq, beq_iff_eq] at hsame
      exact hplace ⟨hsame.1.symm, hsame.2.symm⟩
    rw [if_neg hplace, hother]
    rfl

/-- It is a write, and it was to that place. -/
theorem lastWrite?_eq_some {past : List Exchange} {name id : String} {w : Write}
    (h : lastWrite? past name id = some w) : w ∈ writes past ∧ w.database = name ∧ w.id = id := by
  have hplace := List.find?_some h
  rw [Bool.and_eq_true, beq_iff_eq, beq_iff_eq] at hplace
  exact ⟨List.mem_of_find?_eq_some h, hplace⟩

/-- What a write leaves has the revision that it returned, if it leaves anything. -/
theorem Store.Effect.left_leaves {token : Nat → String} {store next : Store} {w : Write}
    {left : Option Record} (h : Store.Effect token store w left next) :
    left.map Record.revision = w.leaves? := by
  rw [Write.leaves?, h.removes]
  cases left with
  | none => rfl
  | some record =>
    rw [Option.map_some, h.left_revision record rfl]
    rfl

/-- A removal returns a revision as well, but nothing that is held has it. -/
theorem leaves?_eq_some {w : Write} {revision : String} :
    w.leaves? = some revision ↔ w.removes = false ∧ w.revision = revision := by
  rw [Write.leaves?]
  cases w.removes <;> simp

/-! ## The invariant

  It speaks of what was returned, what is current and what was spent, and is kept by quiet
  exchanges, by writes, and by draws of others. -/

/-- What the history of a store says about its revisions. -/
structure Consistent (token : Nat → String) (past : List Exchange) (store : Store) : Prop where
  /-- Every revision ever returned has a token that was drawn. -/
  drawn : ∀ w ∈ writes past, ∃ seq index, index < store.issued ∧
    w.revision = Store.revisionText seq (token index)
  /-- No revision was returned twice. -/
  distinct : ((writes past).map Write.revision).Nodup
  /-- What is held somewhere has the revision that the latest write there left. -/
  current : ∀ name id, (store.held? name id).map Record.revision =
    (lastWrite? past name id).bind Write.leaves?
  /-- A revision that was spent had been returned before, and nothing has it any more. -/
  spent_returned : ∀ revision ∈ spent past, revision ∈ (writes past).map Write.revision
  spent_gone : ∀ revision ∈ spent past, ∀ name id record,
    store.held? name id = some record → record.revision ≠ revision
  spent_distinct : (spent past).Nodup

namespace Consistent

variable {token : Nat → String} {past : List Exchange} {store : Store}

theorem empty (transientViews : Bool) : Consistent token [] (Store.empty transientViews) where
  drawn := by rintro w ⟨⟩
  distinct := List.nodup_nil
  current := fun _ _ => rfl
  spent_returned := by rintro revision ⟨⟩
  spent_gone := by rintro revision ⟨⟩
  spent_distinct := List.nodup_nil

/-- A revision is current in a place exactly if the latest write there returned it and was no
    removal. -/
theorem held_iff (h : Consistent token past store) (name id revision : String) :
    (∃ record, store.held? name id = some record ∧ record.revision = revision) ↔
      ∃ w, lastWrite? past name id = some w ∧ w.removes = false ∧ w.revision = revision := by
  have hcurrent := h.current name id
  constructor
  · rintro ⟨record, hheld, rfl⟩
    rw [hheld, Option.map_some] at hcurrent
    obtain ⟨w, hlast, hleaves⟩ := Option.bind_eq_some_iff.1 hcurrent.symm
    exact ⟨w, hlast, leaves?_eq_some.1 hleaves⟩
  · rintro ⟨w, hlast, hleaves⟩
    rw [hlast, Option.bind_some, leaves?_eq_some.2 hleaves] at hcurrent
    exact Option.map_eq_some_iff.1 hcurrent

/-- One revision is current in one place only. -/
theorem held_unique (h : Consistent token past store) {name id name' id' : String}
    {record record' : Record} (hheld : store.held? name id = some record)
    (hheld' : store.held? name' id' = some record') (hsame : record.revision = record'.revision) :
    name = name' ∧ id = id' := by
  obtain ⟨w, hlast, -, hrev⟩ := (h.held_iff name id record.revision).1 ⟨record, hheld, rfl⟩
  obtain ⟨w', hlast', -, hrev'⟩ := (h.held_iff name' id' record'.revision).1 ⟨record', hheld', rfl⟩
  obtain ⟨hmem, hname, hid⟩ := lastWrite?_eq_some hlast
  obtain ⟨hmem', hname', hid'⟩ := lastWrite?_eq_some hlast'
  have heq : w = w' := List.inj_on_of_nodup_map h.distinct hmem hmem' (by rw [hrev, hrev', hsame])
  subst heq
  exact ⟨hname.symm.trans hname', hid.symm.trans hid'⟩

/-- What is current was returned by some write. -/
theorem held_returned (h : Consistent token past store) {name id : String} {record : Record}
    (hheld : store.held? name id = some record) :
    record.revision ∈ (writes past).map Write.revision := by
  obtain ⟨w, hlast, -, hrev⟩ := (h.held_iff name id record.revision).1 ⟨record, hheld, rfl⟩
  exact List.mem_map.2 ⟨w, (lastWrite?_eq_some hlast).1, hrev⟩

/-- A revision with a token that is drawn later was never returned before. -/
theorem not_returned (h : Consistent token past store) {index drawn : Nat}
    (hdistinct : DrawsDistinct token drawn) (hle : store.issued ≤ index) (hlt : index < drawn)
    (seq : Nat) :
    Store.revisionText seq (token index) ∉ (writes past).map Write.revision := by
  intro hmem
  obtain ⟨w, hw, hsame⟩ := List.mem_map.1 hmem
  obtain ⟨seq', index', hlt', hrev⟩ := h.drawn w hw
  -- A revision that came before has a token that was drawn before.
  have htoken : token index' = token index := Store.revisionText_token (hrev.symm.trans hsame)
  have heq : index' = index := hdistinct index' (by omega) index hlt htoken
  omega

/-- The revision of a write was never returned before, because its token was never drawn before. -/
theorem fresh {next : Store} {w : Write} {left : Option Record} (h : Consistent token past store)
    (heffect : Store.Effect token store w left next) (hdistinct : DrawsDistinct token next.issued) :
    w.revision ∉ (writes past).map Write.revision := by
  obtain ⟨seq, index, hle, hlt, hrev⟩ := heffect.drawn
  rw [hrev]
  exact h.not_returned hdistinct hle hlt seq

/-! Every exchange keeps the invariant. -/

/-- Nothing that the invariant speaks of changes by an exchange that is no write. -/
theorem quiet {e : Exchange} {next : Store} (h : Consistent token past store)
    (hquiet : Store.Quiet store e next) : Consistent token (e :: past) next := by
  -- The history has the same writes and has spent the same revisions as before.
  have hwrites : writes (e :: past) = writes past := writes_cons_none hquiet.no_write
  have hspent : spent (e :: past) = spent past := spent_cons_none hquiet.no_spent
  constructor
  · intro w hw
    rw [hwrites] at hw
    rw [hquiet.issued]
    exact h.drawn w hw
  · rw [hwrites]
    exact h.distinct
  · intro name id
    rw [hquiet.held, lastWrite?_cons_none hquiet.no_write]
    exact h.current name id
  · rw [hspent, hwrites]
    exact h.spent_returned
  · intro revision hrev name id record hheld
    rw [hspent] at hrev
    rw [hquiet.held] at hheld
    exact h.spent_gone revision hrev name id record hheld
  · rw [hspent]
    exact h.spent_distinct

/-- A write makes its own revision current in its place.  If it spent a revision, that was current
    there and nowhere else, so it was not spent before and is gone now. -/
theorem wrote {e : Exchange} {next : Store} {w : Write} {left : Option Record}
    (h : Consistent token past store) (hwrote : Store.Wrote token store e w left next)
    (hdistinct : DrawsDistinct token next.issued) : Consistent token (e :: past) next := by
  have hwrites : writes (e :: past) = w :: writes past := writes_cons_some hwrote.write
  have hfresh := h.fresh hwrote.effect hdistinct
  have hreturned : ∀ revision ∈ spent (e :: past),
      revision ∈ (writes past).map Write.revision := by
    intro revision hrev
    rcases mem_spent_cons hrev with hrev | hrev
    · obtain ⟨record, hheld, rfl⟩ := hwrote.spent revision hrev
      exact h.held_returned hheld
    · exact h.spent_returned revision hrev
  constructor
  · intro w' hw'
    rw [hwrites] at hw'
    rcases List.mem_cons.1 hw' with rfl | hw'
    · obtain ⟨seq, index, _, hlt, hrev⟩ := hwrote.effect.drawn
      exact ⟨seq, index, hlt, hrev⟩
    · obtain ⟨seq, index, hlt, hrev⟩ := h.drawn w' hw'
      exact ⟨seq, index, Nat.lt_of_lt_of_le hlt hwrote.effect.issued_le, hrev⟩
  · rw [hwrites, List.map_cons, List.nodup_cons]
    exact ⟨hfresh, h.distinct⟩
  · intro name id
    rw [hwrote.effect.held, lastWrite?_cons_some hwrote.write]
    by_cases hplace : name = w.database ∧ id = w.id
    · rw [if_pos hplace, if_pos hplace, Option.bind_some]
      exact hwrote.effect.left_leaves
    · rw [if_neg hplace, if_neg hplace]
      exact h.current name id
  · intro revision hrev
    rw [hwrites, List.map_cons]
    exact List.mem_cons_of_mem _ (hreturned revision hrev)
  · intro revision hrev name id record hheld hsame
    rw [hwrote.effect.held] at hheld
    split at hheld
    · -- In the place of the write stands its own revision, which is new.
      rw [hwrote.effect.left_revision record hheld] at hsame
      exact hfresh (hsame ▸ hreturned revision hrev)
    · -- Elsewhere nothing changed, and what the write spent was current in its place alone.
      rename_i hplace
      rcases mem_spent_cons hrev with hrev | hrev
      · obtain ⟨current, hcurrent, hcurrentRev⟩ := hwrote.spent revision hrev
        exact hplace (h.held_unique hheld hcurrent (hsame.trans hcurrentRev.symm))
      · exact h.spent_gone revision hrev name id record hheld hsame
  · cases hspent : e.spent? with
    | none =>
      rw [spent_cons_none hspent]
      exact h.spent_distinct
    | some revision =>
      rw [spent_cons_some hspent, List.nodup_cons]
      refine ⟨fun hmem => ?_, h.spent_distinct⟩
      obtain ⟨current, hcurrent, hcurrentRev⟩ := hwrote.spent revision hspent
      exact h.spent_gone revision hmem _ _ current hcurrent hcurrentRev

/-- A token drawn by a client is one that no write will have. -/
theorem drew (h : Consistent token past store) : Consistent token past store.afterDraw where
  drawn := by
    intro w hw
    obtain ⟨seq, index, hlt, hrev⟩ := h.drawn w hw
    exact ⟨seq, index, Nat.lt_succ_of_lt hlt, hrev⟩
  distinct := h.distinct
  current := h.current
  spent_returned := h.spent_returned
  spent_gone := h.spent_gone
  spent_distinct := h.spent_distinct

end Consistent

/-- The invariant holds after every history in which no token was drawn twice. -/
theorem Store.Reached.consistent {token : Nat → String} {past : List Exchange} {store : Store}
    (h : Store.Reached token past store) (hdistinct : DrawsDistinct token store.issued) :
    Consistent token past store := by
  -- What is drawn later cannot be the same as what was drawn before, so the assumption on the
  -- tokens drawn in the end holds of those drawn at every earlier point.
  induction h with
  | empty transientViews => exact Consistent.empty transientViews
  | @asked past store _ request ih =>
    rcases Store.respond_cases token store request with hquiet | ⟨w, left, hwrote⟩
    · exact (ih (hquiet.issued ▸ hdistinct)).quiet hquiet
    · exact (ih (hdistinct.mono hwrote.effect.issued_le)).wrote hwrote hdistinct
  | drew _ ih => exact (ih (hdistinct.mono (Nat.le_succ _))).drew

/-! ## What clients rely on -/

/-- **Revisions prevent lost updates.**  After every history of a store in which no token was drawn
    twice, whoever made the requests:
    all revisions that writes returned are different;
    a document can be read exactly if the latest write to its place was no removal, and it shows
    the revision which that write returned;
    a save or a removal that names a revision succeeds exactly if the latest write to its place
    returned it and was no removal;
    and no revision was spent twice, wherever it was named, whatever was removed and created again
    in between. -/
theorem revisions_prevent_lost_updates {token : Nat → String} {past : List Exchange}
    {store : Store} (reached : Store.Reached token past store)
    (distinct : DrawsDistinct token store.issued) :
    ((writes past).map Write.revision).Nodup ∧
    (∀ name id doc, store.getDocument name id = .ok doc →
      ∃ w, lastWrite? past name id = some w ∧ w.removes = false ∧
        doc.get? Field.revision = some (.string w.revision)) ∧
    (∀ name id w, lastWrite? past name id = some w → w.removes = false →
      ∃ doc, store.getDocument name id = .ok doc) ∧
    (∀ name id body revision, body.get? Field.revision = some (.string revision) →
      ((∃ result, store.saveDocument token name id body = .ok result) ↔
        ∃ w, lastWrite? past name (store.assigned token id) = some w ∧ w.removes = false ∧
          w.revision = revision)) ∧
    (∀ name id revision,
      (∃ result, store.removeDocument token name id revision = .ok result) ↔
        ∃ w, lastWrite? past name id = some w ∧ w.removes = false ∧ w.revision = revision) ∧
    (spent past).Nodup := by
  -- All parts are readings of the one invariant that every step keeps.
  have inv := reached.consistent distinct
  refine ⟨inv.distinct, ?shown, ?readable, ?save, ?remove, inv.spent_distinct⟩
  case shown =>
    intro name id doc hget
    obtain ⟨record, hheld, rfl⟩ := Store.getDocument_eq_ok_iff.1 hget
    obtain ⟨w, hlast, hkeeps, hrev⟩ :=
      (inv.held_iff name id record.revision).1 ⟨record, hheld, rfl⟩
    refine ⟨w, hlast, hkeeps, ?_⟩
    rw [hrev]
    exact (reached.wellFormed name id record hheld).get?_shown_revision id
  case readable =>
    intro name id w hlast hkeeps
    obtain ⟨record, hheld, -⟩ := (inv.held_iff name id w.revision).2 ⟨w, hlast, hkeeps, rfl⟩
    exact ⟨_, Store.getDocument_eq_ok_iff.2 ⟨record, hheld, rfl⟩⟩
  case save =>
    intro name id body revision hbody
    exact (Store.saveDocument_succeeds_iff hbody).trans (inv.held_iff name _ revision)
  case remove =>
    intro name id revision
    exact Store.removeDocument_succeeds_iff.trans (inv.held_iff name id revision)

/-- The history and the store of a document that was created, removed and created again. -/
def recreated : List Exchange × Store :=
  Store.respondAll Store.countedToken [] (Store.empty true)
    [.createDatabase "notes", .saveDocument "notes" (some "a") [],
      .removeDocument "notes" "a" (Store.revisionText 1 (Store.countedToken 1)),
      .saveDocument "notes" (some "a") []]

/-- The first revision of the document has the number of the current one and removes nothing. -/
theorem recreated_outdates_revision :
    Store.Reached Store.countedToken recreated.1 recreated.2 ∧
    DrawsDistinct Store.countedToken recreated.2.issued ∧
    lastWrite? recreated.1 "notes" "a" =
      some ⟨"notes", "a", Store.revisionText 1 (Store.countedToken 4), false⟩ ∧
    ¬ ∃ result, recreated.2.removeDocument Store.countedToken "notes" "a"
      (Store.revisionText 1 (Store.countedToken 1)) = .ok result := by
  have reached : Store.Reached Store.countedToken recreated.1 recreated.2 :=
    (Store.Reached.empty true).respondAll _
  have distinct : DrawsDistinct Store.countedToken recreated.2.issued := by decide
  have last : lastWrite? recreated.1 "notes" "a" =
      some ⟨"notes", "a", Store.revisionText 1 (Store.countedToken 4), false⟩ := by decide
  obtain ⟨-, -, -, -, remove, -⟩ := revisions_prevent_lost_updates reached distinct
  refine ⟨reached, distinct, last, ?_⟩
  rw [remove, last]
  rintro ⟨_, ⟨⟩, -, hrev⟩
  exact absurd (Store.revisionText_token hrev) (by decide)

end DocStore
