/-
  What others do between two requests of a client.

  A client reads a document and later names its revision.  In between, others may have made any
  requests at all.  Two facts are enough to know what the client meets then.
  If no write of theirs was to the place that it read, that place holds what it held
  (`held?_respondAll_of_untouched`).
  If one was, the revision that the client read is current no more, whatever stands there now
  (`outdated_of_touched`): what is held now was left by one of their writes, and no write returns a
  revision that was returned before.
-/
import DocStore.Proofs.Store.Revisions

namespace DocStore

/-- Some of these writes was to this place. -/
def Touched (theirs : List Write) (name id : String) : Prop :=
  ∃ w ∈ theirs, w.database = name ∧ w.id = id

instance (theirs : List Write) (name id : String) : Decidable (Touched theirs name id) :=
  inferInstanceAs (Decidable (∃ w ∈ theirs, w.database = name ∧ w.id = id))

/-- Writes of a longer history are those of its two parts. -/
theorem writes_append (later earlier : List Exchange) :
    writes (later ++ earlier) = writes later ++ writes earlier :=
  List.filterMap_append

/-- Of a touched place, the latest write is one of the later ones. -/
theorem lastWrite?_append_of_touched {later : List Exchange} {name id : String}
    (h : Touched (writes later) name id) (earlier : List Exchange) :
    lastWrite? (later ++ earlier) name id = lastWrite? later name id := by
  obtain ⟨w, hw, hname, hid⟩ := h
  have hsome : (lastWrite? later name id).isSome := by
    rw [lastWrite?, List.find?_isSome]
    refine ⟨w, hw, ?_⟩
    rw [hname, hid, beq_self_eq_true, beq_self_eq_true]
    rfl
  rw [lastWrite?, writes_append, List.find?_append]
  exact Option.or_of_isSome hsome

namespace Store

variable {token : Nat → String}

/-! ## Requests one after another -/

/-- What came before has no influence on what requests do. -/
theorem respondAll_eq (token : Nat → String) (past : List Exchange) (store : Store)
    (requests : List Request) :
    respondAll token past store requests =
      ((respondAll token [] store requests).1 ++ past,
        (respondAll token [] store requests).2) := by
  induction requests generalizing past store with
  | nil => rfl
  | cons request rest ih =>
    have hfirst : ∀ before, respondAll token before store (request :: rest) =
        respondAll token ((store.respond token request).1 :: before)
          (store.respond token request).2 rest := fun _ => rfl
    rw [hfirst past, hfirst [], ih, ih [(store.respond token request).1], List.append_assoc]
    rfl

/-- A row of requests, told from its first one on: its exchange is the earliest, so it stands
    last. -/
theorem respondAll_cons (token : Nat → String) (store : Store) (request : Request)
    (rest : List Request) :
    respondAll token [] store (request :: rest) =
      ((respondAll token [] (store.respond token request).2 rest).1 ++
          [(store.respond token request).1],
        (respondAll token [] (store.respond token request).2 rest).2) :=
  respondAll_eq token [(store.respond token request).1] (store.respond token request).2 rest

/-- By induction on the row, as no request drops a database. -/
theorem keepsDatabases_respondAll (token : Nat → String) (store : Store)
    (requests : List Request) :
    KeepsDatabases store (respondAll token [] store requests).2 := by
  induction requests generalizing store with
  | nil => exact fun _ h => h
  | cons request rest ih =>
    rw [respondAll_cons]
    exact fun name h => ih _ name (keepsDatabases_respond token store request name h)

/-- Tokens are only used up, never given back. -/
theorem issued_le_respondAll (token : Nat → String) (store : Store) (requests : List Request) :
    store.issued ≤ (respondAll token [] store requests).2.issued := by
  induction requests generalizing store with
  | nil => exact Nat.le_refl _
  | cons request rest ih =>
    rw [respondAll_cons]
    refine Nat.le_trans ?_ (ih _)
    rcases respond_cases token store request with quiet | ⟨w, left, wrote⟩
    · exact Nat.le_of_eq quiet.issued.symm
    · exact wrote.effect.issued_le

/-! ## One place -/

/-- Whatever others write elsewhere, a place holds what it held. -/
theorem held?_respondAll_of_untouched {store : Store} {requests : List Request} {name id : String}
    (h : ¬ Touched (writes (respondAll token [] store requests).1) name id) :
    (respondAll token [] store requests).2.held? name id = store.held? name id := by
  induction requests generalizing store with
  | nil => rfl
  | cons request rest ih =>
    rw [respondAll_cons, writes_append] at h
    have hrest : ¬ Touched (writes (respondAll token [] (store.respond token request).2 rest).1)
        name id := by
      rintro ⟨w, hw, hplace⟩
      exact h ⟨w, List.mem_append_left _ hw, hplace⟩
    rw [respondAll_cons, ih hrest]
    rcases respond_cases token store request with quiet | ⟨w, left, wrote⟩
    · exact quiet.held name id
    · -- A write to the place would have been among theirs.
      rw [wrote.effect.held, if_neg]
      rintro ⟨hname, hid⟩
      refine h ⟨w, List.mem_append_right _ ?_, hname.symm, hid.symm⟩
      rw [writes_cons_some wrote.write]
      exact List.mem_cons_self

/-- Once others wrote to a place, no revision that was held there before is current there. -/
theorem outdated_of_touched {past : List Exchange} {store : Store} {requests : List Request}
    {name id : String} {record current : Record} (reached : Reached token past store)
    (distinct : DrawsDistinct token (respondAll token [] store requests).2.issued)
    (touched : Touched (writes (respondAll token [] store requests).1) name id)
    (hheld : store.held? name id = some record)
    (hcurrent : (respondAll token [] store requests).2.held? name id = some current) :
    current.revision ≠ record.revision := by
  have before := reached.consistent (distinct.mono (issued_le_respondAll token store requests))
  have hreached := reached.respondAll requests
  rw [respondAll_eq] at hreached
  have after := hreached.consistent distinct
  -- What is current was returned by one of their writes, what was held before by an earlier one.
  obtain ⟨w, hlast, -, hrev⟩ := (after.held_iff name id current.revision).1 ⟨current, hcurrent, rfl⟩
  rw [lastWrite?_append_of_touched touched] at hlast
  have htheirs : current.revision ∈
      (writes (respondAll token [] store requests).1).map Write.revision :=
    List.mem_map.2 ⟨w, (lastWrite?_eq_some hlast).1, hrev⟩
  have hreturned := before.held_returned hheld
  have hnodup := after.distinct
  rw [writes_append, List.map_append] at hnodup
  exact (List.nodup_append.1 hnodup).2.2 _ htheirs _ hreturned

end Store

end DocStore
