/-
  Backends that are watched or disturbed.

  `Backend.traced` keeps what was asked and what came of it.  `Backend.faulty` disturbs a backend
  by a list of faults: each concerns some requests, counts those, and acts on all of them or on
  one of them by its number.  The first fault that acts decides what happens; the others still
  count.  With these two, statements about every success and failure of single requests can be
  tried out, and what was asked for can be seen.
-/
import DocStore.Store.Request

namespace DocStore

/-! ## Watching -/

/-- A request with what came of it. -/
structure Exchange where
  request : Request
  outcome : Except StoreError request.Answer

/-- A backend's state with the exchanges so far, latest first. -/
structure Traced (σ : Type) where
  store : σ
  exchanges : List Exchange := []

namespace Traced

variable {σ : Type}

/-- The exchanges in the order in which they were made. -/
def trace (state : Traced σ) : List Exchange :=
  state.exchanges.reverse

/-- Acts on the watched state. -/
def within {ε α : Type} (action : Action σ ε α) : Action (Traced σ) ε α :=
  action.onPart Traced.store fun store state => { state with store := store }

/-- Keeps an exchange. -/
def keep (exchange : Exchange) (state : Traced σ) : Traced σ :=
  { state with exchanges := exchange :: state.exchanges }

end Traced

/-- The backend with a record of what it is asked and answers. -/
def Backend.traced {σ : Type} (backend : Backend σ) : Backend (Traced σ) where
  answer request := do
    let outcome ← (Traced.within (backend.answer request)).attempt
    modify (Traced.keep ⟨request, outcome⟩)
    .ofExcept outcome
  token := Traced.within backend.token

/-! ## Disturbing -/

/-- What a fault does to a request. -/
inductive Disturbance where
  /-- The request fails and the store is not asked. -/
  | fail (error : StoreError)
  /-- The request is answered without asking the store, if it asks whether a database exists. -/
  | exists (answer : Bool)
  /-- After a document was read, others write these fields to it; the answer is what was read. -/
  | mergeAfter (changes : Document)
deriving Inhabited

/-- A disturbance of the requests that it concerns: of all, or of the one with a number from one. -/
structure Fault where
  concerns : Request → Bool
  nth : Option Nat := none
  disturbance : Disturbance
  /-- The number of requests that it concerned so far. -/
  seen : Nat := 0

namespace Fault

/-- The fault after a request. -/
def counted (fault : Fault) (request : Request) : Fault :=
  if fault.concerns request then { fault with seen := fault.seen + 1 } else fault

/-- Whether the fault, having counted a request, acts on it. -/
def acts (fault : Fault) (request : Request) : Bool :=
  fault.concerns request && (match fault.nth with
    | some n => fault.seen == n
    | none => true)

end Fault

/-- A backend's state with the faults that disturb it. -/
structure Disturbed (σ : Type) where
  store : σ
  faults : List Fault

namespace Disturbed

variable {σ : Type}

/-- Acts on the disturbed state. -/
def within {ε α : Type} (action : Action σ ε α) : Action (Disturbed σ) ε α :=
  action.onPart Disturbed.store fun store state => { state with store := store }

/-- Counts a request and gives the disturbance that acts on it, if any. -/
def notice (request : Request) (state : Disturbed σ) : Option Disturbance × Disturbed σ :=
  let faults := state.faults.map (·.counted request)
  ((faults.find? (·.acts request)).map Fault.disturbance, { state with faults := faults })

end Disturbed

namespace Backend

variable {σ : Type}

/-- Reads a document and then has others write to it. -/
def mergingAfter (backend : Backend σ) (changes : Document) :
    (request : Request) → Action σ StoreError request.Answer
  | .getDocument database id => do
      let doc ← backend.answer (.getDocument database id)
      let _ ← (backend.answer (.mergeDocument database id changes)).attempt
      return doc
  | request => backend.answer request

/-- Answers a request under a disturbance. -/
def disturbed (backend : Backend σ) (disturbance : Disturbance) (request : Request) :
    Action σ StoreError request.Answer :=
  match disturbance, request with
  | .fail error, _ => throw error
  | .exists answer, .databaseExists _ => return answer
  | .exists _, request => backend.answer request
  | .mergeAfter changes, request => backend.mergingAfter changes request

/-- The backend under faults. -/
def faulty (backend : Backend σ) : Backend (Disturbed σ) where
  answer request := do
    let disturbance ← modifyGet (Disturbed.notice request)
    match disturbance with
    | some disturbance => Disturbed.within (backend.disturbed disturbance request)
    | none => Disturbed.within (backend.answer request)
  token := Disturbed.within backend.token

end Backend

end DocStore
