/-
  Running views against a store.

  A plan names a stored view or carries a definition.  A definition is first evaluated as it is.
  A store that refuses to do so gets the definition as a stored view in a design document of its
  own, which is invoked and then removed again, whatever the invocation gave; whether the removal
  succeeds has no influence on the result.
-/
import DocStore.Store.Request

namespace DocStore

/-- What a find runs. -/
inductive Plan where
  /-- A stored view. -/
  | stored (name : ViewName)
  /-- A view that is not stored. -/
  | transient (view : Definition)
deriving Inhabited

namespace Plan

variable {σ : Type}

/-- What the names of design documents begin with that hold a definition for one evaluation. -/
def temporaryDesign : String := "revlayer-"

/-- The name of the view in such a design document. -/
def temporaryView : String := "temp"

/-- The stored view that holds a definition for one evaluation, by the token that was drawn for
    it. -/
def temporaryName (fresh : String) : ViewName :=
  ⟨temporaryDesign ++ fresh, temporaryView⟩

/-- Stores the definition, invokes it and removes it again. -/
def throughStored (backend : Backend σ) (database : String) (view : Definition)
    (options : ViewOptions) : Action σ StoreError ViewResult := do
  let token ← backend.token
  let name : ViewName := ⟨temporaryDesign ++ token, temporaryView⟩
  let receipt ← backend.answer (.createView database name view)
  let result ← (backend.answer (.invokeView database name options)).attempt
  let _ ← (backend.answer (.removeDocument database receipt.id receipt.revision)).attempt
  .ofExcept result

/-- Runs the plan. -/
def run (plan : Plan) (backend : Backend σ) (database : String) (options : ViewOptions) :
    Action σ StoreError ViewResult :=
  match plan with
  | .stored name => backend.answer (.invokeView database name options)
  | .transient view => do
      match ← (backend.answer (.evaluateTransient database view options)).attempt with
      | .error .viewUnsupported => throughStored backend database view options
      | result => .ofExcept result

end Plan

end DocStore
