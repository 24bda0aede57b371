/-
  Pages of results.

  A page tells how many documents matched in all, which part of them was asked for, and holds that
  part.  The settings of a service give the limit where a request names none, and a bound on any
  limit; settings are read from a JSON object or from an array of the two numbers.
-/
import DocStore.Error
import DocStore.Json
import DocStore.Query.Filters

namespace DocStore

/-- The limit where neither the request nor the settings name one. -/
def defaultLimit : Nat := 100

/-- A part of the documents that match. -/
structure Page where
  /-- The number of matches before any were passed over or cut off. -/
  total : Nat
  limit : Nat
  skip : Nat
  data : List Document
deriving Inhabited

/-- A page without matches. -/
def Page.empty : Page := ⟨0, defaultLimit, 0, []⟩

/-- A page of these documents.  What is not given takes its default, and the default of the total
    is the number of documents. -/
def Page.ofData (data : List Document) (total limit skip : Option Nat) : Page :=
  ⟨total.getD data.length, limit.getD defaultLimit, skip.getD 0, data⟩

/-- The limits of a service. -/
structure Paginate where
  /-- The limit where a request names none. -/
  default : Option Nat := none
  /-- The bound on any limit. -/
  max : Option Nat := none
deriving DecidableEq, Inhabited, Repr

namespace Paginate

/-- The limit that a request gets. -/
def limit (settings : Paginate) (requested : Option Nat) : Nat :=
  let wanted := (requested.or settings.default).getD defaultLimit
  match settings.max with
  | some bound => min wanted bound
  | none => wanted

/-- A count or null. -/
def count? : Json → Except DecodeError (Option Nat)
  | .null => return none
  | .integer n =>
      if 0 ≤ n ∧ n ≤ maxCount then return some n.toNat else throw (.expected "a count")
  | _ => throw (.expected "a count")

/-- The count under a key, if the key is there. -/
def countAt? (members : Entries Json) (key : String) : Except DecodeError (Option Nat) :=
  match members.get? key with
  | some value => count? value
  | none => return none

/-- Settings from JSON.  Other keys of an object are passed over; an array has at most two items. -/
def decode : Json → Except DecodeError Paginate
  | .object members => return ⟨← countAt? members "default", ← countAt? members "max"⟩
  | .array [] => return {}
  | .array [first] => return ⟨← count? first, none⟩
  | .array [first, second] => return ⟨← count? first, ← count? second⟩
  | _ => throw (.expected "pagination settings")

/-- Settings from JSON. -/
def ofJson (value : Json) : Except StoreError Paginate :=
  (decode value).mapError StoreError.ofDecode

end Paginate

end DocStore
