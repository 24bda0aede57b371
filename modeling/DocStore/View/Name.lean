/-
  Names of stored views.

  A stored view is named by its design document and its own name with a slash between them, where
  the namespace of design documents may stand in front.  The design part is read in lower case,
  because that is how design documents are filed.
-/
import DocStore.Document
import DocStore.Text.LowerCase

namespace DocStore

/-- A stored view: the design document it is in and its name there. -/
structure ViewName where
  design : String
  view : String
deriving DecidableEq, Inhabited, Repr

namespace ViewName

/-- Reads `design/view`. -/
def ofText? (text : String) : Option ViewName :=
  let name := text.toList
  let rest := (Text.dropStart? designNamespace.toList name).getD name
  match Text.pieces '/' rest with
  | [design, view] =>
      if design.isEmpty || view.isEmpty then none
      else some ⟨Text.lowerCase (String.ofList design), String.ofList view⟩
  | _ => none

/-- The identifier of the design document. -/
def designId (name : ViewName) : String :=
  designNamespace ++ name.design

end ViewName

end DocStore
