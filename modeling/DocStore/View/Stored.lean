/-
  Views inside design documents.

  A design document keeps its views under `views`, each under its name and there under `map`.  A
  definition is written as a document of a predicate and a projection.  A predicate is a document
  with one key that names its kind; a projection is the text `all` or a document with the list of
  `fields`.  Tagged documents among the literals are written as the values that they spell.

  Reading is laxer than writing.  Keys stand in any order and unknown ones are passed over, a
  definition may be given as an array of its two parts, names may be given as bytes, a word may be
  given as the only key of a document, and tagged documents among the literals are read as the
  values that they stand for.
-/
import DocStore.Extended.Condense
import DocStore.Extended.Interpret
import DocStore.View.Definition

namespace DocStore

/-! ## Writing -/

mutual

/-- The stored form of a predicate. -/
def Expr.toStored : Expr → Value
  | .and exprs => .document [("and", .array (Expr.toStoredItems exprs))]
  | .or exprs => .document [("or", .array (Expr.toStoredItems exprs))]
  | .field name op literal =>
      .document [("field",
        .document [("field", .string name), ("op", .string op.name),
          ("value", Extended.condense literal)])]

def Expr.toStoredItems : List Expr → List Value
  | [] => []
  | e :: rest => e.toStored :: Expr.toStoredItems rest

end

/-- The stored form of a projection. -/
def Projection.toStored : Projection → Value
  | .all => .string "all"
  | .fields names => .document [("fields", .array (names.map Value.string))]

namespace Definition

/-- The stored form of a definition. -/
def toStored (view : Definition) : Value :=
  .document [("predicate", view.predicate.toStored), ("projection", view.projection.toStored)]

/-- The body of a design document that holds the definition as its one view. -/
def toDesign (view : Definition) (name : String) : Document :=
  [("views", .document [(name, .document [("map", view.toStored)])])]

end Definition

/-! ## Reading -/

/-- The value under a key that has to be there. -/
def Document.require (doc : Document) (key : String) : Except DecodeError Value :=
  match doc.get? key with
  | some value => .ok value
  | none => .error (.missing key)

/-- The name of a field, as text or as bytes that spell it. -/
def nameOfStored (value : Value) : Except DecodeError String :=
  match Extended.text? value with
  | some name => .ok name
  | none => .error (.expected "the name of a field")

/-- A word that stands for one of several choices: as text, or as the only key of a document.  What
    stands under the key has to be readable and has no meaning. -/
def wordOfStored : Value → Except DecodeError String
  | .string word => return word
  | .document [(word, value)] => do
      let _ ← Extended.interpret .ignored value
      return word
  | _ => throw (.expected "a word")

/-- A comparison of a field with a literal. -/
def Expr.comparisonOfStored (fields : Document) : Except DecodeError Expr := do
  let name ← nameOfStored (← fields.require "field")
  let word ← wordOfStored (← fields.require "op")
  let some op := FieldOp.ofName? word | throw (.unknownName word)
  return .field name op (← Extended.interpret .ignored (← fields.require "value"))

mutual

/-- A predicate from its stored form. -/
def Expr.ofStored : Value → Except DecodeError Expr
  | .document [("and", .array items)] => return .and (← Expr.ofStoredItems items)
  | .document [("or", .array items)] => return .or (← Expr.ofStoredItems items)
  | .document [("field", .document fields)] => Expr.comparisonOfStored fields
  | _ => throw (.expected "a predicate")

def Expr.ofStoredItems : List Value → Except DecodeError (List Expr)
  | [] => return []
  | item :: rest => return (← Expr.ofStored item) :: (← Expr.ofStoredItems rest)

end

/-- A projection from its stored form. -/
def Projection.ofStored : Value → Except DecodeError Projection
  | .document [("fields", .array items)] => return .fields (← items.mapM nameOfStored)
  | value => do
      let word ← wordOfStored value
      if word = "all" then return .all else throw (.unknownName word)

namespace Definition

/-- A definition from the stored forms of its parts. -/
def ofParts (predicate projection : Value) : Except DecodeError Definition :=
  return ⟨← Expr.ofStored predicate, ← Projection.ofStored projection⟩

/-- A definition from its stored form. -/
def ofStored : Value → Except DecodeError Definition
  | .document fields => do
      ofParts (← Document.require fields "predicate") (← Document.require fields "projection")
  | .array (predicate :: projection :: _) => ofParts predicate projection
  | _ => throw (.expected "a view definition")

/-- The stored form of a named view, if the design document has it. -/
def stored? (design : Document) (name : String) : Option Value := do
  let views ← (← design.get? "views").asDocument?
  let view ← (← views.get? name).asDocument?
  view.get? "map"

/-- A named view of a design document. -/
def ofDesign (design : Document) (name : String) : Except StoreError Definition :=
  match stored? design name with
  | some stored => (ofStored stored).mapError StoreError.ofDecode
  | none => .error (.notFound (design.id?.getD "" ++ "/_view/" ++ name) "")

end Definition

end DocStore
