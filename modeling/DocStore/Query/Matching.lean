/-
  Whether a document satisfies a predicate.

  A missing field fails every comparison but the two negations.  Order comparisons hold only where
  the two values have an order at all.  Membership asks whether the field equals a listed value;
  of an array field, whether one of its elements does.  A value that is no array lists itself
  alone.
-/
import DocStore.Comparand
import DocStore.Query.Expr

namespace DocStore

/-- The comparands that an operand of a membership test lists. -/
def Comparand.candidates : Comparand → List Comparand
  | .array items => items
  | single => [single]

/-- Whether a field is a member of what the operand lists. -/
def Comparand.isMember (field operand : Comparand) : Bool :=
  match field with
  | .array items => items.any fun item => operand.candidates.any fun c => c.equal item
  | single => operand.candidates.any fun c => c.equal single

/-- Whether the comparison holds of the value at a path, if there is one, and a literal. -/
def FieldOp.holds (op : FieldOp) (found : Option Value) (literal : Value) : Bool :=
  match found with
  | none => op == .ne || op == .noneOf
  | some value =>
      let left := value.comparand
      let right := literal.comparand
      match op with
      | .eq => left.equal right
      | .ne => !left.equal right
      | .gt => left.compare? right == some .gt
      | .gte => left.compare? right == some .gt || left.compare? right == some .eq
      | .lt => left.compare? right == some .lt
      | .lte => left.compare? right == some .lt || left.compare? right == some .eq
      | .oneOf => left.isMember right
      | .noneOf => !left.isMember right

mutual

/-- Whether the document satisfies the predicate. -/
def Expr.matches (doc : Document) : Expr → Bool
  | .and exprs => Expr.allMatch doc exprs
  | .or exprs => Expr.anyMatches doc exprs
  | .field name op literal => op.holds (doc.lookup name) literal

def Expr.allMatch (doc : Document) : List Expr → Bool
  | [] => true
  | e :: rest => Expr.matches doc e && Expr.allMatch doc rest

def Expr.anyMatches (doc : Document) : List Expr → Bool
  | [] => false
  | e :: rest => Expr.matches doc e || Expr.anyMatches doc rest

end

end DocStore
