/-
  Texts without the character NUL.

  Where texts are written one behind the other, NUL marks where each ends, so it cannot stand
  inside.  Whether a text is free of it is decided once, when the text is taken.
-/

namespace DocStore.Text

/-- A text in which NUL does not occur. -/
structure NulFree where
  text : String
  nul_not_mem : '\x00' ∉ text.toList
deriving DecidableEq

namespace NulFree

/-- A text, if NUL does not occur in it. -/
def ofText? (text : String) : Option NulFree :=
  if h : '\x00' ∈ text.toList then none else some ⟨text, h⟩

/-- The same characters in the order of their code points. -/
def sorted (t : NulFree) : NulFree where
  text := String.ofList (t.text.toList.mergeSort fun a b => a.toNat ≤ b.toNat)
  nul_not_mem := by simpa using t.nul_not_mem

end NulFree

end DocStore.Text
