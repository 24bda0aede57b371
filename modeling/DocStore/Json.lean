/-
  Plain JSON.

  Objects hold their members in key order and each key once.  Integers and doubles are told apart;
  an integer may be anything from -2⁶³ to 2⁶⁴-1.
-/
import DocStore.Entries
import DocStore.Number.Double

namespace DocStore

inductive Json where
  | null
  | bool (b : Bool)
  | integer (n : Int)
  | double (x : Double)
  | string (s : String)
  | array (items : List Json)
  | object (members : List (String × Json))
deriving Inhabited

namespace Json

/-- An object with these members; of members with one key the last counts. -/
def ofMembers (members : List (String × Json)) : Json :=
  .object (Entries.sorted members)

end Json

end DocStore
