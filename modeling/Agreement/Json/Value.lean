/- # Agreement.Json.Value: what saved data holds

The values that the library writes. Numbers are counts or measures, and an object lists its
members in the order in which they are written.
-/
import Agreement.Number.Text

namespace Agreement

/-- A JSON value to be written. -/
inductive Json
  | null
  | bool (b : Bool)
  /-- A count, an identifier or an index. -/
  | count (n : Nat)
  | measure (x : Binary32)
  | string (s : String)
  | array (items : List Json)
  | object (members : List (String × Json))
  deriving Inhabited

namespace Json

/-- The value of an optional field that is written as `null` when it is absent. -/
def ofOption {α : Type} (write : α → Json) : Option α → Json
  | none => null
  | some x => write x

/-- The member of an optional field that is left out when it is absent. -/
def memberIfSome {α : Type} (name : String) (write : α → Json) : Option α → List (String × Json)
  | none => []
  | some x => [(name, write x)]

/-- The member of a list that is left out when it is empty. -/
def memberIfAny {α : Type} (name : String) (write : α → Json) (l : List α) :
    List (String × Json) :=
  if l.isEmpty then [] else [(name, array (l.map write))]

end Json

end Agreement
