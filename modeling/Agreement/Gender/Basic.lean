/- # Agreement.Gender.Basic: grammatical gender

The subject of a document is one man, one woman, several people or an organization, and every word
about it agrees. `Forms` are the words that one of them calls for; where an organization has no
form of its own it takes the plural.
-/
import Agreement.Error
import Agreement.Text
import Agreement.Json.Printer
import Agreement.Json.Decoder

namespace Agreement

/-- The grammatical gender of a document's subject. -/
inductive Gender
  | male
  | female
  | plural
  | organization
  deriving DecidableEq, Repr, Inhabited

namespace Gender

/-- All genders, in the order in which they are listed and checked. -/
def all : List Gender := [male, female, plural, organization]

/-- The name of a gender in placeholders and saved data. -/
def name : Gender → String
  | male => "male"
  | female => "female"
  | plural => "plural"
  | organization => "organization"

/-- The gender with a name, in exactly that spelling. -/
def ofName? (s : String) : Option Gender := all.find? (·.name == s)

/-- The spellings that stand for a gender where people write it: names, short names and Hebrew. -/
def spellings : Gender → List String
  | male => ["male", "m", "masculine", "זכר"]
  | female => ["female", "f", "feminine", "נקבה"]
  | plural => ["plural", "p", "רבים"]
  | organization => ["organization", "organisation", "org", "o", "תאגיד"]

/-- The gender that a text names, in upper or lower case and with space around it. No letter
outside ASCII has a lower case that occurs in a spelling. -/
def parse (s : String) : Except Error Gender :=
  let word := String.ofList ((Text.trim s.toList).map Char.toLower)
  match all.find? (·.spellings.contains word) with
  | some g => .ok g
  | none => .error (.unknownGender s)

/-- A gender in saved data. -/
def toJson (g : Gender) : Json := .string g.name

/-- Reads a gender from saved data. -/
def decoder {ε : Type} : Json.Decoder ε Gender := Json.Decoder.choice ofName?

theorem mem_all (g : Gender) : g ∈ all := by cases g <;> decide

@[simp] theorem ofName?_name (g : Gender) : ofName? g.name = some g := by cases g <;> decide

end Gender

/-- The forms of one word by gender. -/
structure Forms where
  male : String
  female : String
  plural : String
  organization : Option String := none
  deriving DecidableEq, Repr, Inhabited

/-- The form for a gender. -/
def Forms.select (f : Forms) : Gender → String
  | .male => f.male
  | .female => f.female
  | .plural => f.plural
  | .organization => f.organization.getD f.plural

end Agreement
