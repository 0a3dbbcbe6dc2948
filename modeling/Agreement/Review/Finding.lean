/- # Agreement.Review.Finding: what can be wrong with a clause

Only a variable that stays open fails a clause. Everything else is a warning.
-/
import Agreement.Gender.Basic

namespace Agreement

open Json.Decoder

/-- How serious a finding is. -/
inductive Severity
  /-- The clause passes all the same. -/
  | warning
  /-- The clause fails. -/
  | error
  deriving DecidableEq, Repr

/-- The name of a severity. -/
def Severity.name : Severity → String
  | warning => "warning"
  | error => "error"

/-- Something that is wrong with a clause. -/
inductive Finding
  /-- A declared variable that resolution for a gender leaves open. -/
  | unresolved (gender : Gender) (name : String)
  /-- A declared variable that the body does not use. -/
  | unused (name : String)
  /-- A variable of the body that is not declared. -/
  | undeclared (name : String)
  /-- Gender that is written by hand. -/
  | handwritten (text : String)
  /-- What looks like a placeholder and is none. -/
  | stray (text : String)
  /-- A word with a tag that the vocabulary does not have. -/
  | unknownWord (tag word : String)
  deriving DecidableEq, Repr, Inhabited

/-- The kinds of finding. -/
inductive FindingKind
  | unresolved
  | unused
  | undeclared
  | handwritten
  | stray
  | unknownWord
  deriving DecidableEq, Repr

namespace FindingKind

/-- All kinds. -/
def all : List FindingKind := [unresolved, unused, undeclared, handwritten, stray, unknownWord]

/-- The code of a kind in saved reports. -/
def code : FindingKind → String
  | unresolved => "unresolved_variable"
  | unused => "declared_but_unused"
  | undeclared => "used_but_undeclared"
  | handwritten => "legacy_gender_marker"
  | stray => "stale_placeholder"
  | unknownWord => "unknown_override_lemma"

/-- The kind with a code. -/
def ofCode? (s : String) : Option FindingKind := all.find? (·.code == s)

/-- How serious the findings of a kind are. -/
def severity : FindingKind → Severity
  | unresolved => .error
  | _ => .warning

@[simp] theorem ofCode?_code (k : FindingKind) : ofCode? k.code = some k := by
  cases k <;> decide

end FindingKind

namespace Finding

/-- The kind of a finding. -/
def kind : Finding → FindingKind
  | unresolved _ _ => .unresolved
  | unused _ => .unused
  | undeclared _ => .undeclared
  | handwritten _ => .handwritten
  | stray _ => .stray
  | unknownWord _ _ => .unknownWord

/-- The code of a finding. -/
def code (f : Finding) : String := f.kind.code

/-- How serious a finding is. -/
def severity (f : Finding) : Severity := f.kind.severity

/-- Whether a finding fails its clause. -/
def isError (f : Finding) : Bool := f.severity == .error

/-- The wording of a finding. -/
def message : Finding → String
  | unresolved g name => "variable '" ++ name ++ "' left unresolved for " ++ g.name
  | unused name => "variable '" ++ name ++ "' is declared but never used"
  | undeclared name => "variable '" ++ name ++ "' is used but not declared"
  | handwritten text => "legacy gender marker '" ++ text ++ "'"
  | stray text => "stale placeholder '" ++ text ++ "'"
  | unknownWord tag word => "override '@" ++ tag ++ "' names unknown word '" ++ word ++ "'"

/-- What a saved finding holds besides its type. -/
def members : Finding → List (String × Json)
  | unresolved g name => [("gender", g.toJson), ("name", .string name)]
  | unused name => [("name", .string name)]
  | undeclared name => [("name", .string name)]
  | handwritten text => [("text", .string text)]
  | stray text => [("text", .string text)]
  | unknownWord tag word => [("tag", .string tag), ("word", .string word)]

/-- A finding in a saved report. -/
def toJson (f : Finding) : Json := .object (("type", .string f.code) :: f.members)

/-- Reads the one text of a finding. -/
def oneText {ε : Type} (name : String) (make : String → Finding) : Json.Decoder ε Finding :=
  record (make "") [field name (fun s _ => make s) string]

/-- Reads a finding of a kind. -/
def ofKindDecoder {ε : Type} : FindingKind → Json.Decoder ε Finding
  | .unresolved =>
    (record (Gender.male, "")
      [ field "gender" (fun g p => (g, p.2)) Gender.decoder,
        field "name" (fun s p => (p.1, s)) string ]).map fun p => unresolved p.1 p.2
  | .unused => oneText "name" unused
  | .undeclared => oneText "name" undeclared
  | .handwritten => oneText "text" handwritten
  | .stray => oneText "text" stray
  | .unknownWord =>
    (record ("", "")
      [ field "tag" (fun s p => (s, p.2)) string,
        field "word" (fun s p => (p.1, s)) string ]).map fun p => unknownWord p.1 p.2

/-- Reads a finding from a saved report. -/
def decoder {ε : Type} : Json.Decoder ε Finding :=
  union "type" FindingKind.ofCode? ofKindDecoder

end Finding

end Agreement
