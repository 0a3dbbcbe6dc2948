/- # Agreement.Template.Clause: legal clauses

A clause is a template with a name and a title. It declares the variables that it wants values for,
the kinds of document that it fits, and the form fields by which a user gives the values.
-/
import Agreement.Template.Resolution

namespace Agreement

open Json.Decoder

/-- How a form asks for a value. -/
inductive FieldType
  | text
  | textarea
  | date
  | number
  | select
  | gender
  deriving DecidableEq, Repr, Inhabited

namespace FieldType

/-- All field types. -/
def all : List FieldType := [text, textarea, date, number, select, gender]

/-- The name of a field type in saved data. -/
def name : FieldType → String
  | text => "text"
  | textarea => "textarea"
  | date => "date"
  | number => "number"
  | select => "select"
  | gender => "gender"

/-- The field type with a name. -/
def ofName? (s : String) : Option FieldType := all.find? (·.name == s)

@[simp] theorem ofName?_name (t : FieldType) : ofName? t.name = some t := by cases t <;> decide

end FieldType

/-- A field of a form that fills one variable. -/
structure FormField where
  /-- The variable that it fills. -/
  id : String
  label : String
  type : FieldType := .text
  required : Bool := true
  /-- What a selection offers. -/
  options : List String := []
  deriving DecidableEq, Repr, Inhabited

namespace FormField

/-- A required line of text. -/
def text (id label : String) : FormField := { id, label }

/-- A required selection. -/
def select (id label : String) (options : List String) : FormField :=
  { id, label, type := .select, options }

/-- A field in saved data. -/
def toJson (f : FormField) : Json :=
  .object <|
    [("id", .string f.id), ("label", .string f.label), ("type", .string f.type.name),
      ("required", .bool f.required)] ++
    Json.memberIfAny "options" .string f.options

/-- Reads a field from saved data. What is not said to be required is not. -/
def decoder {ε : Type} : Json.Decoder ε FormField :=
  record { id := "", label := "", required := false }
    [ field "id" (fun s f => { f with id := s }) string,
      field "label" (fun s f => { f with label := s }) string,
      optionalField "type" (fun t f => { f with type := t }) (choice FieldType.ofName?),
      optionalField "required" (fun b f => { f with required := b }) bool,
      optionalField "options" (fun l f => { f with options := l }) (list string) ]

end FormField

/-- A parameterized legal clause. -/
structure Clause where
  id : String
  title : String
  category : String
  /-- The template of its text. -/
  body : String
  /-- The variables that it declares. -/
  declaredVariables : List String := []
  /-- The document types that it fits; none stands for any. -/
  documentTypes : List String := []
  fields : List FormField := []
  deriving DecidableEq, Repr, Inhabited

namespace Clause

/-- The variables that the body uses, in the order of their first use. -/
def usedVariables (c : Clause) : List String := Template.variableNames c.body

/-- Whether the clause fits a document type. -/
def appliesTo (c : Clause) (documentType : String) : Bool :=
  c.documentTypes.isEmpty || c.documentTypes.contains documentType

/-- A clause in saved data. -/
def toJson (c : Clause) : Json :=
  .object <|
    [("id", .string c.id), ("title", .string c.title), ("category", .string c.category),
      ("body", .string c.body), ("variables", .array (c.declaredVariables.map .string)),
      ("document_types", .array (c.documentTypes.map .string))] ++
    Json.memberIfAny "fields" FormField.toJson c.fields

/-- Reads a clause from saved data. -/
def decoder {ε : Type} : Json.Decoder ε Clause :=
  record { id := "", title := "", category := "", body := "" }
    [ field "id" (fun s c => { c with id := s }) string,
      field "title" (fun s c => { c with title := s }) string,
      field "category" (fun s c => { c with category := s }) string,
      field "body" (fun s c => { c with body := s }) string,
      optionalField "variables" (fun l c => { c with declaredVariables := l }) (list string),
      optionalField "document_types" (fun l c => { c with documentTypes := l }) (list string),
      optionalField "fields" (fun l c => { c with fields := l }) (list FormField.decoder) ]

end Clause

end Agreement
