/- # Agreement.Template.Library: collections of clauses

A library lists clauses in order. It is data: the built-in one is a starting point, and any other
can be loaded in its place.
-/
import Agreement.Template.Clause

namespace Agreement

/-- An ordered collection of clauses. -/
structure Library where
  clauses : List Clause
  deriving DecidableEq, Repr, Inhabited

namespace Library

/-- A list with its first member of an identity replaced. -/
def replaceFirst (c : Clause) : List Clause → Option (List Clause)
  | [] => none
  | d :: rest => if d.id = c.id then some (c :: rest) else (replaceFirst c rest).map (d :: ·)

/-- The library with a clause in place of the first of the same id, or at the end. -/
def add (lib : Library) (c : Clause) : Library :=
  ⟨(replaceFirst c lib.clauses).getD (lib.clauses ++ [c])⟩

/-- The first clause with an id. -/
def get? (lib : Library) (id : String) : Option Clause := lib.clauses.find? (·.id == id)

/-- The first clause with an id, which must be there. -/
def require (lib : Library) (id : String) : Except Error Clause :=
  match lib.get? id with
  | some c => .ok c
  | none => .error (.templateNotFound id)

/-- The clauses of a category. -/
def byCategory (lib : Library) (category : String) : List Clause :=
  lib.clauses.filter (·.category == category)

/-- The clauses that fit a document type. -/
def forDocumentType (lib : Library) (documentType : String) : List Clause :=
  lib.clauses.filter (·.appliesTo documentType)

/-- The categories, in the order in which they first occur. -/
def categories (lib : Library) : List String :=
  firstOccurrences (lib.clauses.map (·.category))

/-- A library in saved data. -/
def toJson (lib : Library) : Json := .array (lib.clauses.map Clause.toJson)

/-- The library of a saved list of clauses. -/
def ofJson (text : String) : Except LoadError Library :=
  match Json.decode (Json.Decoder.list Clause.decoder) text with
  | .error fault => .error (.json fault)
  | .ok clauses => .ok ⟨clauses⟩

end Library

end Agreement
