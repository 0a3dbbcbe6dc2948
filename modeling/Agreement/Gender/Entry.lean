/- # Agreement.Gender.Entry: entries of a vocabulary

An entry holds the forms of a word and says whether the word is also looked for with the definite
article in front of it.
-/
import Agreement.Gender.Basic

namespace Agreement

open Json.Decoder

/-- The forms of a word, and whether it takes the definite article. -/
structure Entry where
  forms : Forms
  takesArticle : Bool := true
  deriving DecidableEq, Repr, Inhabited

namespace Entry

/-- The form for a gender. -/
def form (e : Entry) (g : Gender) : String := e.forms.select g

/-- Whether a word and its three main forms hold more than blank space. -/
def isValid (word : String) (e : Entry) : Bool :=
  !([word, e.forms.male, e.forms.female, e.forms.plural].any (Text.isBlank ·.toList))

/-- An entry in saved data. The organization form is left out when there is none. -/
def toJson (e : Entry) : Json :=
  .object <|
    [("male", .string e.forms.male), ("female", .string e.forms.female),
      ("plural", .string e.forms.plural)] ++
    Json.memberIfSome "organization" .string e.forms.organization ++
    [("takes_article", .bool e.takesArticle)]

/-- Reads an entry from saved data. -/
def decoder {ε : Type} : Json.Decoder ε Entry :=
  record ⟨⟨"", "", "", none⟩, true⟩
    [ field "male" (fun s e => { e with forms.male := s }) string,
      field "female" (fun s e => { e with forms.female := s }) string,
      field "plural" (fun s e => { e with forms.plural := s }) string,
      optionalField "organization" (fun s e => { e with forms.organization := s })
        (option string),
      optionalField "takes_article" (fun b e => { e with takesArticle := b }) bool ]

end Entry

end Agreement
