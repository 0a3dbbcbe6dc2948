/- # Agreement.Template.Placeholder: the placeholder grammar

A template is text with placeholders between double braces: a variable `name`, the forms of a word
`gender:הוא|היא|הם` with an optional fourth one for organizations, or a word that agrees with
somebody else, `@heir:יורש`. Placeholders do not nest, nothing stands for a literal pair of braces,
and what matches none of the three is plain text.

A placeholder stands where two braces open, up to the first two that close, if what is between
holds no opening brace and is a body. Every other character is text.
-/
import Agreement.Gender.Basic

namespace Agreement

open Unicode Text

/-- A placeholder of the grammar. -/
inductive Placeholder
  /-- The value bound to a name. -/
  | variable (name : String)
  /-- The form that agrees with the subject. -/
  | forms (f : Forms)
  /-- A word that agrees with whoever a tag stands for. -/
  | agreeing (tag word : String)
  deriving DecidableEq, Repr

/-- A piece of a template, as it stands there. -/
inductive Segment
  | text (source : List Char)
  | placeholder (p : Placeholder) (source : List Char)
  deriving DecidableEq, Repr

namespace Placeholder

/-- Whether a text is a variable name: a letter or underscore, then letters, digits and
underscores. Hebrew letters count. -/
def isIdentifier : List Char → Bool
  | [] => false
  | c :: rest => (isAlphabetic c || c == '_') && rest.all fun d => isAlphanumeric d || d == '_'

/-- What opens a body that lists forms. -/
def formsMark : List Char := "gender:".toList

/-- The forms between bars, three or four of them. -/
def parseForms (body : List Char) : Option Placeholder :=
  match (body.splitOn '|').map fun f => String.ofList (trim f) with
  | [m, f, p] => some (.forms ⟨m, f, p, none⟩)
  | [m, f, p, o] => some (.forms ⟨m, f, p, some o⟩)
  | _ => none

/-- A tag without blank space and a word, with a colon between them. -/
def parseAgreeing (body : List Char) : Option Placeholder :=
  match splitOnce ':' body with
  | none => none
  | some (before, after) =>
    let tag := trim before
    let word := trim after
    if tag.isEmpty || word.isEmpty || tag.any isSpace then none
    else some (.agreeing (String.ofList tag) (String.ofList word))

/-- The placeholder with a body, if the body is one of the three. -/
def parseBody (body : List Char) : Option Placeholder :=
  let body := trim body
  match formsMark.isPrefixOf? body with
  | some rest => parseForms rest
  | none =>
    match body with
    | '@' :: rest => parseAgreeing rest
    | _ => if isIdentifier body then some (.variable (String.ofList body)) else none

/-- The source of a placeholder with a body. -/
def source (body : List Char) : List Char := '\x7b' :: '\x7b' :: body ++ ['\x7d', '\x7d']

end Placeholder

namespace Template

/-- The segment of a text, if it holds anything. -/
def textSegment (text : List Char) : List Segment := if text.isEmpty then [] else [.text text]

/-- The segments of a template of which `behind` is text that no placeholder has ended yet and
`ahead` is still to be read. What stands between two braces that open and the first two that close
after them is a placeholder if it is a body. If it is none, reading goes on after the braces that
close; if it holds a brace that opens, reading goes on one character after the first one. -/
def scan (behind ahead : List Char) : List Segment :=
  match _ : cutAtPair '\x7b' ahead with
  | none => textSegment (behind ++ ahead)
  | some (before, inside) =>
    match _ : cutAtPair '\x7d' inside with
    | none => textSegment (behind ++ ahead)
    | some (body, after) =>
      if body.contains '\x7b' then scan (behind ++ before ++ ['\x7b']) ('\x7b' :: inside)
      else
        match Placeholder.parseBody body with
        | some p =>
          textSegment (behind ++ before) ++ .placeholder p (Placeholder.source body) ::
            scan [] after
        | none => scan (behind ++ before ++ Placeholder.source body) after
termination_by ahead.length
decreasing_by
  all_goals
    have outer := congrArg List.length (eq_of_cutAtPair ‹cutAtPair '\x7b' ahead = _›)
    have inner := congrArg List.length (eq_of_cutAtPair ‹cutAtPair '\x7d' inside = _›)
    simp only [List.length_append, List.length_cons] at outer inner ⊢
    omega

/-- The text and placeholder segments of a template, in order. -/
def segments (template : List Char) : List Segment := scan [] template

end Template

namespace Segment

/-- The source of a segment. -/
def source : Segment → List Char
  | text s => s
  | placeholder _ s => s

/-- Whether a segment is a placeholder. -/
def isPlaceholder : Segment → Bool
  | text _ => false
  | placeholder _ _ => true

/-- The name of a variable segment. -/
def variableName? : Segment → Option String
  | placeholder (.variable name) _ => some name
  | _ => none

/-- The text of a text segment. -/
def text? : Segment → Option (List Char)
  | text s => some s
  | placeholder _ _ => none

/-- The tag and word of a segment that agrees with a tag. -/
def agreeing? : Segment → Option (String × String)
  | placeholder (.agreeing tag word) _ => some (tag, word)
  | _ => none

end Segment

/-- The distinct members of a list, in the order in which they first occur. -/
def firstOccurrences {α : Type} [DecidableEq α] (l : List α) : List α :=
  l.foldl (fun seen x => if seen.contains x then seen else seen ++ [x]) []

namespace Template

/-- The names of the variables of a template, in the order of their first use. -/
def variableNames (template : String) : List String :=
  firstOccurrences ((segments template.toList).filterMap Segment.variableName?)

/-- The texts outside the placeholders of a template, in order. -/
def texts (template : List Char) : List (List Char) :=
  (segments template).filterMap Segment.text?

/-- The number of placeholders in a text. -/
def placeholderCount (text : String) : Nat :=
  ((segments text.toList).filter Segment.isPlaceholder).length

end Template

end Agreement
