/- # Agreement.Render.Markup: writing markup

Markup is written piece by piece. Every text and every attribute value from outside goes through
`escape`, which turns the five characters that could end it into entities.
-/
import Agreement.Text

namespace Agreement.Markup

/-- One character of a text or an attribute value. -/
def escapeChar (c : Char) : List Char :=
  if c = '&' then ['&', 'a', 'm', 'p', ';']
  else if c = '<' then ['&', 'l', 't', ';']
  else if c = '>' then ['&', 'g', 't', ';']
  else if c = '"' then ['&', 'q', 'u', 'o', 't', ';']
  else if c = '\'' then ['&', '#', '3', '9', ';']
  else [c]

/-- A text with its special characters as entities. -/
def escape (s : List Char) : List Char := s.flatMap escapeChar

/-- A text as it stands in markup. -/
def escaped (s : String) : String := String.ofList (escape s.toList)

/-- The style attribute of declarations, with the space before it; nothing without any. -/
def styleAttribute (declarations : List String) : String :=
  if declarations.isEmpty then ""
  else " style=\"" ++ escaped ("; ".intercalate declarations) ++ "\""

end Agreement.Markup
