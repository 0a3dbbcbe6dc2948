/- # Agreement.Document.Style: how text looks

Every property of a text style may be left open, and is then filled from a style below it. As style
declarations of markup the properties come in a fixed order.
-/
import Agreement.Json.Printer
import Agreement.Json.Decoder

namespace Agreement

open Json.Decoder

/-- Horizontal alignment. Documents run right to left, so `right` is where lines start. -/
inductive Alignment
  | right
  | left
  | center
  | justify
  deriving DecidableEq, Repr, Inhabited

namespace Alignment

/-- All alignments. -/
def all : List Alignment := [right, left, center, justify]

/-- The name of an alignment, in saved data and in declarations. -/
def name : Alignment → String
  | right => "right"
  | left => "left"
  | center => "center"
  | justify => "justify"

/-- The alignment with a name. -/
def ofName? (s : String) : Option Alignment := all.find? (·.name == s)

@[simp] theorem ofName?_name (a : Alignment) : ofName? a.name = some a := by cases a <;> decide

end Alignment

/-- The properties of text; an open one is filled from the style below. -/
structure TextStyle where
  bold : Option Bool := none
  italic : Option Bool := none
  underline : Option Bool := none
  alignment : Option Alignment := none
  /-- The height of a line as a multiple of the font size. -/
  lineHeight : Option Binary32 := none
  color : Option String := none
  /-- The font size in points. -/
  fontSize : Option Binary32 := none
  deriving DecidableEq, Repr, Inhabited

namespace TextStyle

/-- Whether every property is open. -/
def isEmpty (s : TextStyle) : Bool := s == {}

/-- A style with its open properties filled from another one. -/
def filledFrom (s base : TextStyle) : TextStyle where
  bold := s.bold.or base.bold
  italic := s.italic.or base.italic
  underline := s.underline.or base.underline
  alignment := s.alignment.or base.alignment
  lineHeight := s.lineHeight.or base.lineHeight
  color := s.color.or base.color
  fontSize := s.fontSize.or base.fontSize

/-- The style declarations of the properties that are set. -/
def declarations (s : TextStyle) : List String :=
  (if s.bold = some true then ["font-weight: bold"] else []) ++
  (if s.italic = some true then ["font-style: italic"] else []) ++
  (if s.underline = some true then ["text-decoration: underline"] else []) ++
  (s.alignment.map fun a => "text-align: " ++ a.name).toList ++
  (s.lineHeight.map fun x => "line-height: " ++ x.plainText).toList ++
  (s.color.map fun c => "color: " ++ c).toList ++
  (s.fontSize.map fun x => "font-size: " ++ x.plainText ++ "pt").toList

/-- A style in saved data. -/
def toJson (s : TextStyle) : Json :=
  .object
    [ ("bold", .ofOption .bool s.bold),
      ("italic", .ofOption .bool s.italic),
      ("underline", .ofOption .bool s.underline),
      ("alignment", .ofOption (fun a => .string a.name) s.alignment),
      ("line_height", .ofOption .measure s.lineHeight),
      ("color", .ofOption .string s.color),
      ("font_size", .ofOption .measure s.fontSize) ]

/-- Reads a style from saved data. -/
def decoder {ε : Type} : Json.Decoder ε TextStyle :=
  record {}
    [ optionalField "bold" (fun x s => { s with bold := x }) (option bool),
      optionalField "italic" (fun x s => { s with italic := x }) (option bool),
      optionalField "underline" (fun x s => { s with underline := x }) (option bool),
      optionalField "alignment" (fun x s => { s with alignment := x })
        (option (choice Alignment.ofName?)),
      optionalField "line_height" (fun x s => { s with lineHeight := x }) (option measure),
      optionalField "color" (fun x s => { s with color := x }) (option string),
      optionalField "font_size" (fun x s => { s with fontSize := x }) (option measure) ]

/-- Filling from the empty style changes nothing. -/
@[simp] theorem filledFrom_empty (s : TextStyle) : s.filledFrom {} = s := by
  cases s; simp [filledFrom]

end TextStyle

end Agreement
