/- # Agreement.Document.Page: page layout

Paper size, orientation, margins and running texts. Lengths are millimetres, and sizes are given
for portrait.
-/
import Agreement.Document.Style

namespace Agreement

open Json.Decoder

/-- A paper size. -/
inductive PageSize
  | a4
  | letter
  | legal
  | custom (width height : Binary32)
  deriving DecidableEq, Repr, Inhabited

namespace PageSize

/-- Width and height in portrait. -/
def dimensions : PageSize → Binary32 × Binary32
  | a4 => (210, 297)
  | letter => (.ofTenths 2159, .ofTenths 2794)
  | legal => (.ofTenths 2159, .ofTenths 3556)
  | custom width height => (width, height)

/-- The name of a size in markup. -/
def name : PageSize → String
  | a4 => "A4"
  | letter => "letter"
  | legal => "legal"
  | custom _ _ => "custom"

/-- A size in saved data: a name, or an object that holds the measures. -/
def toJson : PageSize → Json
  | a4 => .string "a4"
  | letter => .string "letter"
  | legal => .string "legal"
  | custom width height =>
    .object [("custom", .object [("width", .measure width), ("height", .measure height)])]

/-- Reads the measures of a custom size. -/
def measuresDecoder {ε : Type} : Json.Decoder ε (Binary32 × Binary32) :=
  record (0, 0)
    [ field "width" (fun x p => (x, p.2)) measure,
      field "height" (fun x p => (p.1, x)) measure ]

/-- Reads a size from saved data. -/
def decoder {ε : Type} : Json.Decoder ε PageSize :=
  variant fun s =>
    if s == "a4" then some (.plain a4)
    else if s == "letter" then some (.plain letter)
    else if s == "legal" then some (.plain legal)
    else if s == "custom" then
      some (.holding (measuresDecoder.map fun p => custom p.1 p.2))
    else none

end PageSize

/-- Which way a page lies. -/
inductive Orientation
  | portrait
  | landscape
  deriving DecidableEq, Repr, Inhabited

namespace Orientation

/-- All orientations. -/
def all : List Orientation := [portrait, landscape]

/-- The name of an orientation, in saved data and in markup. -/
def name : Orientation → String
  | portrait => "portrait"
  | landscape => "landscape"

/-- The orientation with a name. -/
def ofName? (s : String) : Option Orientation := all.find? (·.name == s)

@[simp] theorem ofName?_name (o : Orientation) : ofName? o.name = some o := by
  cases o <;> decide

end Orientation

/-- The margins of a page. -/
structure Margins where
  top : Binary32
  right : Binary32
  bottom : Binary32
  left : Binary32
  deriving DecidableEq, Repr, Inhabited

namespace Margins

/-- The same margin on every side. -/
def uniform (x : Binary32) : Margins := ⟨x, x, x, x⟩

/-- The margins of a page that nobody set. -/
def standard : Margins := ⟨25, 20, 25, 20⟩

/-- Margins in saved data. -/
def toJson (m : Margins) : Json :=
  .object [("top", .measure m.top), ("right", .measure m.right), ("bottom", .measure m.bottom),
    ("left", .measure m.left)]

/-- Reads margins from saved data; all four must be there. -/
def decoder {ε : Type} : Json.Decoder ε Margins :=
  record standard
    [ field "top" (fun x m => { m with top := x }) measure,
      field "right" (fun x m => { m with right := x }) measure,
      field "bottom" (fun x m => { m with bottom := x }) measure,
      field "left" (fun x m => { m with left := x }) measure ]

end Margins

/-- The layout of the pages of a document. -/
structure Page where
  size : PageSize := .a4
  orientation : Orientation := .portrait
  margins : Margins := .standard
  header : Option String := none
  footer : Option String := none
  deriving DecidableEq, Repr, Inhabited

namespace Page

/-- Width and height as the page lies. -/
def dimensions (p : Page) : Binary32 × Binary32 :=
  match p.orientation with
  | .portrait => p.size.dimensions
  | .landscape => (p.size.dimensions.2, p.size.dimensions.1)

/-- A page layout in saved data. -/
def toJson (p : Page) : Json :=
  .object [("size", p.size.toJson), ("orientation", .string p.orientation.name),
    ("margins", p.margins.toJson), ("header", .ofOption .string p.header),
    ("footer", .ofOption .string p.footer)]

/-- Reads a page layout from saved data. -/
def decoder {ε : Type} : Json.Decoder ε Page :=
  record {}
    [ optionalField "size" (fun x p => { p with size := x }) PageSize.decoder,
      optionalField "orientation" (fun x p => { p with orientation := x })
        (choice Orientation.ofName?),
      optionalField "margins" (fun x p => { p with margins := x }) Margins.decoder,
      optionalField "header" (fun x p => { p with header := x }) (option string),
      optionalField "footer" (fun x p => { p with footer := x }) (option string) ]

end Page

end Agreement
