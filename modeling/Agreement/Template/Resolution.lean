/- # Agreement.Template.Resolution: from templates to text

Resolution goes once over the segments of a template. Text agrees with the subject, forms are
chosen by its gender, words with a tag agree with whoever the tag stands for, and variables get
their values. What cannot be resolved stays as it is. Values are inserted as they are and never
looked at again.

The same can be done in stages, each on the text that the one before it left.
-/
import Agreement.Gender.Matching
import Agreement.Template.Placeholder

namespace Agreement

/-- What a template is resolved with. -/
structure Context where
  /-- The gender of the subject. -/
  gender : Gender := .male
  /-- The values of variables. -/
  values : SortedMap String String := .empty
  /-- The genders of whom tags stand for. -/
  overrides : SortedMap String Gender := .empty
  deriving DecidableEq

namespace Template

/-- Segments with the seams that their neighbours make. -/
def withSeams (before : Bool) : List Segment → List (Seams × Segment)
  | [] => []
  | s :: rest =>
    (⟨before, rest.head?.any Segment.isPlaceholder⟩, s) :: withSeams s.isPlaceholder rest

/-- The segments of a template, each with its seams. -/
def seamedSegments (template : String) : List (Seams × Segment) :=
  withSeams false (segments template.toList)

/-- The word of an agreeing placeholder, inflected. A tag that stands for nobody may name a gender
itself. -/
def inflectFor (lex : Lexicon) (overrides : SortedMap String Gender) (tag word : String) :
    Option String :=
  match overrides.get? tag with
  | some g => lex.inflect word g
  | none => match Gender.parse tag with
    | .ok g => lex.inflect word g
    | .error _ => none

/-- The text of an optional replacement of a source. -/
def orSource (source : List Char) : Option String → List Char
  | some s => s.toList
  | none => source

/-- The text of a segment after resolution. -/
def resolveSegment (lex : Lexicon) (ctx : Context) : Seams × Segment → List Char
  | (seams, .text s) => lex.inAgreement ctx.gender seams s
  | (_, .placeholder (.forms f) _) => (f.select ctx.gender).toList
  | (_, .placeholder (.agreeing tag word) source) =>
    orSource source (inflectFor lex ctx.overrides tag word)
  | (_, .placeholder (.variable name) source) => orSource source (ctx.values.get? name)

/-- The text of a template. -/
def resolve (lex : Lexicon) (ctx : Context) (template : String) : String :=
  String.ofList ((seamedSegments template).flatMap (resolveSegment lex ctx))

/-! ## Stages -/

/-- The template with the words of its text in agreement; placeholders stay. -/
def agree (lex : Lexicon) (g : Gender) (template : String) : String :=
  String.ofList <| (seamedSegments template).flatMap fun
    | (seams, .text s) => lex.inAgreement g seams s
    | (_, segment) => segment.source

/-- The template with some of its segments replaced. -/
def replaceSegments (f : Segment → Option String) (template : String) : String :=
  String.ofList ((segments template.toList).flatMap fun s => orSource s.source (f s))

/-- What the stage of the tags puts in place of a segment. -/
def inflected? (lex : Lexicon) (overrides : SortedMap String Gender) : Segment → Option String
  | .placeholder (.agreeing tag word) _ => inflectFor lex overrides tag word
  | _ => none

/-- What the stage of the forms puts in place of a segment. -/
def chosenForm? (g : Gender) : Segment → Option String
  | .placeholder (.forms f) _ => some (f.select g)
  | _ => none

/-- What the stage of the values puts in place of a segment. -/
def value? (values : SortedMap String String) : Segment → Option String
  | .placeholder (.variable name) _ => values.get? name
  | _ => none

/-- The template with the words inflected whose tag stands for somebody. -/
def resolveOverrides (lex : Lexicon) (overrides : SortedMap String Gender) : String → String :=
  replaceSegments (inflected? lex overrides)

/-- The template with its forms chosen. -/
def resolveForms (g : Gender) : String → String := replaceSegments (chosenForm? g)

/-- The template with the values of its variables. -/
def substitute (values : SortedMap String String) : String → String :=
  replaceSegments (value? values)

end Template

end Agreement
