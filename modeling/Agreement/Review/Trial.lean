/- # Agreement.Review.Trial: trying out clauses

A review resolves a clause for every gender and looks at what is left open. Whoever a tag stands
for has the gender of the subject then, and without values every declared variable is given its own
name in brackets.
-/
import Agreement.Review.Bypass
import Agreement.Review.Report
import Agreement.Template.Library

namespace Agreement

/-- How clauses are reviewed. -/
structure ReviewOptions where
  /-- The genders to resolve for, in order. -/
  genders : List Gender := Gender.all
  /-- Whether gender that is written by hand is reported. -/
  reportHandwritten : Bool := true
  /-- Whether what looks like a placeholder and is none is reported. -/
  reportStray : Bool := true
  /-- The values to resolve with, instead of made-up ones. -/
  values : Option (SortedMap String String) := none
  deriving DecidableEq

namespace Clause

/-- Values that show which variable they are for. -/
def sampleValues (c : Clause) : SortedMap String String :=
  .ofList (c.declaredVariables.map fun name => (name, "[" ++ name ++ "]"))

/-- The tags of the body with their words, in the order of their first use. -/
def taggedWords (c : Clause) : List (String × String) :=
  firstOccurrences ((Template.segments c.body.toList).filterMap Segment.agreeing?)

/-- What a clause is resolved with in the trial for a gender. -/
def trialContext (options : ReviewOptions) (c : Clause) (g : Gender) : Context where
  gender := g
  values := options.values.getD c.sampleValues
  overrides := .ofList (c.taggedWords.map fun p => (p.1, g))

/-- The declared variables that a resolved text leaves open: first those that still are
placeholders, then those that stand in double braces without being one. -/
def openVariables (c : Clause) (resolved : String) : List String :=
  firstOccurrences <|
    (Template.variableNames resolved).filter c.declaredVariables.contains ++
    c.declaredVariables.filter fun name =>
      Text.occursIn (Placeholder.source name.toList) resolved.toList

/-- The variables that are declared and not used, and those that are used and not declared. -/
def declarationFindings (c : Clause) : List Finding :=
  (c.declaredVariables.filter (!c.usedVariables.contains ·)).map .unused ++
    (c.usedVariables.filter (!c.declaredVariables.contains ·)).map .undeclared

/-- The words with a tag that the vocabulary does not have. -/
def wordFindings (lex : Lexicon) (c : Clause) : List Finding :=
  (c.taggedWords.filter fun p => (lex.inflect p.2 .male).isNone).map fun p =>
    .unknownWord p.1 p.2

/-- What the trial for a gender leaves open. -/
def trialFindings (lex : Lexicon) (options : ReviewOptions) (c : Clause) (g : Gender) :
    List Finding :=
  (c.openVariables (Template.resolve lex (c.trialContext options g) c.body)).map (.unresolved g)

/-- What goes round the grammar in the body. -/
def bypassFindings (options : ReviewOptions) (c : Clause) : List Finding :=
  (if options.reportHandwritten then
    (Template.handwrittenSuffixes c.body).map .handwritten else []) ++
  (if options.reportStray then (Template.strayBlanks c.body).map .stray else [])

/-- The review of a clause. -/
def review (lex : Lexicon) (options : ReviewOptions) (c : Clause) : ClauseReport :=
  .ofFindings c.id c.title <|
    c.declarationFindings ++ c.wordFindings lex ++
      options.genders.flatMap (c.trialFindings lex options) ++ c.bypassFindings options

end Clause

/-- The review of a library, clause by clause. -/
def Library.review (lex : Lexicon) (options : ReviewOptions) (lib : Library) : Report :=
  .ofClauses (lib.clauses.map (Clause.review lex options))

end Agreement
