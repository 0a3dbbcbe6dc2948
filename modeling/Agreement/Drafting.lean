/- # Agreement.Drafting: everything a document is drafted with

A vocabulary, a library of clauses, a context and the choices of rendering and review. Documents are
composed from clauses of the library and keep their placeholders; they are resolved when they are
rendered, with the vocabulary that is current then.
-/
import Agreement.Gender.Registry
import Agreement.Gender.Vocabulary
import Agreement.Template.BuiltIn
import Agreement.Render.Counting
import Agreement.Render.PlainText
import Agreement.Review.Trial

namespace Agreement

/-- What documents are drafted with. -/
structure Drafting where
  registry : Registry := ⟨.hebrew⟩
  library : Library := .builtIn
  context : Context := {}
  rendering : RenderOptions := {}
  reviewing : ReviewOptions := {}

namespace Drafting

/-- The current vocabulary. -/
def lexicon (d : Drafting) : Lexicon := d.registry.current

/-- Adds one entry to the vocabulary. -/
def addEntry (d : Drafting) (word : String) (e : Entry) : Except Error Drafting :=
  (d.registry.add word e).map fun registry => { d with registry }

/-- Adds the entries of a saved vocabulary. -/
def addLexicon (d : Drafting) (text : String) : Except LoadError Drafting := do
  let extra ← Lexicon.ofJson text
  let registry ← (d.registry.merge extra).mapError .invalid
  return { d with registry }

/-- Takes the clauses of a saved library instead. -/
def useLibrary (d : Drafting) (text : String) : Except LoadError Drafting :=
  (Library.ofJson text).map fun library => { d with library }

/-- Sets the gender of the subject. -/
def setGender (d : Drafting) (gender : Gender) : Drafting :=
  { d with context := { d.context with gender } }

/-- Binds a variable to a value. -/
def bindValue (d : Drafting) (name value : String) : Drafting :=
  { d with context := { d.context with values := d.context.values.insert name value } }

/-- Says which gender a tag stands for. -/
def bindTag (d : Drafting) (tag : String) (gender : Gender) : Drafting :=
  { d with context := { d.context with overrides := d.context.overrides.insert tag gender } }

/-- The text of a template. -/
def resolve (d : Drafting) (template : String) : String :=
  Template.resolve d.lexicon d.context template

/-- The text of a clause of the library. -/
def resolveClause (d : Drafting) (id : String) : Except Error String :=
  (d.library.require id).map fun c => d.resolve c.body

/-- The blocks of a clause: its title as a heading and its body as a paragraph. -/
def clauseBlocks (d : Drafting) (id : String) : Except Error (List Block) :=
  (d.library.require id).map fun c =>
    [{ kind := .heading2, content := .text c.title }, .paragraph c.body]

/-- A document of clauses under a title. The first clause that is not in the library refuses it. Its
blocks are numbered from one, which leaves room for all that a memory can hold. -/
def compose (d : Drafting) (now : Timestamp) (title : String) (ids : List String) :
    Except Error Document := do
  let clauses ← ids.mapM d.clauseBlocks
  let blocks := { kind := .heading1, content := .text title } :: clauses.flatten
  return blocks.foldl (fun doc b => (doc.push now b).2) (Document.titled now title)

/-- The markup of a document, unless an indentation stops the program. -/
def html (d : Drafting) (doc : Document) : Except Halt String :=
  doc.guarded d.rendering (doc.html d.lexicon d.context d.rendering)

/-- The markup of a document with its counts, unless an indentation stops the program. -/
def render (d : Drafting) (doc : Document) : Except Halt Rendering :=
  doc.guarded d.rendering (doc.render d.lexicon d.context d.rendering doc.keepAll)

/-- The counts of a document, unless an indentation stops the program. -/
def statistics (d : Drafting) (doc : Document) : Except Halt Statistics :=
  (d.render doc).map (·.statistics)

/-- The plain text of a document. -/
def plainText (d : Drafting) (doc : Document) : String :=
  doc.plainText d.lexicon d.context d.rendering

/-- The review of the library. -/
def review (d : Drafting) : Report := d.library.review d.lexicon d.reviewing

end Drafting

end Agreement
