/- # Agreement.CommandLine.Run: carrying out a command

Every command is a script: it reads the files that it was told to, and gives what to print. What
goes wrong is reported after what was printed.
-/
import Agreement.Drafting
import Agreement.CommandLine.Arguments
import Agreement.CommandLine.Script

namespace Agreement.CommandLine

/-- Why a command fails. -/
inductive Failure
  /-- A vocabulary, a library or a document cannot be loaded. -/
  | load (cause : LoadError)
  /-- A file cannot be read as text or written. -/
  | file (fault : FileFault)
  | invalid (cause : Error)
  /-- There is neither a text nor a file to resolve. -/
  | noText
  /-- A binding without an equals sign. -/
  | notBound (arg : String)
  /-- A binding without a name. -/
  | unnamed (arg : String)
  | unknownWord (word : String)
  /-- So many clauses failed their review. -/
  | review (failed : Nat)
  deriving DecidableEq, Repr

/-- The wording of a failure. -/
def Failure.message : Failure → String
  | load cause => cause.message
  | file fault => fault.message
  | invalid cause => cause.message
  | noText => "Provide TEXT or --file"
  | notBound arg => "Expected NAME=VALUE, got '" ++ arg ++ "'"
  | unnamed arg => "Empty name in '" ++ arg ++ "'"
  | unknownWord word => "'" ++ word ++ "' is not in the lexicon"
  | review failed => toString failed ++ " templates failed validation"

/-- A script that can fail. -/
abbrev Job := ExceptT Failure Script

/-- What a command comes to: text for the output, and perhaps a failure. -/
structure Outcome where
  output : String
  failure : Option Failure := none
  deriving DecidableEq, Repr

/-- The outcome that prints a line. -/
def Outcome.line (s : String) : Outcome := { output := s ++ "\n" }

namespace Job

/-- Reads a file that is to be loaded. -/
def loadFile (path : String) : Job String := do
  match ← Script.readFile path with
  | .ok text => return text
  | .error fault => throw (.load (.file fault))

/-- Reads a text file. -/
def readText (path : String) : Job String := do
  match ← Script.readFile path with
  | .ok text => return text
  | .error fault => throw (.file fault)

/-- Writes a text file. -/
def writeText (path content : String) : Job Unit := do
  match ← Script.writeFile path content with
  | .ok _ => return
  | .error fault => throw (.file fault)

/-- The result of something that can fail. -/
def ofExcept {ε α : Type} (cause : ε → Failure) : Except ε α → Job α
  | .ok a => return a
  | .error e => throw (cause e)

end Job

/-! ## What commands work with -/

/-- The name and the value of a binding, which an equals sign separates. -/
def splitBinding (arg : String) : Except Failure (String × String) :=
  match Text.splitOnce '=' arg.toList with
  | none => .error (.notBound arg)
  | some (name, value) =>
    if (Text.trim name).isEmpty then .error (.unnamed arg)
    else .ok (String.ofList (Text.trim name), String.ofList value)

/-- The bindings of arguments; of two for one name the later counts. -/
def splitBindings (args : List String) : Except Failure (SortedMap String String) :=
  (args.mapM splitBinding).map SortedMap.ofList

/-- Sets the bindings that were given: gender, values, then what tags stand for. -/
def bindAll (b : Bindings) (d : Drafting) : Except Failure Drafting := do
  let values ← splitBindings b.values
  let d := values.entries.foldl (fun d p => d.bindValue p.1 p.2) (d.setGender b.gender)
  let tags ← splitBindings b.overrides
  tags.entries.foldlM (fun d p => do
    let g ← (Gender.parse p.2).mapError .invalid
    return d.bindTag p.1 g) d

/-- The drafting of the files that were given. -/
def prepare (lexicon library : Option String) : Job Drafting := do
  let d : Drafting := {}
  let d ← match lexicon with
    | none => pure d
    | some path => Job.ofExcept .load (d.addLexicon (← Job.loadFile path))
  match library with
  | none => return d
  | some path => Job.ofExcept .load (d.useLibrary (← Job.loadFile path))

/-- The drafting of the files and the bindings that were given. -/
def prepareWith (lexicon library : Option String) (b : Bindings) : Job Drafting := do
  Job.ofExcept id (bindAll b (← prepare lexicon library))

/-! ## Commands -/

/-- The text of a document in a format. The options here keep the standard step of indentation, which
is small enough for every level. -/
def write (d : Drafting) (doc : Document) : Format → String
  | .html => doc.html d.lexicon d.context d.rendering
  | .text => d.plainText doc
  | .json => doc.save .pretty

/-- Prints a text, or saves it and says so. -/
def emit (output : Option String) (content : String) : Job Outcome := do
  match output with
  | none => return .line content
  | some path =>
    Job.writeText path content
    return .line ("Saved to " ++ path)

/-- Lines, each with its end. -/
def unlines (lines : List String) : String := String.join (lines.map (· ++ "\n"))

/-- A rule under a heading. -/
def underline (width : Nat) : String := String.ofList (List.replicate width '─')

/-- Prints the review of the library. -/
def reviewOutcome (asJson : Bool) (r : Report) : Outcome where
  output :=
    if asJson then r.save .pretty ++ "\n"
    else r.textWith fun c => "[" ++ c.status ++ "] " ++ c.id ++ " " ++ c.title
  failure := if r.isSuccess then none else some (.review r.failed)

/-- How the command line reviews. -/
def reviewOptions (genders : List Gender) (skipHandwritten skipStray : Bool) : ReviewOptions where
  genders := if genders.isEmpty then Gender.all else genders
  reportHandwritten := !skipHandwritten
  reportStray := !skipStray

/-- The lines about a clause in the list of a category. -/
def clauseLines (c : Clause) : List String :=
  ("  " ++ c.id ++ " " ++ c.title) ::
    if c.declaredVariables.isEmpty then []
    else ["    variables: " ++ ", ".intercalate c.declaredVariables]

/-- The lines about a category. -/
def categoryLines (lib : Library) (category : String) : List String :=
  [category, underline 40] ++ (lib.byCategory category).flatMap clauseLines ++ [""]

/-- A text with blanks before it up to a width. -/
def padLeft (width : Nat) (s : String) : String :=
  String.ofList (List.replicate (width - s.length) ' ') ++ s

/-- The lines of the forms of a word. -/
def formLines (lex : Lexicon) (word : String) : List String :=
  Gender.all.filterMap fun g =>
    (lex.inflect word g).map fun form => padLeft 14 g.name ++ ": " ++ form

/-- The lines of a vocabulary. -/
def lexiconLines (lex : Lexicon) : List String :=
  ("Lexicon (version " ++ toString lex.version ++ ", " ++ toString lex.size ++ " entries)") ::
    underline 60 ::
    lex.entries.entries.map fun (word, e) =>
      "  " ++ word ++ " → " ++ e.form .female ++ " | " ++ e.form .plural ++ " | " ++
        e.form .organization

/-- The name of the program with its version. -/
def nameAndVersion : String := "tavnit 0.3.1"

/-- What to print about the version. -/
def aboutLines : List String :=
  [nameAndVersion, "Gendered Hebrew legal template tool", "", "License: MIT"]

/-- What to print where there is no command. -/
def usageLines : List String :=
  ["Usage: tavnit <COMMAND>", "       tavnit --help for more information"]

/-- Carries out a command. -/
def execute (now : Timestamp) (lexicon library : Option String) : Command → Job Outcome
  | .resolve text file b => do
    let text ← match text, file with
      | some text, _ => pure text
      | none, some path => Job.readText path
      | none, none => throw .noText
    let d ← prepareWith lexicon library b
    return .line (d.resolve text)
  | .section id b => do
    let d ← prepareWith lexicon library b
    return .line (← Job.ofExcept .invalid (d.resolveClause id))
  | .render input output format bare b => do
    let d ← prepareWith lexicon library b
    let d := { d with rendering := { wrapArticle := !bare } }
    let doc ← Job.ofExcept (.load <| .json ·) (Document.load now (← Job.loadFile input))
    emit output (write d doc format)
  | .compose ids title output format b => do
    let d ← prepareWith lexicon library b
    let doc ← Job.ofExcept .invalid (d.compose now title ids)
    emit output (write d doc format)
  | .validate genders asJson skipHandwritten skipStray => do
    let d ← prepare lexicon library
    let options := reviewOptions genders skipHandwritten skipStray
    return reviewOutcome asJson (d.library.review d.lexicon options)
  | .templates category => do
    let d ← prepare lexicon library
    let categories := match category with
      | some c => [c]
      | none => d.library.categories
    return { output := unlines (categories.flatMap (categoryLines d.library)) }
  | .lexicon word asJson => do
    let d ← prepare lexicon none
    if asJson then return .line (d.lexicon.toJson.text .pretty)
    match word with
    | none => return { output := unlines (lexiconLines d.lexicon) }
    | some word =>
      let lines := formLines d.lexicon word
      if lines.isEmpty then throw (.unknownWord word)
      return { output := unlines lines }
  | .version => return { output := unlines aboutLines }

/-! ## The program -/

/-- What a run of the program leaves behind. -/
structure Exit where
  code : Nat
  output : String := ""
  errors : String := ""
  deriving DecidableEq, Repr

/-- The exit of a run that stops before any command. -/
def Exit.ofStop : Stop → Exit
  | .misuse => { code := 2, errors := unlines usageLines }
  | .help => { code := 0, output := unlines usageLines }
  | .version => { code := 0, output := nameAndVersion ++ "\n" }

/-- The exit of a run that came to an outcome. -/
def Exit.ofOutcome (o : Outcome) : Exit :=
  match o.failure with
  | none => { code := 0, output := o.output }
  | some f => { code := 1, output := o.output, errors := "Error: " ++ f.message ++ "\n" }

/-- Runs the program with arguments. -/
def run (now : Timestamp) (env : Environment) (args : List String) : Script Exit :=
  match Invocation.ofArguments env args with
  | .error stop => return .ofStop stop
  | .ok inv =>
    match inv.command with
    | none => return { code := 0, output := unlines usageLines }
    | some command => do
      match ← (execute now inv.lexicon inv.library command).run with
      | .ok outcome => return .ofOutcome outcome
      | .error failure => return .ofOutcome { output := "", failure := some failure }

end Agreement.CommandLine
