/- # Agreement.CommandLine.Arguments: reading a command line

A command line holds options of the whole program, the name of a command, and the arguments of that
command. Options have a long name and perhaps a letter; a value follows them as the next argument,
after an equals sign, or directly after the letter. What starts with a hyphen is never taken for a
value, and after `--` nothing is taken for an option.
-/
import Agreement.Gender.Basic

namespace Agreement.CommandLine

/-- Why no command is carried out. -/
inductive Stop
  | misuse
  | help
  | version
  deriving DecidableEq, Repr

/-- What an option does. -/
inductive OptionKind
  | flag
  /-- Takes a value, and may be given once. -/
  | value
  /-- Takes a value, and may be given again. -/
  | values
  /-- Asks for something else than a command. -/
  | stop (reason : Stop)
  deriving DecidableEq, Repr

/-- An option. -/
structure Opt where
  long : String
  short : Option Char := none
  kind : OptionKind
  /-- Whether a value can be given to the option. -/
  accepts : String → Bool := fun _ => true

namespace Opt

/-- Whether an option takes values. -/
def takesValue (o : Opt) : Bool := o.kind == .value || o.kind == .values

/-- Whether an option can be given after others, by their long names. -/
def mayFollow (o : Opt) (earlier : List String) : Bool :=
  o.kind == .values || !earlier.contains o.long

/-- A flag. -/
def flag (long : String) : Opt := { long, kind := .flag }

/-- An option for a path, which is not empty. -/
def path (long : String) (short : Option Char) : Opt :=
  { long, short, kind := .value, accepts := (!·.isEmpty) }

/-- The options that every command has. -/
def common : List Opt :=
  [ path "lexicon" none, path "library" none,
    { long := "help", short := some 'h', kind := .stop .help } ]

end Opt

/-- What a single argument is. -/
inductive Argument
  | plain (s : String)
  | option (o : Opt) (attached : Option String)
  /-- Nothing after it is an option. -/
  | separator
  | unknown

/-- Whether an argument looks like an option. -/
def looksLikeOption (arg : String) : Bool :=
  match arg.toList with
  | '-' :: _ :: _ => true
  | _ => false

/-- An argument that spells out the name of an option. -/
def longArgument (opts : List Opt) (body : List Char) : Argument :=
  let (name, attached) := match Text.splitOnce '=' body with
    | some (name, value) => (name, some (String.ofList value))
    | none => (body, none)
  match opts.find? (·.long == String.ofList name) with
  | none => .unknown
  | some o => if attached.isSome && !o.takesValue then .unknown else .option o attached

/-- An argument that gives the letter of an option. -/
def shortArgument (opts : List Opt) (letter : Char) (rest : List Char) : Argument :=
  match opts.find? (·.short == some letter) with
  | none => .unknown
  | some o => .option o <|
    match rest with
    | [] => none
    | '=' :: value => some (String.ofList value)
    | value => some (String.ofList value)

/-- What an argument is where options may stand. -/
def Argument.of (opts : List Opt) (arg : String) : Argument :=
  match arg.toList with
  | ['-', '-'] => .separator
  | '-' :: '-' :: body => longArgument opts body
  | '-' :: letter :: rest => shortArgument opts letter rest
  | _ => .plain arg

/-- Whether an argument is plain where options may stand. -/
def Argument.isPlain (opts : List Opt) (arg : String) : Bool :=
  match Argument.of opts arg with
  | .plain _ => true
  | _ => false

/-- What a list of arguments gives: options with their values, and plain arguments. -/
structure Given where
  options : List (String × String) := []
  plain : List String := []
  /-- Whether the value right before the command cannot be given. -/
  flawed : Bool := false
  deriving DecidableEq, Repr

namespace Given

/-- Puts an option in front. -/
def consOption (o : Opt) (value : String) (g : Given) : Given :=
  { g with options := (o.long, value) :: g.options }

/-- Puts a plain argument in front. -/
def consPlain (s : String) (g : Given) : Given := { g with plain := s :: g.plain }

/-- The values of an option. -/
def values (g : Given) (long : String) : List String :=
  (g.options.filter (·.1 == long)).map (·.2)

/-- The value of an option that is given at most once. -/
def value? (g : Given) (long : String) : Option String := (g.values long).head?

/-- Whether an option is given. -/
def has (g : Given) (long : String) : Bool := !(g.values long).isEmpty

end Given

/-- How far arguments are read. -/
inductive Extent
  /-- Up to the name of a command, the first plain argument. -/
  | toCommand
  /-- Up to the end, with the plain arguments that can stand there, by their positions. -/
  | toEnd (admits : Nat → String → Bool)

/-- Reads arguments with the options that were given before, the one that waits for its value, and
the number of plain arguments before. What is wrong with an argument counts before anything that
comes after it; only a value right before the name of a command is judged after that command. Gives
what was read and the arguments after the command. -/
def readArguments (opts : List Opt) (extent : Extent) :
    (earlier : List String) → (waiting : Option Opt) → (position : Nat) → List String →
      Except Stop (Given × List String)
  | _, none, _, [] => .ok ({}, [])
  | _, some _, _, [] => .error .misuse
  | earlier, some o, k, arg :: rest =>
    if looksLikeOption arg then .error .misuse
    else if o.mayFollow earlier && o.accepts arg then do
      let (given, after) ← readArguments opts extent (o.long :: earlier) none k rest
      return (given.consOption o arg, after)
    else match extent, rest with
      -- the name of a command comes first, and the value is judged after that command
      | .toCommand, name :: after =>
        if Argument.isPlain opts name then .ok ({ plain := [name], flawed := true }, after)
        else .error .misuse
      | _, _ => .error .misuse
  | earlier, none, k, arg :: rest =>
    match Argument.of opts arg with
    | .unknown => .error .misuse
    | .separator =>
      match extent, rest with
      | .toCommand, _ :: _ => .error .misuse
      | _, _ => .ok ({ plain := rest }, [])
    | .plain s =>
      match extent with
      | .toCommand => .ok ({ plain := [s] }, rest)
      | .toEnd admits =>
        if admits k s then do
          let (given, after) ← readArguments opts extent earlier none (k + 1) rest
          return (given.consPlain s, after)
        else .error .misuse
    | .option o attached =>
      match o.kind, attached with
      | .stop reason, _ => .error reason
      | .flag, _ =>
        if o.mayFollow earlier then do
          let (given, after) ← readArguments opts extent (o.long :: earlier) none k rest
          return (given.consOption o "", after)
        else .error .misuse
      | _, some value =>
        if o.mayFollow earlier && o.accepts value then do
          let (given, after) ← readArguments opts extent (o.long :: earlier) none k rest
          return (given.consOption o value, after)
        else .error .misuse
      | _, none => readArguments opts extent earlier (some o) k rest

/-! ## Commands -/

/-- How a document is written. -/
inductive Format
  | html
  | text
  | json
  deriving DecidableEq, Repr

namespace Format

/-- All formats. -/
def all : List Format := [html, text, json]

/-- The name of a format. -/
def name : Format → String
  | html => "html"
  | text => "text"
  | json => "json"

/-- The format with a name. -/
def ofName? (s : String) : Option Format := all.find? (·.name == s)

end Format

/-- What a command resolves with, as it was given. -/
structure Bindings where
  gender : Gender := .male
  values : List String := []
  overrides : List String := []
  deriving DecidableEq, Repr

/-- A command. -/
inductive Command
  /-- Resolves a text, or the text of a file. -/
  | resolve (text file : Option String) (bindings : Bindings)
  /-- Resolves a clause of the library. -/
  | section (id : String) (bindings : Bindings)
  /-- Renders a saved document. -/
  | render (input : String) (output : Option String) (format : Format) (bare : Bool)
    (bindings : Bindings)
  /-- Makes a document of clauses. -/
  | compose (ids : List String) (title : String) (output : Option String) (format : Format)
    (bindings : Bindings)
  /-- Reviews the library; no genders stand for all of them. -/
  | validate (genders : List Gender) (asJson skipHandwritten skipStray : Bool)
  /-- Lists the clauses of the library. -/
  | templates (category : Option String)
  /-- Lists the vocabulary, or the forms of a word, or saves the vocabulary. -/
  | lexicon (word : Option String) (asJson : Bool)
  | version
  deriving DecidableEq, Repr

/-- How a command is written: its options and what it makes of the arguments. -/
structure Usage where
  name : String
  options : List Opt
  /-- Whether a plain argument can stand at a position, counted from zero. -/
  admits : Nat → String → Bool := fun _ _ => false
  /-- Nothing for the wrong number of plain arguments. -/
  build : Given → Option Command

namespace Usage

/-- The option for a gender. -/
def genderOption (kind : OptionKind) : Opt where
  long := "gender"
  short := some 'g'
  kind := kind
  accepts := fun s => (Gender.ofName? s).isSome

/-- The options of what a command resolves with. -/
def bindingOptions : List Opt :=
  [ genderOption .value,
    { long := "var", kind := .values },
    { long := "override", kind := .values } ]

/-- What a command resolves with. -/
def bindings (g : Given) : Bindings where
  gender := ((g.value? "gender").bind Gender.ofName?).getD .male
  values := g.values "var"
  overrides := g.values "override"

/-- The options of a command that writes a document. -/
def outputOptions : List Opt :=
  [ Opt.path "output" (some 'o'),
    { long := "format", kind := .value, accepts := fun s => (Format.ofName? s).isSome } ]

/-- The format in which a document is written. -/
def format (g : Given) : Format := ((g.value? "format").bind Format.ofName?).getD .html

/-- The title of a composed document that is given none. -/
def standardTitle : String := "מסמך"

/-- The commands. -/
def all : List Usage :=
  [ { name := "resolve"
      options := Opt.path "file" (some 'f') :: bindingOptions
      admits := fun k _ => k < 1
      build := fun g => match g.plain with
        | [] => some (.resolve none (g.value? "file") (bindings g))
        | [text] => some (.resolve (some text) (g.value? "file") (bindings g))
        | _ => none },
    { name := "section"
      options := bindingOptions
      admits := fun k _ => k < 1
      build := fun g => match g.plain with
        | [id] => some (.section id (bindings g))
        | _ => none },
    { name := "render"
      options := Opt.flag "bare" :: outputOptions ++ bindingOptions
      admits := fun k s => k < 1 && !s.isEmpty
      build := fun g => match g.plain with
        | [input] =>
          if input.isEmpty then none
          else some (.render input (g.value? "output") (format g) (g.has "bare") (bindings g))
        | _ => none },
    { name := "compose"
      options := { long := "title", short := some 't', kind := .value } ::
        outputOptions ++ bindingOptions
      admits := fun _ _ => true
      build := fun g => match g.plain with
        | [] => none
        | ids => some <| .compose ids ((g.value? "title").getD standardTitle) (g.value? "output")
            (format g) (bindings g) },
    { name := "validate"
      options := genderOption .values ::
        ["json", "no-legacy", "no-stale"].map Opt.flag
      build := fun g =>
        if g.plain.isEmpty then
          some <| .validate ((g.values "gender").filterMap Gender.ofName?) (g.has "json")
            (g.has "no-legacy") (g.has "no-stale")
        else none },
    { name := "templates"
      options := [{ long := "category", short := some 'c', kind := .value }]
      build := fun g => if g.plain.isEmpty then some (.templates (g.value? "category")) else none },
    { name := "lexicon"
      options := [Opt.flag "export"]
      admits := fun k _ => k < 1
      build := fun g => match g.plain with
        | [] => some (.lexicon none (g.has "export"))
        | [word] => some (.lexicon (some word) (g.has "export"))
        | _ => none },
    { name := "version"
      options := []
      build := fun g => if g.plain.isEmpty then some .version else none } ]

end Usage

/-- The files that the environment names for every run. -/
structure Environment where
  lexicon : Option String := none
  library : Option String := none
  deriving DecidableEq, Repr

/-- A command with the files that it works with; no command asks how to use the program. -/
structure Invocation where
  lexicon : Option String
  library : Option String
  command : Option Command
  deriving DecidableEq, Repr

namespace Invocation

/-- The options before a command. -/
def outerOptions : List Opt :=
  Opt.common ++ [{ long := "version", short := some 'V', kind := .stop .version }]

/-- Refuses an empty path from the environment where the option is not given. -/
def checkPath (fromEnvironment : Option String) (long : String) (g : Given) : Except Stop Unit :=
  if fromEnvironment = some "" ∧ !g.has long then .error .misuse else .ok ()

/-- Refuses the environment where it gives an empty path. -/
def checkPaths (env : Environment) (g : Given) : Except Stop Unit := do
  checkPath env.lexicon "lexicon" g
  checkPath env.library "library" g

/-- Answers a question for help, which may name one command, or asking for help itself. All that is
asked counts as names, also what looks like an option. -/
def help : (asked : List String) → Stop
  | [] => .help
  | [name] => if name = "help" || Usage.all.any (·.name == name) then .help else .misuse
  | _ => .misuse

/-- Reads a command line. Of an option given twice, after and before the command, the one after it
counts; the environment comes last. -/
def ofArguments (env : Environment) (args : List String) : Except Stop Invocation := do
  let (outer, rest) ← readArguments outerOptions .toCommand [] none 0 args
  match outer.plain with
  | [] =>
    checkPaths env outer
    return { lexicon := none, library := none, command := none }
  | name :: _ =>
    match Usage.all.find? (·.name == name) with
    | none => .error (if name = "help" then help rest else .misuse)
    | some usage =>
      let opts := usage.options ++ Opt.common
      let (inner, _) ← readArguments opts (.toEnd usage.admits) [] none 0 rest
      -- an empty path from the environment counts on both sides of the command
      checkPaths env inner
      checkPaths env outer
      match usage.build inner with
      | none => .error .misuse
      | some command =>
        -- everything that the command itself may ask for has come before this
        if outer.flawed then throw .misuse
        return {
          lexicon := (inner.value? "lexicon").or ((outer.value? "lexicon").or env.lexicon)
          library := (inner.value? "library").or ((outer.value? "library").or env.library)
          command := some command }

end Invocation

end Agreement.CommandLine
