/- # Agreement.Error: what can go wrong

Text never fails to resolve: unknown words and open placeholders stay as they are. What can fail is
the building of documents and vocabularies, and the loading of files. An integer that gets too great
for its type is no error of that sort: nothing looks for it, and it stops the program.
-/
import Agreement.Json.Tree

namespace Agreement

/-- Why a document or a vocabulary cannot be built as asked. -/
inductive Error
  /-- A table without rows. -/
  | emptyTable
  /-- Content of a kind that a block does not hold. -/
  | contentMismatch (kind content : String)
  | invalidHeadingLevel (level : Nat)
  /-- A cell that spans nothing, or more rows than follow. -/
  | invalidSpan (row cell : Nat)
  | cellOutOfRange (row cell : Nat)
  | blockOutOfRange (index count : Nat)
  | unknownGender (name : String)
  /-- A vocabulary entry with a blank word or form. -/
  | invalidEntry (word : String)
  | templateNotFound (id : String)
  deriving DecidableEq, Repr

/-- The wording of an error. -/
def Error.message : Error → String
  | emptyTable => "Table must contain at least one row"
  | contentMismatch kind content =>
    "Block kind '" ++ kind ++ "' cannot hold " ++ content ++ " content"
  | invalidHeadingLevel level =>
    "Invalid heading level " ++ toString level ++ " (expected 1-4)"
  | invalidSpan row cell =>
    "Invalid cell span at row " ++ toString row ++ ", cell " ++ toString cell ++
      ": spans must be at least 1 and fit the table"
  | cellOutOfRange row cell =>
    "Table has no cell at row " ++ toString row ++ ", cell " ++ toString cell
  | blockOutOfRange index count =>
    "Block index " ++ toString index ++ " is out of range (document has " ++ toString count ++
      " blocks)"
  | unknownGender name => "Unknown gender: " ++ name
  | invalidEntry word =>
    "Invalid lexicon entry '" ++ word ++
      "': lemma and male/female/plural forms must be non-empty"
  | templateNotFound id => "Template not found: " ++ id

/-- Why an operation stops before its end. -/
inductive Halt
  /-- It is refused, and whoever asked for it is told why. -/
  | refused (cause : Error)
  /-- An integer passes its width. Nobody is told: the program itself stops. -/
  | overflow
  deriving DecidableEq, Repr

/-- Why a value cannot be read from JSON text. -/
abbrev ReadFault := Json.Fault Error

/-- Why a file cannot be used. -/
inductive FileFault
  | missing
  /-- A part of the path before the last one is a file. -/
  | notDirectory
  | directory
  /-- A name in the path, or the path, has too many bytes. -/
  | nameTooLong
  /-- The bytes of the file are not UTF-8. -/
  | notText
  | denied
  deriving DecidableEq, Repr

/-- The wording of a file fault. -/
def FileFault.message : FileFault → String
  | missing => "No such file or directory (os error 2)"
  | notDirectory => "Not a directory (os error 20)"
  | directory => "Is a directory (os error 21)"
  | nameTooLong => "File name too long (os error 36)"
  | notText => "stream did not contain valid UTF-8"
  | denied => "Permission denied (os error 13)"

/-- Why something cannot be loaded. -/
inductive LoadError
  | file (fault : FileFault)
  | json (fault : ReadFault)
  | invalid (cause : Error)
  deriving DecidableEq, Repr

/-- The wording of a fault of JSON text. -/
def ReadFault.message : ReadFault → String
  | .text .early => "the text ends too early"
  | .text .malformed => "the text is not JSON"
  | .mismatch => "a value has the wrong type"
  | .missing field => "missing field '" ++ field ++ "'"
  | .refused cause => cause.message

/-- The wording of a load error. -/
def LoadError.message : LoadError → String
  | file fault => "I/O error: " ++ fault.message
  | json fault => "JSON error: " ++ fault.message
  | invalid cause => cause.message

end Agreement
