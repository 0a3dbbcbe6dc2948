/- # Agreement.CommandLine.Script: programs that read and write files

A script says which files it reads and writes and goes on with what comes of it. It can be carried
out on real files, or in a folder that is a value.
-/
import Agreement.Error
import Agreement.SortedMap

namespace Agreement

/-- A program that reads and writes files before it gives a result. -/
inductive Script (α : Type)
  | done (a : α)
  | read (path : String) (next : Except FileFault String → Script α)
  | write (path content : String) (next : Except FileFault Unit → Script α)

namespace Script

variable {α β : Type}

/-- Goes on with another script. -/
def bind : Script α → (α → Script β) → Script β
  | done a, f => f a
  | read path next, f => read path fun r => (next r).bind f
  | write path content next, f => write path content fun r => (next r).bind f

instance : Monad Script where
  pure := done
  bind := bind

/-- Reads a file. -/
def readFile (path : String) : Script (Except FileFault String) := read path done

/-- Writes a file. -/
def writeFile (path content : String) : Script (Except FileFault Unit) := write path content done

theorem bind_done (s : Script α) : s.bind done = s := by
  induction s with
  | done a => rfl
  | read path next ih => simp only [bind, ih]
  | write path content next ih => simp only [bind, ih]

end Script

/-- A folder of text files by path. A path is written with the names on the way to it; it may start
with `..` for each folder above, or with `/`. -/
structure Folder where
  files : SortedMap String String
  deriving DecidableEq

/-- Where names lead to. -/
inductive Place
  | folder (names : List String)
  | file (text : String)
  deriving DecidableEq, Repr

namespace Folder

/-- The greatest number of bytes in a name. -/
def maxName : Nat := 255

/-- The number of bytes that is too great for a path. -/
def maxPath : Nat := 4096

/-- The path of names. -/
def pathOf (names : List String) : String := "/".intercalate names

/-- Whether names lead to a folder: one of those above, the root, or one that a file lies in. -/
def isFolder (f : Folder) (names : List String) : Bool :=
  names.all (· == "..") || names == [""] ||
    f.files.keys.any fun path =>
      let inner := path.splitOn "/"
      names.length < inner.length && names.isPrefixOf inner

/-- The names of the folder above. The root is above itself. -/
def above (names : List String) : List String :=
  if names = [""] then names
  else match names.getLast? with
    | none => [".."]
    | some ".." => names ++ [".."]
    | some _ => names.dropLast

/-- Follows a name of a path. -/
def step (f : Folder) : Place → String → Except FileFault Place
  | .file _, _ => .error .notDirectory
  | .folder names, name =>
    let inner := names ++ [name]
    if name = "" ∨ name = "." then .ok (.folder names)
    else if name = ".." then .ok (.folder (above names))
    else if maxName < name.utf8ByteSize then .error .nameTooLong
    else match f.files.get? (pathOf inner) with
      | some text => .ok (.file text)
      | none => if f.isFolder inner then .ok (.folder inner) else .error .missing

/-- Follows the names of a path from where it starts. -/
def follow (f : Folder) (path : String) (names : List String) : Except FileFault Place :=
  if path.isEmpty then .error .missing
  else if maxPath ≤ path.utf8ByteSize then .error .nameTooLong
  else names.foldlM f.step (.folder (if path.toList.head? = some '/' then [""] else []))

/-- The text of the file at a path. -/
def read (f : Folder) (path : String) : Except FileFault String := do
  match ← f.follow path (path.splitOn "/") with
  | .file text => return text
  | .folder _ => .error .directory

/-- The folder with a text in the file at a path. The folder that the file lies in must be there,
and a slash after the name asks for a folder. -/
def write (f : Folder) (path content : String) : Except FileFault Folder := do
  let reversed := (path.splitOn "/").reverse
  let names := reversed.dropWhile (· == "")
  match ← f.follow path names.tail.reverse, names.head? with
  | .file _, _ => .error .notDirectory
  | .folder _, none => .error .directory
  | .folder outer, some name =>
    let inner := outer ++ [name]
    if name = "." ∨ name = ".." ∨ names.length < reversed.length then .error .directory
    else if maxName < name.utf8ByteSize then .error .nameTooLong
    else if f.isFolder inner then .error .directory
    else .ok ⟨f.files.insert (pathOf inner) content⟩

end Folder

/-- The result of a script in a folder, and the folder after it. -/
def Script.runIn {α : Type} (folder : Folder) : Script α → α × Folder
  | done a => (a, folder)
  | read path next => (next (folder.read path)).runIn folder
  | write path content next =>
    match folder.write path content with
    | .ok changed => (next (.ok ())).runIn changed
    | .error fault => (next (.error fault)).runIn folder

end Agreement
