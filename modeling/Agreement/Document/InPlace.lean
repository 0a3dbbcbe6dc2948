/- # Agreement.Document.InPlace: changing documents and tables where they are

The operations on documents and tables give new ones. An editor holds one document and changes it
step by step: it takes an identifier, puts a block in, notes the time. Here the operations are such
steps. A step that fails keeps what the steps before it have changed, so nothing but their order
sees to it that a document is left as it was. Identifiers are counted without a guard, so to take
one can also stop the program.
-/
import Agreement.Document.Basic

namespace Agreement

/-- A change of something where it is, which can fail on the way. -/
abbrev Change (ε σ α : Type) := EStateM ε σ α

namespace Change

/-- What is there after a change, whether it was made or failed. -/
def left {ε σ α : Type} : EStateM.Result ε σ α → σ
  | .ok _ s => s
  | .error _ s => s

end Change

namespace Table.InPlace

/-- Edits a cell, and looks at its span after that. An edit that breaks the span is taken back. -/
def updateCell (row cell : Nat) (edit : Cell → Cell) : Change Error Table Unit := do
  match (← get).cell? row cell with
  | none => throw (.cellOutOfRange row cell)
  | some before =>
    modify (·.setCell row cell (edit before))
    unless (edit before).spanFits row (← get).rows.length do
      modify (·.setCell row cell before)
      throw (.invalidSpan row cell)

end Table.InPlace

namespace Document.InPlace

/-- Fails for an index that no block has. -/
def check (index : Nat) : Change Halt Document Unit := do
  ofExcept (((← get).checkIndex index).mapError .refused)

/-- Sets the counter behind a number. Behind the greatest number there is none. -/
def countPast (n : UInt64) : Change Halt Document Unit := do
  if n.toNat + 1 < UInt64.size then modify fun d => { d with nextId := n + 1 }
  else throw .overflow

/-- Takes the identifier at which the counter is. -/
def takeNext : Change Halt Document UInt64 := do
  let id := (← get).nextId
  countPast id
  return id

/-- Takes an identifier. A counter of zero is first set behind the identifiers of the blocks. -/
def takeId : Change Halt Document UInt64 := do
  let d ← get
  if d.nextId = 0 then countPast (maxId d.blocks)
  takeNext

/-- The block at an index. -/
def blockAt (index : Nat) : Change Halt Document Block := do
  let d ← get
  match d.blocks[index]? with
  | some b => return b
  | none => throw (.refused (.blockOutOfRange index d.blocks.length))

/-- Takes the block at an index out; those after it move up. -/
def takeOut (index : Nat) : Change Halt Document Block := do
  let b ← blockAt index
  modify fun d => { d with blocks := d.blocks.eraseIdx index }
  return b

/-- Puts a block in at an index; those from there on move down. -/
def putIn (index : Nat) (b : Block) : Change Halt Document Unit :=
  modify fun d => { d with blocks := d.blocks.insertIdx index b }

/-- Notes the time of a change. -/
def touch (now : Timestamp) : Change Halt Document Unit :=
  modify fun d => { d with metadata := { d.metadata with modified := now } }

/-- Puts a block at the end; gives its identifier. -/
def push (now : Timestamp) (b : Block) : Change Halt Document UInt64 := do
  let id ← takeId
  modify fun d => { d with blocks := d.blocks ++ [{ b with id }] }
  touch now
  return id

/-- Puts a block in at an index up to the number of blocks; gives its identifier. -/
def insert (now : Timestamp) (index : Nat) (b : Block) : Change Halt Document UInt64 := do
  let count := (← get).blocks.length
  if count < index then throw (.refused (.blockOutOfRange index count))
  let id ← takeId
  putIn index { b with id }
  touch now
  return id

/-- Takes out the block at an index. -/
def remove (now : Timestamp) (index : Nat) : Change Halt Document Block := do
  check index
  let old ← takeOut index
  touch now
  return old

/-- Puts a block in the place of the one at an index, whose identifier it takes; gives the old
one. -/
def replace (now : Timestamp) (index : Nat) (b : Block) : Change Halt Document Block := do
  check index
  let old ← blockAt index
  modify fun d => { d with blocks := d.blocks.set index { b with id := old.id } }
  touch now
  return old

/-- Moves the block at one index so that it stands at another: it is taken out and put in again. -/
def moveBlock (now : Timestamp) (source target : Nat) : Change Halt Document Unit := do
  check source
  check target
  if source ≠ target then
    let b ← takeOut source
    putIn target b
    touch now

end Document.InPlace

end Agreement
