/- # Agreement.Json.Tree: what JSON text turned out to be

Reading JSON has two stages. The first one brings the text into a tree without knowing what is
wanted; the second one goes through the tree in the order of the text and knows. Whichever finds
the first problem in the text reports it. So the first stage does not fail: where the text stops
being JSON, the tree stops with the flaw it met.

Some texts are harmless as long as nobody asks for their value. A number may be too large and a
string may hold half of a surrogate pair; both are kept as values without content.
-/
import Agreement.Number.Binary32

namespace Agreement.Json

/-- Why a text is not JSON. -/
inductive Flaw
  /-- The text ends too early. -/
  | early
  /-- The text goes on with something that cannot stand there. -/
  | malformed
  deriving DecidableEq, Repr

/-- Why a value cannot be read as a type, `ε` being the type's own reasons. -/
inductive Fault (ε : Type)
  | text (flaw : Flaw)
  /-- The value has the wrong type, an unknown name, a number out of bounds or a field twice. -/
  | mismatch
  | missing (field : String)
  /-- The type's own check refuses the value. -/
  | refused (cause : ε)
  deriving DecidableEq, Repr

/-- The place where a text stops being JSON. What is wrong with it depends on what is wanted
there. -/
structure Break where
  /-- The flaw that somebody meets who wants a value. -/
  read : Flaw
  /-- The flaw that somebody meets who skips a value. -/
  skip : Flaw
  /-- The flaw that somebody meets who wants nothing but the end of an array or object. -/
  close : Flaw
  /-- The flaw that somebody meets who wants a name. -/
  name : Flaw
  /-- Whether the text there begins like `null`. -/
  null : Bool
  deriving DecidableEq, Repr

/-- The break that looks the same to everybody. -/
def Break.of (flaw : Flaw) : Break := ⟨flaw, flaw, flaw, flaw, false⟩

/-- The end of the text after a comma. -/
def Break.afterComma : Break := { Break.of .early with close := .malformed }

/-- A number as it was written: a whole number of 64 bits, or a signed 64 bit magnitude. -/
inductive Numeral
  | whole (i : Int)
  | real (negative : Bool) (magnitude : Number.Scaled)
  deriving DecidableEq, Repr

/-- The measure nearest to a number. -/
def Numeral.toBinary32 : Numeral → Binary32
  | whole i => Binary32.ofRatio (i < 0) i.natAbs 1
  | real negative m => Binary32.ofRatio negative m.numerator m.denominator

/-- A JSON text, up to its first flaw. An item or member that is broken is the last one. -/
inductive Tree
  | null
  | bool (b : Bool)
  /-- A number; `none` when it is too large. -/
  | number (value : Option Numeral)
  /-- A string; `none` when an escape in it is half a surrogate pair. -/
  | string (value : Option String)
  /-- An array, and what is wrong with the text after the last item. -/
  | array (items : List Tree) (stop : Option Break)
  /-- An object with its members in order, and what is wrong with the text after the last. -/
  | object (members : List (Option String × Tree)) (stop : Option Break)
  | broken (b : Break)

end Agreement.Json
