/- # Agreement.Json.Decoder: from trees to types

A decoder says what a type wants of a tree. It goes through the tree in the order of the text, so
the first problem wins, be it a flaw of the text or a value of the wrong type. It is told where the
tree comes from and how many arrays and objects may still be opened; a text may nest 127 of them.

A record is filled field by field from a blank. Its fields may stand in any order, unknown ones are
skipped, and what is missing is found when the object ends. A record may also be written as an
array of its fields in order.
-/
import Agreement.Json.Reader

namespace Agreement.Json

/-- Where a tree comes from when a type reads it. -/
inductive Origin
  /-- From the text, whose flaws show only as far as it is read. -/
  | text
  /-- From a sound text that was kept until it was known what to read it as. -/
  | kept
  /-- It was a value from the start. -/
  | value
  deriving DecidableEq, Repr

/-- The surroundings of a tree: its origin, and room for so many more nested arrays and objects. -/
structure Source where
  room : Nat
  origin : Origin := .text
  deriving DecidableEq, Repr

/-- How a type reads a tree. -/
abbrev Decoder (ε α : Type) := Source → Tree → Except (Fault ε) α

/-- How many arrays and objects may be open at once. -/
def maxRoom : Nat := 127

/-- The surroundings of what stands in an array or object, if it may be opened at all. -/
def Source.enter {ε : Type} (src : Source) : Except (Fault ε) Source :=
  match src.room with
  | 0 => .error (.text .malformed)
  | room + 1 => .ok { src with room }

/-- What is wrong with a tree that is no text: its type. -/
def Fault.ofValue {ε : Type} : Fault ε → Fault ε
  | .text _ => .mismatch
  | fault => fault

namespace Decoder

variable {ε α β : Type}

/-- What a reader reports about a value of the wrong type. It has read the value unless that is
an array or an object. -/
def wrongType : Tree → Fault ε
  | .broken b => .text b.read
  | .number none => .text .malformed
  | .string none => .text .malformed
  | _ => .mismatch

/-- Passes the end of an array or object. -/
def passEnd : Option Break → Except (Fault ε) Unit
  | none => .ok ()
  | some b => .error (.text b.read)

/-- Passes the end of an array or object that can hold no more. -/
def passClose : Option Break → Except (Fault ε) Unit
  | none => .ok ()
  | some b => .error (.text b.close)

/-! ## Values that nobody asked for -/

mutual

/-- Skips a value: only the grammar counts. -/
def skip : Tree → Except (Fault ε) Unit
  | .broken b => .error (.text b.skip)
  | .array items stop => do skipAll items; skipEnd stop
  | .object members stop => do skipMembers members; skipEnd stop
  | _ => .ok ()

/-- Skips the items of an array. -/
def skipAll : List Tree → Except (Fault ε) Unit
  | [] => .ok ()
  | item :: items => do skip item; skipAll items

/-- Skips the members of an object. -/
def skipMembers : List (Option String × Tree) → Except (Fault ε) Unit
  | [] => .ok ()
  | (_, value) :: members => do skip value; skipMembers members

/-- Passes the end of an array or object without reading it. -/
def skipEnd : Option Break → Except (Fault ε) Unit
  | none => .ok ()
  | some b => .error (.text b.skip)

end

mutual

/-- Reads a value of any type and forgets it: numbers, strings and nesting count as well. -/
def anything : (room : Nat) → Tree → Except (Fault ε) Unit
  | _, .broken b => .error (.text b.read)
  | _, .number none => .error (.text .malformed)
  | _, .string none => .error (.text .malformed)
  | room, .array items stop =>
    match room with
    | 0 => .error (.text .malformed)
    | room + 1 => do anythingAll room items; passEnd stop
  | room, .object members stop =>
    match room with
    | 0 => .error (.text .malformed)
    | room + 1 => do anythingMembers room members; passEnd stop
  | _, _ => .ok ()

/-- Reads the items of an array and forgets them. -/
def anythingAll (room : Nat) : List Tree → Except (Fault ε) Unit
  | [] => .ok ()
  | item :: items => do anything room item; anythingAll room items

/-- Reads the members of an object and forgets them. -/
def anythingMembers (room : Nat) : List (Option String × Tree) → Except (Fault ε) Unit
  | [] => .ok ()
  | (none, _) :: _ => .error (.text .malformed)
  | (some _, value) :: members => do anything room value; anythingMembers room members

end

/-- A decoder for a tree of another origin than the text. All of it has been read by then, so what
is left to go wrong is its type. -/
def withOrigin (origin : Origin) (d : Decoder ε α) : Decoder ε α := fun src t =>
  (d { src with origin } t).mapError Fault.ofValue

/-- A decoder followed by a function. -/
def map (f : α → β) (d : Decoder ε α) : Decoder ε β := fun src t => (d src t).map f

/-! ## Scalars -/

/-- A string. -/
def string : Decoder ε String
  | _, .string (some s) => .ok s
  | _, t => .error (wrongType t)

/-- A truth value. -/
def bool : Decoder ε Bool
  | _, .bool b => .ok b
  | _, t => .error (wrongType t)

/-- A whole number up to a bound. -/
def natural (bound : Nat) : Decoder ε Nat
  | _, .number (some (.whole i)) =>
    if 0 ≤ i ∧ i ≤ bound then .ok i.toNat else .error .mismatch
  | _, t => .error (wrongType t)

/-- A number of 8 bits. -/
def uint8 : Decoder ε UInt8 := (natural 0xFF).map UInt8.ofNat

/-- A number of 32 bits. -/
def uint32 : Decoder ε UInt32 := (natural 0xFFFFFFFF).map UInt32.ofNat

/-- A number of 64 bits. -/
def uint64 : Decoder ε UInt64 := (natural maxWord).map UInt64.ofNat

/-- A measure, from any number. -/
def measure : Decoder ε Binary32
  | _, .number (some n) => .ok n.toBinary32
  | _, t => .error (wrongType t)

/-- Nothing: `null`. -/
def null : Decoder ε Unit
  | _, .null => .ok ()
  | _, t => .error (wrongType t)

/-- Whether a tree is an array or an object, which take room. -/
def opens : Tree → Bool
  | .array _ _ => true
  | .object _ _ => true
  | _ => false

/-- Nothing, found by looking at a value of any type: an array or object is opened before it is
refused. -/
def nothing : Decoder ε Unit := fun src t =>
  if opens t then do
    let _ ← src.enter
    .error .mismatch
  else null src t

/-- What stands under a name that needs nothing: `null`. An empty object does as well once it has
been kept. -/
def emptiness : Decoder ε Unit
  | _, .null => .ok ()
  | src, .object [] none => if src.origin = .kept then .ok () else .error .mismatch
  | _, t => .error (wrongType t)

/-- A value or `null`. What begins like `null` is read as `null`. -/
def option (d : Decoder ε α) : Decoder ε (Option α)
  | _, .null => .ok none
  | src, .broken b => if b.null then .error (.text b.read) else (d src (.broken b)).map some
  | src, t => (d src t).map some

/-! ## Lists and maps -/

/-- Reads items in order. -/
def items (d : Tree → Except (Fault ε) α) : List Tree → Except (Fault ε) (List α)
  | [] => .ok []
  | t :: rest => do
    let x ← d t
    let xs ← items d rest
    return x :: xs

/-- A list of values. -/
def list (d : Decoder ε α) : Decoder ε (List α)
  | src, .array ts stop => do
    let xs ← items (d (← src.enter)) ts
    passEnd stop
    return xs
  | _, t => .error (wrongType t)

/-- Reads the members of an object into a map, one after the other. -/
def mapMembers (key : String → Except (Fault ε) β) (d : Tree → Except (Fault ε) α) :
    List (Option String × Tree) → Except (Fault ε) (List (β × α))
  | [] => .ok []
  | (none, _) :: _ => .error (.text .malformed)
  | (some name, t) :: rest => do
    let k ← key name
    let x ← d t
    let xs ← mapMembers key d rest
    return (k, x) :: xs

/-- An object read as a list of bindings, in the order of the text. -/
def bindings (key : String → Except (Fault ε) β) (d : Decoder ε α) : Decoder ε (List (β × α))
  | src, .object members stop => do
    let l ← mapMembers key (d (← src.enter)) members
    passEnd stop
    return l
  | _, t => .error (wrongType t)

/-! ## Choices -/

/-- What a name in a choice stands for. -/
inductive Variant (ε α : Type)
  /-- A value of its own. -/
  | plain (a : α)
  /-- What the record under the name makes. -/
  | holding (d : Decoder ε α)

/-- Whether a tree of this origin may be read as the record under a name. Only a value is refused
that is no object. -/
def holdsFields (origin : Origin) : Tree → Bool
  | .object _ _ => true
  | _ => origin ≠ .value

/-- One of several names. A name that stands for a value is written as a string, or as the only
member of an object with nothing in it; one that holds something is always written as the only
member of an object. Anything else cannot stand where a name is wanted. A tree that does not come
from the text is searched for more members first. -/
def variant (read : String → Option (Variant ε α)) : Decoder ε α
  | _, .string (some s) => match read s with
    | some (.plain a) => .ok a
    | _ => .error .mismatch
  | src, .object members stop => do
    let src ← src.enter
    match members with
    | [] => .error (.text ((stop.map (·.name)).getD .malformed))
    | (none, _) :: _ => .error (.text .malformed)
    | (some s, t) :: rest =>
      if src.origin ≠ .text ∧ !rest.isEmpty then .error .mismatch
      else do
        let a ← match read s with
          | none => .error .mismatch
          | some (.plain a) => emptiness.map (fun _ => a) src t
          | some (.holding d) =>
            if holdsFields src.origin t then d src t else .error .mismatch
        if rest.isEmpty then passClose stop else .error (.text .malformed)
        return a
  | _, .broken b => .error (.text b.name)
  | _, _ => .error (.text .malformed)

/-- One of several names that each stand for a value. -/
def choice (read : String → Option α) : Decoder ε α := variant fun s => (read s).map .plain

/-- One of several names, written as a string. -/
def name (read : String → Option α) : Decoder ε α
  | _, .string (some s) => match read s with
    | some a => .ok a
    | none => .error .mismatch
  | _, t => .error (wrongType t)

/-! ## Records -/

/-- A field of a record: its name, whether it must be there, and how to fill it in. -/
structure Field (ε α : Type) where
  name : String
  required : Bool
  fill : α → Decoder ε α

/-- A field that must be there. -/
def field (name : String) (set : β → α → α) (d : Decoder ε β) : Field ε α :=
  ⟨name, true, fun a => d.map (set · a)⟩

/-- A field that keeps its blank value when it is missing. -/
def optionalField (name : String) (set : β → α → α) (d : Decoder ε β) : Field ε α :=
  ⟨name, false, fun a => d.map (set · a)⟩

/-- A record on its way: what has been filled in, and the names of those fields. -/
structure Filling (α : Type) where
  value : α
  given : List String

/-- Fills in the members of an object in the order of the text. -/
def fillMembers (fields : List (Field ε α)) (src : Source) :
    Filling α → List (Option String × Tree) → Except (Fault ε) (Filling α)
  | s, [] => .ok s
  | _, (none, _) :: _ => .error (.text .malformed)
  | s, (some name, t) :: rest =>
    match fields.find? (·.name == name) with
    | none => do skip t; fillMembers fields src s rest
    | some f =>
      if s.given.contains name then .error .mismatch
      else do
        let value ← f.fill s.value src t
        fillMembers fields src ⟨value, name :: s.given⟩ rest

/-- Fills in the items of an array, each into the field at its place. -/
def fillItems (src : Source) :
    List (Field ε α) → Filling α → List Tree → Except (Fault ε) (Filling α)
  | _, s, [] => .ok s
  | [], _, _ :: _ => .error (.text .malformed)
  | f :: fields, s, t :: rest => do
    let value ← f.fill s.value src t
    fillItems src fields ⟨value, f.name :: s.given⟩ rest

/-- The record, once everything it must have is there. -/
def Filling.finish (fields : List (Field ε α)) (absent : String → Fault ε) (s : Filling α) :
    Except (Fault ε) α :=
  match fields.find? fun f => f.required && !s.given.contains f.name with
  | some f => .error (absent f.name)
  | none => .ok s.value

/-- A record with these fields, filled in from a blank. -/
def record (blank : α) (fields : List (Field ε α)) : Decoder ε α
  | src, .object members stop => do
    let s ← fillMembers fields (← src.enter) ⟨blank, []⟩ members
    passEnd stop
    s.finish fields .missing
  | src, .array ts stop => do
    let s ← fillItems (← src.enter) fields ⟨blank, []⟩ ts
    if ts.length < fields.length then passEnd stop else passClose stop
    s.finish fields fun _ => .mismatch
  | _, t => .error (wrongType t)

/-- A decoder that repeats so many times into itself. -/
def repeated (step : Decoder ε α → Decoder ε α) : Nat → Decoder ε α
  | 0 => fun _ _ => .error (.text .malformed)
  | n + 1 => fun src t => step (repeated step n) src t

/-- A decoder for a type that holds values of its own type. Each of them is read within an array or
object, so the room bounds how deep they can stand. -/
def nested (step : Decoder ε α → Decoder ε α) : Decoder ε α := fun src t =>
  repeated step (src.room + 1) src t

/-! ## Tagged values -/

/-- How far the reading of a tag and its content has come. -/
inductive Tagged (τ α : Type)
  | nothing
  | tag (t : τ)
  /-- The content came first and waits for its tag. -/
  | held (content : Tree)
  | value (a : α)

/-- Goes through the members of an object that holds a tag and a content, in either order. -/
def taggedMembers {τ : Type} (tagName contentName : String) (readTag : Decoder ε τ)
    (content : τ → Decoder ε α) (src : Source) :
    Tagged τ α → List (Option String × Tree) → Except (Fault ε) (Tagged τ α)
  | s, [] => .ok s
  | _, (none, _) :: _ => .error (.text .malformed)
  | s, (some name, t) :: rest =>
    if name = tagName then
      match s with
      | .nothing => do
        let tag ← readTag src t
        taggedMembers tagName contentName readTag content src (.tag tag) rest
      | .held waiting => do
        let tag ← readTag src t
        -- the content has been read before, and only its type was still open
        let a ← withOrigin .kept (content tag) src waiting
        taggedMembers tagName contentName readTag content src (.value a) rest
      | _ => .error .mismatch
    else if name = contentName then
      match s with
      | .nothing => do
        anything src.room t
        taggedMembers tagName contentName readTag content src (.held t) rest
      | .tag tag => do
        let a ← content tag src t
        taggedMembers tagName contentName readTag content src (.value a) rest
      | _ => .error .mismatch
    else do
      skip t
      taggedMembers tagName contentName readTag content src s rest

/-- A value written as an object of a tag and a content that the tag explains, or as an array of
the two, where the tag is a string. Some tags do without content. -/
def tagged {τ : Type} (tagName contentName : String) (readTag : String → Option τ)
    (content : τ → Decoder ε α) (alone : τ → Option α) : Decoder ε α
  | src, .object members stop => do
    let s ← taggedMembers tagName contentName (choice readTag) content (← src.enter) .nothing
      members
    passEnd stop
    match s with
    | .value a => .ok a
    | .tag tag => match alone tag with
      | some a => .ok a
      | none => .error (.missing contentName)
    | _ => .error (.missing tagName)
  | src, .array ts stop => do
    let src ← src.enter
    match ts with
    | t :: u :: rest => do
      let tag ← name readTag src t
      let a ← content tag src u
      if rest.isEmpty then passClose stop else .error (.text .malformed)
      return a
    | [t] => do
      let _ ← name readTag src t
      passEnd stop
      .error .mismatch
    | [] => do
      passEnd stop
      .error .mismatch
  | _, t => .error (wrongType t)

/-- Goes through the members of an object with a tag among them. The others wait for it. -/
def splitTag {τ : Type} (tagName : String) (readTag : Decoder ε τ) (src : Source) :
    Option τ → List (Option String × Tree) →
      Except (Fault ε) (Option τ × List (Option String × Tree))
  | tag, [] => .ok (tag, [])
  | _, (none, _) :: _ => .error (.text .malformed)
  | tag, (some name, t) :: rest =>
    if name = tagName then
      match tag with
      | some _ => .error .mismatch
      | none => do
        let new ← readTag src t
        splitTag tagName readTag src (some new) rest
    else do
      anything src.room t
      let (tag, others) ← splitTag tagName readTag src tag rest
      return (tag, (some name, t) :: others)

/-- A record whose fields depend on a tag among them, which is a string. -/
def union {τ : Type} (tagName : String) (readTag : String → Option τ) (body : τ → Decoder ε α) :
    Decoder ε α
  | src, .object members stop => do
    let (tag, others) ← splitTag tagName (name readTag) (← src.enter) none members
    passEnd stop
    match tag with
    | none => .error (.missing tagName)
    | some tag => withOrigin .kept (body tag) src (.object others none)
  | src, .array ts stop => do
    let inner ← src.enter
    match ts with
    | [] => do
      passEnd stop
      .error (.missing tagName)
    | t :: rest => do
      let tag ← name readTag inner t
      anythingAll inner.room rest
      passEnd stop
      withOrigin .kept (body tag) src (.array rest none)
  | _, t => .error (wrongType t)

/-! ## Checks -/

/-- A decoder followed by the type's own check. -/
def checked (d : Decoder ε α) (check : α → Except ε β) : Decoder ε β := fun src t =>
  match d src t with
  | .error f => .error f
  | .ok a => match check a with
    | .error cause => .error (.refused cause)
    | .ok b => .ok b

end Decoder

/-- Reads a whole text as a type. -/
def decode {ε α : Type} (d : Decoder ε α) (text : String) : Except (Fault ε) α :=
  let (tree, alone) := readText text.toList
  -- what follows the value is only looked at once the value has been accepted
  match d { room := maxRoom } tree with
  | .error f => .error f
  | .ok a => if alone then .ok a else .error (.text .malformed)

/-- Reads a value as a type. -/
def decodeValue {ε α : Type} (d : Decoder ε α) (t : Tree) : Except (Fault ε) α :=
  d.withOrigin .value { room := maxRoom } t

end Agreement.Json
