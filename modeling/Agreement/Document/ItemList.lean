/- # Agreement.Document.ItemList: lists

An item is a text with items below it, to any depth.
-/
import Agreement.Document.Numbering
import Agreement.Json.Printer
import Agreement.Json.Decoder

namespace Agreement

open Json.Decoder

/-- An item of a list with the items below it. -/
inductive Item
  | mk (text : String) (children : List Item)
  deriving Repr, Inhabited

namespace Item

/-- The text of an item. -/
def text : Item → String
  | mk text _ => text

/-- The items below an item. -/
def children : Item → List Item
  | mk _ children => children

mutual

/-- Whether two items are equal. -/
def decEq : (a b : Item) → Decidable (a = b)
  | mk s as, mk t bs =>
    match decEqAll as bs with
    | isTrue h =>
      if e : s = t then isTrue (by rw [e, h]) else isFalse fun g => e (by injection g)
    | isFalse h => isFalse fun g => h (by injection g)

/-- Whether two lists of items are equal. -/
def decEqAll : (as bs : List Item) → Decidable (as = bs)
  | [], [] => isTrue rfl
  | [], _ :: _ => isFalse nofun
  | _ :: _, [] => isFalse nofun
  | a :: as, b :: bs =>
    match decEq a b, decEqAll as bs with
    | isTrue h, isTrue g => isTrue (by rw [h, g])
    | isFalse h, _ => isFalse fun e => h (by injection e)
    | _, isFalse g => isFalse fun e => g (by injection e)

end

instance : DecidableEq Item := decEq

mutual

/-- An item and all items below it. -/
def count : Item → Nat
  | mk _ children => 1 + countAll children

/-- The items of a list at every depth. -/
def countAll : List Item → Nat
  | [] => 0
  | item :: items => item.count + countAll items

end

mutual

/-- How many levels an item has, itself included. -/
def depth : Item → Nat
  | mk _ children => 1 + depthAll children

/-- The greatest number of levels in a list. -/
def depthAll : List Item → Nat
  | [] => 0
  | item :: items => max item.depth (depthAll items)

end

mutual

/-- An item in saved data. The items below it are left out when there are none. -/
def toJson : Item → Json
  | mk text children =>
    .object (("text", .string text) :: match children with
      | [] => []
      | child :: rest => [("children", .array (child.toJson :: toJsonAll rest))])

/-- The items of a list in saved data. -/
def toJsonAll : List Item → List Json
  | [] => []
  | item :: items => item.toJson :: toJsonAll items

end

/-- Reads an item from saved data. -/
def decoder {ε : Type} : Json.Decoder ε Item :=
  nested fun item =>
    record (mk "" [])
      [ field "text" (fun s x => mk s x.children) string,
        optionalField "children" (fun l x => mk x.text l) (list item) ]

end Item

/-- A list with its numbering, which counts when the list is ordered. -/
structure ItemList where
  items : List Item
  numbering : Numbering := .decimal
  /-- The number of the first item; zero counts as one. -/
  start : UInt32 := 1
  deriving DecidableEq, Repr, Inhabited

namespace ItemList

/-- A flat list. -/
def ofTexts (texts : List String) : ItemList := { items := texts.map (.mk · []) }

/-- A list whose first item has another number, one at least. -/
def startingAt (n : UInt32) (l : ItemList) : ItemList := { l with start := max n 1 }

/-- The number of items at every depth. -/
def itemCount (l : ItemList) : Nat := Item.countAll l.items

/-- The number of levels; a flat list has one. -/
def depth (l : ItemList) : Nat := Item.depthAll l.items

/-- A list in saved data. -/
def toJson (l : ItemList) : Json :=
  .object
    [ ("items", .array (Item.toJsonAll l.items)),
      ("numbering", .string l.numbering.name),
      ("start", .count l.start.toNat) ]

/-- Reads a list from saved data. -/
def decoder {ε : Type} : Json.Decoder ε ItemList :=
  record { items := [] }
    [ field "items" (fun x l => { l with items := x }) (list Item.decoder),
      optionalField "numbering" (fun x l => { l with numbering := x })
        (choice Numbering.ofName?),
      optionalField "start" (fun x l => { l with start := x }) uint32 ]

end ItemList

end Agreement
