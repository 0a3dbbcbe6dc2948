/- # Agreement.Proofs.Render.Lists: plain text and markup walk lists alike

Both renderings of a list, its lines in plain text and its elements in markup, are made by
recursions of their own. Both are shown to go over the same list, the items with their places depth
first. For markup a reader of lists is given that counts as markup says: the items of a list from
its start attribute on, or from one.
-/
import Agreement.Proofs.Document.Places
import Agreement.Proofs.Render.Html
import Agreement.Render.PlainText

namespace Agreement

open Markup

/-! ## Plain text -/

/-- The number of an item of a list that starts with a number: every list below starts with one. -/
def PlacedItem.number (start : Nat) (i : PlacedItem) : Nat :=
  Numbering.itemNumber (if i.level = 0 then start else 1) i.index

namespace PlainText

variable (resolve : String → String) (marker : Nat → String) (front : List Char) (start : Nat)

/-- The entry of an item: its indentation, its marker and its text. -/
def entry (i : PlacedItem) : List Char :=
  front ++ indent i.level ++ (marker (i.number start)).toList ++ ' ' :: (resolve i.text).toList

mutual

theorem itemLines_eq (place : List Nat) (index : Nat) : (item : Item) →
    itemLines resolve marker front place.length
        (Numbering.itemNumber (if place.length = 0 then start else 1) index) item =
      (item.placed (place ++ [index])).map (entry resolve marker front start)
  | .mk text children => by
    have below := itemsLines_eq (place ++ [index]) 0 children
    have level : PlacedItem.level ⟨place ++ [index], text⟩ = place.length := by
      simp [PlacedItem.level]
    have last : PlacedItem.index ⟨place ++ [index], text⟩ = index := by simp [PlacedItem.index]
    rw [List.length_append, List.length_singleton, if_neg (Nat.succ_ne_zero _)] at below
    rw [itemLines, below, Item.placed, List.map_cons, entry, PlacedItem.number, level, last]

theorem itemsLines_eq (place : List Nat) (index : Nat) : (items : List Item) →
    itemsLines resolve marker front place.length (if place.length = 0 then start else 1) index
        items =
      (Item.placedFrom place index items).map (entry resolve marker front start)
  | [] => rfl
  | item :: items => by
    rw [itemsLines, itemLines_eq place index item, itemsLines_eq place (index + 1) items,
      Item.placedFrom, List.map_append]

end

/-- The lines of a list are the entries of its items. -/
theorem listBlock_eq (l : ItemList) :
    listBlock resolve marker front l =
      ['\n'].intercalate (l.placed.map (entry resolve marker front l.start.toNat)) :=
  congrArg _ (itemsLines_eq resolve marker front l.start.toNat [] 0 l.items)

end PlainText

/-! ## Markup -/

namespace Markup

/-- An item as markup shows it: how many lists it is in besides the outermost one, its number in
the innermost one and its text. -/
structure ShownItem where
  level : Nat
  number : Nat
  text : String
  deriving DecidableEq, Repr

/-- The number of the first item of a list: its start attribute, or one. -/
def firstNumber (attributes : List Attribute) : Nat :=
  match attributes.lookup "start" with
  | some digits => Nat.ofDigitChars 10 digits.toList 0
  | none => 1

/-- The text in front of the elements inside an item. A list there starts on a line of its own. -/
def ownText : List Node → String
  | .text s :: .element _ _ _ :: _ => String.ofList s.toList.dropLast
  | .text s :: _ => s
  | _ => ""

/-- Whether a node is an item. -/
def Node.isItem : Node → Bool
  | .element name _ _ => name == "li"
  | _ => false

mutual

/-- The items that a node shows, as the item of a number of a list on a level or as a list. -/
def Node.items (level number : Nat) : Node → List ShownItem
  | .text _ => []
  | .void _ _ => []
  | .element name attributes children =>
    if name = "li" then ⟨level, number, ownText children⟩ :: itemsOf (level + 1) 1 children
    else if name = "ol" ∨ name = "ul" then itemsOf level (firstNumber attributes) children
    else []

/-- The items that nodes show one after another, of which those of a list are numbered. -/
def itemsOf (level number : Nat) : List Node → List ShownItem
  | [] => []
  | node :: rest =>
    node.items level number ++ itemsOf level (if node.isItem then number + 1 else number) rest

end

mutual

/-- The elements of a node with their attributes, outermost first. -/
def Node.elements : Node → List (String × List Attribute)
  | .text _ => []
  | .void name attributes => [(name, attributes)]
  | .element name attributes children => (name, attributes) :: elementsOf children

/-- The elements of nodes in order. -/
def elementsOf : List Node → List (String × List Attribute)
  | [] => []
  | node :: rest => node.elements ++ elementsOf rest

end

/-! Line breaks between elements show nothing. -/

theorem itemsOf_lines (level number : Nat) (es : List Node) :
    itemsOf level number (lines es) = itemsOf level number es := by
  induction es generalizing number with
  | nil => rfl
  | cons e es ih =>
      have lines_cons : lines (e :: es) = e :: lineBreak :: lines es := rfl
      rw [lines_cons, itemsOf, itemsOf, itemsOf, ih]
      rfl

theorem itemsOf_lineBreak (level number : Nat) (nodes : List Node) :
    itemsOf level number (lineBreak :: nodes) = itemsOf level number nodes := by
  rw [itemsOf]
  rfl

theorem itemsOf_textNodes (level number : Nat) (s : String) :
    itemsOf level number (textNodes s) = [] := by
  unfold textNodes
  split <;> rfl

theorem ownText_textNodes (s : String) : ownText (textNodes s) = s := by
  unfold textNodes
  split
  · next empty => exact empty.symm
  · rfl

theorem elementsOf_lines (es : List Node) : elementsOf (lines es) = elementsOf es := by
  induction es with
  | nil => rfl
  | cons e es ih =>
      have lines_cons : lines (e :: es) = e :: lineBreak :: lines es := rfl
      rw [lines_cons, elementsOf, elementsOf, elementsOf, ih]
      rfl

theorem elementsOf_textNodes (s : String) : elementsOf (textNodes s) = [] := by
  unfold textNodes
  split <;> rfl

end Markup

namespace Html

variable (resolve : String → String) (ordering : Ordering)

/-- A list has a start attribute if it is ordered and starts after one. -/
theorem lookup_start (start : UInt32) (declarations : List String) :
    (startAttributes ordering start ++
        styleAttributes (listDeclarations ordering ++ declarations)).lookup "start" =
      if ordering.isSome && 1 < start then some (toString start.toNat) else none := by
  have none_there : (styleAttributes (listDeclarations ordering ++ declarations)).lookup "start" =
      none := by
    unfold styleAttributes
    split <;> rfl
  rw [List.lookup_append, none_there, Option.or_none, startAttributes]
  split <;> rfl

/-- The number of the first item of a list in markup. -/
def firstOf (start : UInt32) : Nat := if ordering.isSome then max start.toNat 1 else 1

theorem firstOf_one : firstOf ordering 1 = 1 := by
  unfold firstOf
  split <;> rfl

theorem firstNumber_listNode (start : UInt32) (declarations : List String) :
    firstNumber (startAttributes ordering start ++
        styleAttributes (listDeclarations ordering ++ declarations)) = firstOf ordering start := by
  have reads : Nat.ofDigitChars 10 (toString start.toNat).toList 0 = start.toNat := by
    rw [Nat.toString_eq_ofList_toDigits, String.toList_ofList, Nat.ofDigitChars_ten_toDigits]
  have after_one : 1 < start ↔ 1 < start.toNat := UInt32.lt_iff_toNat_lt
  rw [firstNumber, lookup_start, firstOf]
  cases ordering.isSome with
  | false => rfl
  | true =>
      by_cases later : 1 < start
      · have greater := after_one.mp later
        simp only [later, decide_true, Bool.and_self, if_true, reads]
        omega
      · have smaller := mt after_one.mpr later
        simp only [later, decide_false, Bool.and_false, if_true, Bool.false_eq_true, if_false]
        omega

theorem listTag_cases :
    listTag ordering ≠ "li" ∧ (listTag ordering = "ol" ∨ listTag ordering = "ul") := by
  unfold listTag
  split <;> decide

theorem items_listNode (start : UInt32) (declarations : List String) (level number : Nat)
    (es : List Node) : (listNode ordering start declarations es).items level number =
      itemsOf level (firstOf ordering start) es := by
  obtain ⟨no_item, is_list⟩ := listTag_cases ordering
  rw [listNode, Node.items, if_neg no_item, if_pos is_list, firstNumber_listNode,
    itemsOf_lineBreak, itemsOf_lines]

/-- What markup shows of an item of a list whose first number is this. -/
def shown (first : Nat) (i : PlacedItem) : ShownItem :=
  ⟨i.level, (if i.level = 0 then first else 1) + i.index, resolve i.text⟩

mutual

theorem items_itemNode (first : Nat) (place : List Nat) (index : Nat) : (item : Item) →
    (itemNode resolve ordering item).items place.length
        ((if place.length = 0 then first else 1) + index) =
      (item.placed (place ++ [index])).map (shown resolve first)
  | .mk text children => by
    have below := itemsOf_itemNodes first (place ++ [index]) 0 children
    rw [List.length_append, List.length_singleton, if_neg (Nat.succ_ne_zero _)] at below
    have here : shown resolve first ⟨place ++ [index], text⟩ =
        ⟨place.length, (if place.length = 0 then first else 1) + index, resolve text⟩ := by
      simp [shown, PlacedItem.level, PlacedItem.index]
    rw [itemNode, Item.placed, List.map_cons, here]
    cases children with
    | nil =>
        rw [Node.items, if_pos rfl, List.isEmpty_nil, if_pos rfl, ownText_textNodes,
          itemsOf_textNodes]
        rfl
    | cons child children =>
        have own : ownText [.text (resolve text ++ "\n"),
            listNode ordering 1 [] (itemNodes resolve ordering (child :: children)), lineBreak] =
            resolve text := by
          rw [listNode, ownText, String.toList_append]
          exact (congrArg String.ofList List.dropLast_concat).trans String.ofList_toList
        rw [List.isEmpty_cons, if_neg Bool.false_ne_true, Node.items, if_pos rfl, own, itemsOf,
          itemsOf, itemsOf_lineBreak, items_listNode, firstOf_one, ← below, itemsOf,
          List.append_nil]
        rfl

theorem itemsOf_itemNodes (first : Nat) (place : List Nat) (index : Nat) : (items : List Item) →
    itemsOf place.length ((if place.length = 0 then first else 1) + index)
        (itemNodes resolve ordering items) =
      (Item.placedFrom place index items).map (shown resolve first)
  | [] => rfl
  | item :: items => by
    have others := itemsOf_itemNodes first place (index + 1) items
    have counted : (itemNode resolve ordering item).isItem = true := by
      cases item
      rfl
    rw [itemNodes, itemsOf, if_pos counted, items_itemNode first place index item, Nat.add_assoc,
      others, Item.placedFrom, List.map_append]

end

/-- The element of a list shows its items. -/
theorem items_list (l : ItemList) (declarations : List String) (number : Nat) :
    (listNode ordering l.start declarations (itemNodes resolve ordering l.items)).items 0 number =
      l.placed.map (shown resolve (firstOf ordering l.start)) := by
  rw [items_listNode]
  exact itemsOf_itemNodes resolve ordering (firstOf ordering l.start) [] 0 l.items

/-! The elements of a list are lists and items, of which only the outermost can have a start. -/

/-- Elements below the outermost list: so many items, and lists without a start. -/
structure AreInside (items : Nat) (elements : List (String × List Attribute)) : Prop where
  count : elements.countP (·.1 = "li") = items
  no_start : ∀ e ∈ elements, e.2.lookup "start" = none

theorem AreInside.append {m n : Nat} {a b : List (String × List Attribute)} (front : AreInside m a)
    (back : AreInside n b) : AreInside (m + n) (a ++ b) where
  count := by rw [List.countP_append, front.count, back.count]
  no_start := List.forall_mem_append.mpr ⟨front.no_start, back.no_start⟩

theorem elements_listNode (start : UInt32) (declarations : List String) (es : List Node) :
    (listNode ordering start declarations es).elements =
      (listTag ordering, startAttributes ordering start ++
        styleAttributes (listDeclarations ordering ++ declarations)) :: elementsOf es := by
  rw [listNode, Node.elements, elementsOf, elementsOf_lines]
  rfl

mutual

theorem elements_itemNode : (item : Item) →
    AreInside item.count (itemNode resolve ordering item).elements
  | .mk text children => by
    have one : AreInside 1 [("li", [])] := ⟨rfl, by simp⟩
    have below := elementsOf_itemNodes children
    rw [itemNode, Node.elements, Item.count]
    refine one.append ?_
    split
    · next empty =>
      rw [List.isEmpty_iff.mp empty, elementsOf_textNodes]
      exact ⟨rfl, nofun⟩
    · have list : AreInside 0 [(listTag ordering, startAttributes ordering 1 ++
          styleAttributes (listDeclarations ordering ++ []))] := by
        refine ⟨?_, List.forall_mem_singleton.mpr ?_⟩
        · unfold listTag
          split <;> rfl
        · rw [lookup_start]
          simp
      have inside := list.append below
      rw [elementsOf, elementsOf, elementsOf, elements_listNode]
      rw [Nat.zero_add] at inside
      simpa [Node.elements, elementsOf, lineBreak] using inside

theorem elementsOf_itemNodes : (items : List Item) →
    AreInside (Item.countAll items) (elementsOf (itemNodes resolve ordering items))
  | [] => ⟨rfl, nofun⟩
  | item :: items => (elements_itemNode item).append (elementsOf_itemNodes items)

end

/-- The element of a block reads back from its markup. -/
theorem read_block (options : RenderOptions) (styles : StyleSheet) (b : Block) :
    read (block resolve options styles b).toList =
      some [blockNode resolve options styles b, lineBreak] := by
  have element := isElement_blockNode resolve options styles b
  have written : (block resolve options styles b).toList =
      writeAll [blockNode resolve options styles b, lineBreak] := by
    rw [toList_block]
    simp [writeAll, write_lineBreak]
  rw [written]
  exact read_writeAll (wellFormed_lines (List.forall_mem_singleton.mpr element))
    (.cons_cons (by simp [element.not_text]) (.singleton _))

end Html

namespace PlacedItem

/-- Below the outermost list numbers start with one, and they stop at the greatest. -/
theorem number_of_level_pos {i : PlacedItem} (below : 0 < i.level) (start : Nat) :
    i.number start = min (i.index + 1) Numbering.maxNumber := by
  rw [number, if_neg below.ne', Numbering.itemNumber, Nat.max_self, Nat.add_comm]

/-- The number of an item in plain text is the one that an ordered list in markup counts, up to the
greatest. -/
theorem number_eq_shown (i : PlacedItem) (resolve : String → String) (n : Numbering)
    (start : UInt32) : i.number start.toNat =
      min (Html.shown resolve (Html.firstOf (some n) start) i).number Numbering.maxNumber := by
  rw [number, Html.shown, Html.firstOf, Numbering.itemNumber]
  split <;> rfl

end PlacedItem

namespace Block

/-- **Plain text and markup walk lists alike.** The items of a list of every depth have one
depth-first order. In it plain text has an entry for each of them, two spaces further in for every
level, and markup an item with the same text on the same level. The items of an ordered list have
the numbers in plain text, up to the greatest, that markup counts from the start of the outermost
list, and from one in the lists below. -/
theorem list_plainText_html {b : Block} {l : ItemList} (is_list : b.content = .list l)
    (resolve : String → String) (options : RenderOptions) (styles : StyleSheet) :
    -- the items in depth-first order
    (l.placed.Pairwise (·.place < ·.place) ∧
      (∀ i, i ∈ l.placed ↔ (l.at? i.place).map Item.text = some i.text) ∧
      l.placed.length = l.itemCount ∧
      (∀ i ∈ l.placed, i.level < l.depth) ∧
      (l.items ≠ [] → ∃ i ∈ l.placed, i.level + 1 = l.depth)) ∧
    -- their numbers
    (∀ i ∈ l.placed, i.number l.start.toNat =
      if i.level = 0 then Numbering.itemNumber l.start.toNat i.index
      else min (i.index + 1) Numbering.maxNumber) ∧
    -- their entries in plain text
    PlainText.block resolve options b = ['\n'].intercalate (l.placed.map fun i =>
      PlainText.indent b.placement.indentLevel.toNat ++ List.replicate (2 * i.level) ' ' ++
        (PlainText.markerOf options b l (i.number l.start.toNat)).toList ++
        ' ' :: (resolve i.text).toList) ∧
    -- their elements in markup
    ∃ list, Markup.read (Html.block resolve options styles b).toList = some [list, lineBreak] ∧
      list.elements.countP (·.1 = "li") = l.itemCount ∧
      list.elements.head?.map (·.1) = some (if b.isOrdered then "ol" else "ul") ∧
      list.elements.head?.bind (·.2.lookup "start") =
        (if b.isOrdered && 1 < l.start then some (toString l.start.toNat) else none) ∧
      (∀ e ∈ list.elements.tail, e.2.lookup "start" = none) ∧
      (list.items 0 1).map (fun s => (s.level, s.text)) =
        l.placed.map (fun i => (i.level, resolve i.text)) ∧
      (b.isOrdered → (list.items 0 1).map (fun s => min s.number Numbering.maxNumber) =
        l.placed.map (·.number l.start.toNat)) := by
  refine ⟨⟨l.pairwise_placed, fun _ => ItemList.mem_placed, l.length_placed,
    fun _ => ItemList.level_lt_depth, ItemList.exists_deepest⟩, fun i _ => ?_, ?_, ?_⟩
  · split
    · next outermost => rw [PlacedItem.number, if_pos outermost]
    · next below => exact PlacedItem.number_of_level_pos (Nat.pos_of_ne_zero below) _
  · rw [PlainText.block, is_list]
    exact PlainText.listBlock_eq resolve _ _ l
  · let ordering := if b.isOrdered then some (b.numbering l) else none
    have ordered : ordering.isSome = b.isOrdered := by
      cases kind : b.isOrdered <;> simp [ordering, kind]
    have prescribed : Html.blockNode resolve options styles b =
        Html.listNode ordering l.start (b.declarations options styles)
          (Html.itemNodes resolve ordering l.items) := by
      rw [Html.blockNode, is_list]
    have elements := Html.elements_listNode ordering l.start (b.declarations options styles)
      (Html.itemNodes resolve ordering l.items)
    have inside := Html.elementsOf_itemNodes resolve ordering l.items
    have items := Html.items_list resolve ordering l (b.declarations options styles) 1
    refine ⟨_, prescribed ▸ Html.read_block resolve options styles b, ?_, ?_, ?_, ?_, ?_,
      fun numbered => ?_⟩
    · rw [elements, List.countP_cons_of_neg (by simpa using (Html.listTag_cases ordering).1)]
      exact inside.count
    · rw [elements, ← ordered]
      rfl
    · rw [elements, ← ordered]
      exact Html.lookup_start ordering l.start _
    · rw [elements]
      exact inside.no_start
    · rw [items, List.map_map]
      rfl
    · have numbering : ordering = some (b.numbering l) := if_pos numbered
      rw [items, List.map_map, numbering]
      exact List.map_congr_left fun i _ => (i.number_eq_shown resolve _ _).symm

/-- A list that starts with three, with an item below the first one. -/
theorem list_plainText_html_three :
    let l : ItemList := { items := [.mk "א" [.mk "ב" []], .mk "ג" []], start := 3 }
    (numberedList l).content = .list l ∧
      PlainText.block (fun s => s) {} (numberedList l) = "3. א\n  1. ב\n4. ג".toList ∧
      ∃ list, Markup.read (Html.block (fun s => s) {} .standard (numberedList l)).toList =
          some [list, lineBreak] ∧
        list.elements.countP (·.1 = "li") = 3 ∧
        list.elements.head?.bind (·.2.lookup "start") = some "3" ∧
        (list.items 0 1).map (fun s => min s.number Numbering.maxNumber) = [3, 1, 4] := by
  intro l
  have is_list : (numberedList l).content = .list l := rfl
  obtain ⟨-, -, text, list, reads, count, -, start, -, -, numbers⟩ :=
    list_plainText_html is_list (fun s => s) {} .standard
  exact ⟨is_list, text.trans (by decide), list, reads, count, start.trans (by decide),
    (numbers rfl).trans (by decide)⟩

end Block

end Agreement
