/- # Agreement.Proofs.Document.Places: the places of the items of a list

An item of a list has a place, the indexes that lead to it from the outermost list on. Here the
items are listed depth first with their places: an item stands before those below it, and these
before the next item beside it. That list holds every item of every depth once and is ordered by
the places, so there is only one such list.
-/
import Agreement.Document.ItemList
import Mathlib.Data.List.Basic

namespace Agreement

/-- An item with its place. -/
structure PlacedItem where
  place : List Nat
  text : String
  deriving DecidableEq, Repr

/-- How many items an item is below. -/
def PlacedItem.level (i : PlacedItem) : Nat := i.place.length - 1

/-- The index of an item among the items beside it. -/
def PlacedItem.index (i : PlacedItem) : Nat := i.place.getLast?.getD 0

namespace Item

/-- The item that indexes lead to from an item. -/
def below? : Item → List Nat → Option Item
  | item, [] => some item
  | mk _ children, index :: rest => children[index]?.bind (below? · rest)

mutual

/-- An item at a place and the items below it, depth first. -/
def placed (place : List Nat) : Item → List PlacedItem
  | mk text children => ⟨place, text⟩ :: placedFrom place 0 children

/-- The items from an index on of the list at a place, each with the items below it. -/
def placedFrom (place : List Nat) (index : Nat) : List Item → List PlacedItem
  | [] => []
  | item :: items => item.placed (place ++ [index]) ++ placedFrom place (index + 1) items

end

end Item

namespace ItemList

/-- The item at a place. -/
def at? (l : ItemList) : List Nat → Option Item
  | [] => none
  | index :: rest => l.items[index]?.bind (·.below? rest)

/-- The items of a list at every depth with their places, depth first. -/
def placed (l : ItemList) : List PlacedItem := Item.placedFrom [] 0 l.items

end ItemList

namespace Item

/-! ## How many there are -/

mutual

theorem length_placed (place : List Nat) : (i : Item) → (i.placed place).length = i.count
  | mk text children => by
    rw [placed, List.length_cons, length_placedFrom place 0 children, count, Nat.add_comm]

theorem length_placedFrom (place : List Nat) (index : Nat) :
    (items : List Item) → (placedFrom place index items).length = countAll items
  | [] => rfl
  | item :: items => by
    rw [placedFrom, List.length_append, length_placed _ item, length_placedFrom _ _ items, countAll]

end

/-! ## Where they are -/

mutual

/-- The items below a place are at that place or below it. -/
theorem prefix_of_mem_placed {place : List Nat} {i : PlacedItem} :
    (item : Item) → i ∈ item.placed place → place <+: i.place
  | mk text children, h => by
    rw [placed] at h
    rcases List.mem_cons.mp h with rfl | below
    · exact List.prefix_rfl
    · obtain ⟨index, -, rest, eq⟩ := place_of_mem_placedFrom children below
      exact ⟨index :: rest, eq.symm⟩

/-- The items from an index on of a list have places that go on with such an index. -/
theorem place_of_mem_placedFrom {place : List Nat} {first : Nat} {i : PlacedItem} :
    (items : List Item) → i ∈ placedFrom place first items →
      ∃ index, first ≤ index ∧ ∃ rest, i.place = place ++ index :: rest
  | [], h => by cases h
  | item :: items, h => by
    rw [placedFrom] at h
    rcases List.mem_append.mp h with here | later
    · obtain ⟨rest, eq⟩ := prefix_of_mem_placed item here
      exact ⟨first, Nat.le_refl _, rest, by rw [← eq, List.append_assoc]; rfl⟩
    · obtain ⟨index, after, rest, eq⟩ := place_of_mem_placedFrom items later
      exact ⟨index, by omega, rest, eq⟩

end

theorem append_lt_append {place a b : List Nat} (h : a < b) : place ++ a < place ++ b := by
  induction place with
  | nil => exact h
  | cons n place ih => exact List.cons_lt_cons_iff.mpr (.inr ⟨rfl, ih⟩)

mutual

/-- Every item stands after the ones above it and before it. -/
theorem pairwise_placed (place : List Nat) :
    (item : Item) → (item.placed place).Pairwise fun a b => a.place < b.place
  | mk text children => by
    rw [placed, List.pairwise_cons]
    refine ⟨fun below hbelow => ?_, pairwise_placedFrom place 0 children⟩
    obtain ⟨index, -, rest, eq⟩ := place_of_mem_placedFrom children hbelow
    have shorter : place ++ [] < place ++ index :: rest := append_lt_append (by simp)
    rwa [List.append_nil, ← eq] at shorter

theorem pairwise_placedFrom (place : List Nat) (index : Nat) :
    (items : List Item) → (placedFrom place index items).Pairwise fun a b => a.place < b.place
  | [] => .nil
  | item :: items => by
    rw [placedFrom, List.pairwise_append]
    refine ⟨pairwise_placed _ item, pairwise_placedFrom place (index + 1) items,
      fun a ha b hb => ?_⟩
    obtain ⟨rest, eq⟩ := prefix_of_mem_placed item ha
    obtain ⟨later, after, rest', eq'⟩ := place_of_mem_placedFrom items hb
    rw [← eq, eq', List.append_assoc]
    exact append_lt_append (List.cons_lt_cons_iff.mpr (.inl after))

end

mutual

theorem mem_placed {place : List Nat} {i : PlacedItem} :
    (item : Item) → (i ∈ item.placed place ↔
      ∃ rest, i.place = place ++ rest ∧ (item.below? rest).map text = some i.text)
  | mk text children => by
    rw [placed, List.mem_cons, mem_placedFrom children]
    constructor
    · rintro (rfl | ⟨index, item, rest, found, eq, same⟩)
      · exact ⟨[], (List.append_nil place).symm, rfl⟩
      · refine ⟨index :: rest, by rw [eq, Nat.zero_add], ?_⟩
        rw [below?, found, Option.bind_some, same]
    · rintro ⟨_ | ⟨index, rest⟩, eq, same⟩
      · rw [List.append_nil] at eq
        exact .inl (by cases i; cases eq; cases same; rfl)
      · rw [below?, Option.map_bind, Option.bind_eq_some_iff] at same
        obtain ⟨item, found, same⟩ := same
        exact .inr ⟨index, item, rest, found, by rw [eq, Nat.zero_add], same⟩

theorem mem_placedFrom {place : List Nat} {first : Nat} {i : PlacedItem} :
    (items : List Item) → (i ∈ placedFrom place first items ↔
      ∃ index item rest, items[index]? = some item ∧ i.place = place ++ (first + index) :: rest ∧
        (item.below? rest).map text = some i.text)
  | [] => by simp [placedFrom]
  | item :: items => by
    rw [placedFrom, List.mem_append, mem_placed item, mem_placedFrom items]
    constructor
    · rintro (⟨rest, eq, same⟩ | ⟨index, later, rest, found, eq, same⟩)
      · exact ⟨0, item, rest, rfl, by rw [eq, List.append_assoc]; rfl, same⟩
      · exact ⟨index + 1, later, rest, found, by rw [eq, Nat.add_assoc, Nat.add_comm 1], same⟩
    · rintro ⟨_ | index, found, rest, at_index, eq, same⟩
      · obtain rfl := Option.some.inj at_index
        exact .inl ⟨rest, by rw [eq, List.append_assoc]; rfl, same⟩
      · exact .inr ⟨index, found, rest, at_index, by rw [eq, Nat.add_assoc, Nat.add_comm 1], same⟩

end

/-! ## How deep they are -/

mutual

theorem length_place_of_mem_placed {place : List Nat} {i : PlacedItem} :
    (item : Item) → i ∈ item.placed place → i.place.length + 1 ≤ place.length + item.depth
  | mk text children, h => by
    rw [placed] at h
    rw [depth]
    rcases List.mem_cons.mp h with rfl | below
    · show place.length + 1 ≤ _
      omega
    · have deeper := length_place_of_mem_placedFrom children below
      omega

theorem length_place_of_mem_placedFrom {place : List Nat} {first : Nat} {i : PlacedItem} :
    (items : List Item) → i ∈ placedFrom place first items →
      i.place.length ≤ place.length + depthAll items
  | [], h => by cases h
  | item :: items, h => by
    rw [placedFrom] at h
    rw [depthAll]
    rcases List.mem_append.mp h with here | later
    · have deeper := length_place_of_mem_placed item here
      rw [List.length_append, List.length_singleton] at deeper
      omega
    · have deeper := length_place_of_mem_placedFrom items later
      omega

end

mutual

theorem exists_deepest_placed (place : List Nat) :
    (item : Item) → ∃ i ∈ item.placed place, i.place.length + 1 = place.length + item.depth
  | mk text [] => ⟨⟨place, text⟩, List.mem_cons_self, rfl⟩
  | mk text (child :: children) => by
    obtain ⟨i, member, deepest⟩ := exists_deepest_placedFrom place 0 (child :: children) nofun
    rw [placed, depth]
    exact ⟨i, List.mem_cons_of_mem _ member, by omega⟩

theorem exists_deepest_placedFrom (place : List Nat) (first : Nat) :
    (items : List Item) → items ≠ [] →
      ∃ i ∈ placedFrom place first items, i.place.length = place.length + depthAll items
  | [], nonempty => absurd rfl nonempty
  | item :: items, _ => by
    rw [placedFrom, depthAll]
    by_cases deeper : item.depth < depthAll items
    · have later : items ≠ [] := by
        rintro rfl
        exact absurd deeper (Nat.not_lt_zero _)
      obtain ⟨i, member, deepest⟩ := exists_deepest_placedFrom place (first + 1) items later
      exact ⟨i, List.mem_append_right _ member, by omega⟩
    · obtain ⟨i, member, deepest⟩ := exists_deepest_placed (place ++ [first]) item
      rw [List.length_append, List.length_singleton] at deepest
      exact ⟨i, List.mem_append_left _ member, by omega⟩

end

/-! ## How many stand before them -/

mutual

/-- The items below a place have indexes below the number of items. -/
theorem index_lt_of_mem_placed {place : List Nat} {i : PlacedItem} :
    (item : Item) → i ∈ item.placed place → i.place = place ∨ i.index < item.count
  | mk text children, h => by
    rw [placed] at h
    rcases List.mem_cons.mp h with rfl | below
    · exact .inl rfl
    · have small := index_lt_of_mem_placedFrom children below
      rw [count]
      exact .inr (by omega)

theorem index_lt_of_mem_placedFrom {place : List Nat} {first : Nat} {i : PlacedItem} :
    (items : List Item) → i ∈ placedFrom place first items → i.index < first + countAll items
  | [], h => by cases h
  | item :: items, h => by
    have itself : 0 < item.count := by
      obtain ⟨text, children⟩ := item
      rw [count]
      omega
    rw [placedFrom] at h
    rw [countAll]
    rcases List.mem_append.mp h with here | later
    · rcases index_lt_of_mem_placed item here with at_first | below
      · have index : i.index = first := by simp [PlacedItem.index, at_first]
        omega
      · omega
    · have small := index_lt_of_mem_placedFrom items later
      omega

end

end Item

namespace ItemList

variable (l : ItemList)

theorem length_placed : l.placed.length = l.itemCount := Item.length_placedFrom [] 0 l.items

theorem pairwise_placed : l.placed.Pairwise fun a b => a.place < b.place :=
  Item.pairwise_placedFrom [] 0 l.items

/-- The list holds the items that are at places, and no others. -/
theorem mem_placed {l : ItemList} {i : PlacedItem} :
    i ∈ l.placed ↔ (l.at? i.place).map Item.text = some i.text := by
  rw [placed, Item.mem_placedFrom]
  constructor
  · rintro ⟨index, item, rest, found, eq, same⟩
    rw [eq, Nat.zero_add, List.nil_append, at?, found]
    exact same
  · intro same
    cases place : i.place with
    | nil => rw [place] at same; cases same
    | cons index rest =>
        rw [place, at?, Option.map_bind, Option.bind_eq_some_iff] at same
        obtain ⟨item, found, same⟩ := same
        exact ⟨index, item, rest, found, by rw [Nat.zero_add]; rfl, same⟩

/-- No item has an empty place. -/
theorem length_place_pos {l : ItemList} {i : PlacedItem} (h : i ∈ l.placed) :
    0 < i.place.length := by
  obtain ⟨index, -, rest, eq⟩ := Item.place_of_mem_placedFrom l.items h
  rw [eq]
  exact Nat.succ_pos _

theorem level_lt_depth {l : ItemList} {i : PlacedItem} (h : i ∈ l.placed) : i.level < l.depth := by
  have positive := length_place_pos h
  have deeper : i.place.length ≤ 0 + l.depth := Item.length_place_of_mem_placedFrom l.items h
  rw [PlacedItem.level]
  omega

/-- The deepest item is as deep as the list. -/
theorem exists_deepest {l : ItemList} (nonempty : l.items ≠ []) :
    ∃ i ∈ l.placed, i.level + 1 = l.depth := by
  obtain ⟨i, member, deepest⟩ := Item.exists_deepest_placedFrom [] 0 l.items nonempty
  have positive := length_place_pos (l := l) member
  refine ⟨i, member, ?_⟩
  change i.place.length = 0 + l.depth at deepest
  rw [PlacedItem.level]
  omega

theorem index_lt_itemCount {l : ItemList} {i : PlacedItem} (h : i ∈ l.placed) :
    i.index < l.itemCount := by
  have small := Item.index_lt_of_mem_placedFrom l.items h
  rwa [Nat.zero_add] at small

end ItemList

end Agreement
