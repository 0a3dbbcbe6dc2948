/- # Agreement.SortedMap: association lists in key order

Vocabularies, bindings and style sheets are listed in the order of their keys and hold each key
once. Both are part of the type, so two maps with the same bindings are equal, and the length of
the list is the number of keys.
-/

namespace Agreement

variable {κ α : Type} [LT κ]

/-- Bindings listed by strictly ascending key. -/
structure SortedMap (κ α : Type) [LT κ] where
  /-- The bindings, in key order. -/
  entries : List (κ × α)
  ascending : entries.Pairwise (fun a b => a.1 < b.1) := by exact List.Pairwise.nil

namespace SortedMap

instance [DecidableEq κ] [DecidableEq α] : DecidableEq (SortedMap κ α) := fun a b =>
  if h : a.entries = b.entries then
    isTrue (by cases a; cases b; simp_all)
  else isFalse fun e => h (e ▸ rfl)

/-- Texts are ordered by their code points. -/
instance : Trans (α := String) (· < ·) (· < ·) (· < ·) where
  trans h g := String.lt_trans h g

instance : Std.Trichotomous (α := String) (· < ·) where
  trichotomous _ _ h g := String.le_antisymm (String.not_lt.1 g) (String.not_lt.1 h)

/-- The map without bindings. -/
def empty : SortedMap κ α := { entries := [] }

instance : Inhabited (SortedMap κ α) := ⟨empty⟩

/-- The number of keys. -/
def size (m : SortedMap κ α) : Nat := m.entries.length

/-- The keys, ascending. -/
def keys (m : SortedMap κ α) : List κ := m.entries.map (·.1)

/-- The value bound to a key. -/
def get? [DecidableEq κ] (m : SortedMap κ α) (k : κ) : Option α := m.entries.lookup k

variable [DecidableLT κ] [DecidableEq κ]

/-- Binds a key in a list in key order. -/
def insertInto (k : κ) (v : α) : List (κ × α) → List (κ × α)
  | [] => [(k, v)]
  | (k', v') :: rest =>
    if k = k' then (k, v) :: rest
    else if k < k' then (k, v) :: (k', v') :: rest
    else (k', v') :: insertInto k v rest

/-- The keys after an insertion are the new one and the old ones. -/
theorem of_mem_insertInto {k : κ} {v : α} {l : List (κ × α)} {p : κ × α}
    (h : p ∈ insertInto k v l) : p = (k, v) ∨ p ∈ l := by
  induction l with
  | nil => simpa [insertInto] using h
  | cons q rest ih =>
    simp only [insertInto] at h
    grind

variable [Trans (α := κ) (· < ·) (· < ·) (· < ·)] [Std.Trichotomous (α := κ) (· < ·)]

/-- Insertion keeps the keys ascending. -/
theorem ascending_insertInto {k : κ} {v : α} {l : List (κ × α)}
    (h : l.Pairwise (fun a b => a.1 < b.1)) :
    (insertInto k v l).Pairwise (fun a b => a.1 < b.1) := by
  induction l with
  | nil => simp [insertInto]
  | cons q rest ih =>
    obtain ⟨k', v'⟩ := q
    rw [List.pairwise_cons] at h
    simp only [insertInto]
    split
    · next e =>
      subst e
      exact List.pairwise_cons.2 h
    · next ne =>
      split
      · next lt =>
        refine List.pairwise_cons.2 ⟨fun p hp => ?_, List.pairwise_cons.2 h⟩
        rcases List.mem_cons.1 hp with rfl | hp
        · exact lt
        · exact Trans.trans lt (h.1 p hp)
      · next nlt =>
        refine List.pairwise_cons.2 ⟨fun p hp => ?_, ih h.2⟩
        rcases of_mem_insertInto hp with rfl | hp
        · exact Classical.byContradiction fun g => ne (Std.Trichotomous.trichotomous k k' nlt g)
        · exact h.1 p hp

/-- Binds a key, replacing what it was bound to. -/
def insert (m : SortedMap κ α) (k : κ) (v : α) : SortedMap κ α where
  entries := insertInto k v m.entries
  ascending := ascending_insertInto m.ascending

/-- The map that a list of bindings makes; of two for one key the later counts. -/
def ofList (l : List (κ × α)) : SortedMap κ α :=
  l.foldl (fun m p => m.insert p.1 p.2) empty

/-! ## What a look-up sees -/

omit [DecidableLT κ] [Trans (α := κ) (· < ·) (· < ·) (· < ·)]
  [Std.Trichotomous (α := κ) (· < ·)] in
@[simp] theorem get?_empty (k : κ) : (empty : SortedMap κ α).get? k = none := rfl

omit [Trans (α := κ) (· < ·) (· < ·) (· < ·)] [Std.Trichotomous (α := κ) (· < ·)] in
theorem lookup_insertInto (k x : κ) (v : α) (l : List (κ × α)) :
    (insertInto k v l).lookup x = if x = k then some v else l.lookup x := by
  induction l with
  | nil => simp only [insertInto, List.lookup_cons, List.lookup_nil]; grind
  | cons q rest ih =>
    simp only [insertInto]
    grind

@[simp] theorem get?_insert (m : SortedMap κ α) (k x : κ) (v : α) :
    (m.insert k v).get? x = if x = k then some v else m.get? x :=
  lookup_insertInto k x v m.entries

end SortedMap

end Agreement
