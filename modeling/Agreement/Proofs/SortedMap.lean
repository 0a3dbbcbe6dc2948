/- # Agreement.Proofs.SortedMap: a map is made of its bindings

The bindings of a map are listed by ascending key, each key once. Bound one after the other they
make the map again, since each of them comes behind all that are there. Of several bindings for one
key the last counts.
-/
import Agreement.SortedMap

namespace Agreement.SortedMap

instance : Std.Irrefl (α := String) (· < ·) := ⟨String.lt_irrefl⟩

variable {κ α : Type} [LT κ] [DecidableLT κ] [DecidableEq κ]
  [Trans (α := κ) (· < ·) (· < ·) (· < ·)] [Std.Irrefl (α := κ) (· < ·)]

omit [DecidableLT κ] [DecidableEq κ] in
theorem not_lt_of_lt {a b : κ} (h : a < b) : ¬ b < a :=
  fun g => Std.Irrefl.irrefl a (Trans.trans h g)

/-- A key behind all others is bound at the end. -/
theorem insertInto_of_forall_lt {k : κ} {v : α} {l : List (κ × α)} (h : ∀ p ∈ l, p.1 < k) :
    insertInto k v l = l ++ [(k, v)] := by
  induction l with
  | nil => rfl
  | cons p l ih =>
      obtain ⟨first, others⟩ := List.forall_mem_cons.mp h
      have other : k ≠ p.1 := by
        rintro rfl
        exact Std.Irrefl.irrefl _ first
      rw [insertInto, if_neg other, if_neg (not_lt_of_lt first), ih others, List.cons_append]

/-! ## Keys -/

omit [DecidableLT κ] [DecidableEq κ] [Trans (α := κ) (· < ·) (· < ·) (· < ·)] in
/-- No key is listed twice. -/
theorem nodup_keys (m : SortedMap κ α) : m.keys.Nodup := by
  rw [keys, List.nodup_iff_pairwise_ne, List.pairwise_map]
  refine m.ascending.imp ?_
  rintro p q before same
  rw [same] at before
  exact Std.Irrefl.irrefl _ before

omit [DecidableLT κ] [Trans (α := κ) (· < ·) (· < ·) (· < ·)]
  [Std.Irrefl (α := κ) (· < ·)] in
theorem mem_keys {m : SortedMap κ α} {k : κ} : k ∈ m.keys ↔ (m.get? k).isSome = true := by
  rw [get?, List.lookup_isSome_iff, keys, List.mem_map]
  refine exists_congr fun p => and_congr_right fun _ => ?_
  rw [beq_iff_eq, eq_comm]

variable [Std.Trichotomous (α := κ) (· < ·)]

omit [Std.Irrefl (α := κ) (· < ·)] in
theorem mem_keys_insert {m : SortedMap κ α} {k x : κ} {v : α} :
    x ∈ (m.insert k v).keys ↔ x = k ∨ x ∈ m.keys := by
  rw [mem_keys, mem_keys, get?_insert]
  split
  · next same => simp [same]
  · next other => simp [other]

/-! ## Bindings one after the other -/

omit [Std.Irrefl (α := κ) (· < ·)] in
/-- Of several bindings for one key the last counts. -/
theorem get?_foldl_insert (m : SortedMap κ α) (l : List (κ × α)) (k : κ) :
    (l.foldl (fun m p => m.insert p.1 p.2) m).get? k =
      ((l.reverse.find? (·.1 = k)).map (·.2)).or (m.get? k) := by
  induction l generalizing m with
  | nil => rfl
  | cons p l ih =>
      rw [List.foldl_cons, ih, get?_insert, List.reverse_cons, List.find?_append]
      cases List.find? (·.1 = k) l.reverse with
      | some q => rfl
      | none =>
          by_cases same : k = p.1
          · simp [same]
          · simp [same, Ne.symm same]

omit [Std.Irrefl (α := κ) (· < ·)] in
theorem get?_ofList (l : List (κ × α)) (k : κ) :
    (ofList l).get? k = (l.reverse.find? (·.1 = k)).map (·.2) := by
  rw [ofList, get?_foldl_insert, get?_empty, Option.or_none]

omit [Std.Irrefl (α := κ) (· < ·)] in
theorem mem_of_get?_ofList {l : List (κ × α)} {k : κ} {v : α} (h : (ofList l).get? k = some v) :
    (k, v) ∈ l := by
  rw [get?_ofList] at h
  obtain ⟨p, found, rfl⟩ := Option.map_eq_some_iff.mp h
  obtain rfl : p.1 = k := by simpa using List.find?_some found
  exact List.mem_reverse.mp (List.mem_of_find?_eq_some found)

omit [Std.Irrefl (α := κ) (· < ·)] in
theorem mem_keys_ofList {l : List (κ × α)} {k : κ} :
    k ∈ (ofList l).keys ↔ k ∈ l.map Prod.fst := by
  rw [mem_keys, get?_ofList, Option.isSome_map, List.find?_isSome]
  simp

/-- Bindings that ascend behind those of a map come behind them. -/
theorem entries_foldl_insert {m : SortedMap κ α} {l : List (κ × α)}
    (ascending : (m.entries ++ l).Pairwise (fun a b => a.1 < b.1)) :
    (l.foldl (fun m p => m.insert p.1 p.2) m).entries = m.entries ++ l := by
  induction l generalizing m with
  | nil => exact (List.append_nil _).symm
  | cons p l ih =>
      have behind : ∀ q ∈ m.entries, q.1 < p.1 :=
        fun q hq => (List.pairwise_append.mp ascending).2.2 q hq p List.mem_cons_self
      have bound : (m.insert p.1 p.2).entries = m.entries ++ [p] :=
        insertInto_of_forall_lt behind
      have split : m.entries ++ p :: l = (m.insert p.1 p.2).entries ++ l := by
        rw [bound, List.append_assoc, List.singleton_append]
      rw [split] at ascending ⊢
      exact ih ascending

/-- **A map is made of its bindings.** -/
@[simp] theorem ofList_entries (m : SortedMap κ α) : ofList m.entries = m := by
  have entries : (ofList m.entries).entries = m.entries := entries_foldl_insert m.ascending
  obtain ⟨l, ascending⟩ := m
  cases made : ofList l with
  | mk l' ascending' =>
      rw [made] at entries
      cases entries
      rfl

end Agreement.SortedMap
