/- # Agreement.Proofs.Document.Loading: what every loaded document is like

Whatever text a document is loaded from, its tables are ones that `Table.make` allows, the content
of each block fits its kind, and its lists nest at most 61 deep: the items of a list stand within
six arrays and objects and take two more for each level but the last, which takes one. So a
document whose lists nest deeper can be saved, but its text is refused.
-/
import Agreement.Proofs.Document.Saving
import Agreement.Proofs.Json.Results

namespace Agreement

open Json Json.Decoder

/-! ## Loaded parts -/

theorem Table.yields_sound (room : Nat) : Yields decoder room Sound :=
  yields_any.checked fun _ _ _ made => sound_of_make made

section Nesting

variable {ε : Type}

/-- An item that is read nests no deeper than the room allows. -/
theorem Item.yields_repeated (n room : Nat) :
    Yields (ε := ε) (repeated stepDecoder n) room fun item => 2 * item.depth ≤ room + 1 := by
  induction n generalizing room with
  | zero => nofun
  | succ n ih =>
      have blank : 0 < room → 2 * (mk "" []).depth ≤ room + 1 := by
        intro opens
        simp only [depth, depthAll]
        omega
      refine yields_record blank fun r hr f hf item deep => ?_
      obtain ⟨s, children⟩ := item
      rcases List.mem_cons.mp hf with rfl | hf
      · exact yields_any.map fun _ _ => deep
      · obtain rfl := List.mem_singleton.mp hf
        -- the items below stand within this item's object and within an array
        have below : ∀ q < r, Yields (ε := ε) (repeated stepDecoder n) q fun item =>
            item.depth ≤ r / 2 := fun q hq => (ih q).imp fun item deep => by omega
        refine (Yields.list below).map fun l shallow => ?_
        have all := depthAll_le_iff.mpr shallow
        simp only [depth]
        omega

theorem Item.yields_shallow (room : Nat) :
    Yields (ε := ε) decoder room fun item => 2 * item.depth ≤ room + 1 :=
  fun src t item fits read => yields_repeated (src.room + 1) room src t item fits read

theorem ItemList.yields_shallow (room : Nat) :
    Yields (ε := ε) decoder room fun l => 2 * l.depth + 1 ≤ room := by
  refine yields_record id fun r hr f hf l deep => ?_
  have items : ∀ q < r, Yields (ε := ε) Item.decoder q fun item => item.depth ≤ r / 2 :=
    fun q hq => (Item.yields_shallow q).imp fun item deep => by omega
  simp only [List.mem_cons, List.not_mem_nil, or_false] at hf
  rcases hf with rfl | rfl | rfl
  · refine (Yields.list items).map fun l shallow => ?_
    have all := Item.depthAll_le_iff.mpr shallow
    simp only [depth]
    omega
  · exact yields_any.map fun _ _ => deep
  · exact yields_any.map fun _ _ => deep

end Nesting

/-- A content whose table is allowed and whose list nests at most so deep. -/
def Content.SoundWithin (n : Nat) (c : Content) : Prop :=
  c.Sound ∧ ∀ l, c.list? = some l → l.depth ≤ n

/-- A block that holds such a content, which fits its kind. -/
def Block.SoundWithin (n : Nat) (b : Block) : Prop :=
  b.Sound ∧ ∀ l, b.list? = some l → l.depth ≤ n

theorem Content.yields_sound (n : Nat) : Yields decoder (2 * n + 2) (SoundWithin n) := by
  refine yields_tagged (fun r hr type => ?_) ?_
  · cases type with
    | text => exact yields_any.map fun _ _ => ⟨nofun, nofun⟩
    | table =>
        refine (Table.yields_sound r).map fun t sound => ⟨?_, nofun⟩
        rintro _ ⟨⟩
        exact sound
    | list =>
        refine (ItemList.yields_shallow r).map fun l shallow => ⟨nofun, ?_⟩
        rintro _ ⟨⟩
        omega
    | empty => exact yields_any.map fun _ _ => ⟨nofun, nofun⟩
  · rintro (_ | _ | _ | _) c ⟨⟩
    exact ⟨nofun, nofun⟩

theorem Block.yields_sound (n : Nat) : Yields decoder (2 * n + 3) (SoundWithin n) := by
  refine Yields.checked (P := fun b => b.content.SoundWithin n) ?_ fun raw b sound passed => ?_
  · refine yields_record (fun _ => ⟨nofun, nofun⟩) fun r hr f hf b sound => ?_
    simp only [List.mem_cons, List.not_mem_nil, or_false] at hf
    rcases hf with rfl | rfl | rfl | rfl | rfl
    · exact yields_any.map fun _ _ => sound
    · exact yields_any.map fun _ _ => sound
    · exact ((Content.yields_sound n).of_le (by omega)).map fun _ kept => kept
    · exact yields_any.map fun _ _ => sound
    · exact yields_any.map fun _ _ => sound
  · obtain ⟨_, fitting, rfl⟩ := Except.map_eq_ok.mp passed
    exact ⟨⟨fits_of_check fitting, sound.1⟩, sound.2⟩

/-! ## Loaded documents -/

/-- The blocks of a loaded document have what every block has that is read at that depth. -/
theorem Document.forall_of_load {P : Block → Prop} (yields : Yields Block.decoder 125 P)
    {now : Timestamp} {text : String} {d : Document} (loaded : load now text = .ok d) :
    ∀ b ∈ d.blocks, P b := by
  have filled : Yields (decoder now) maxRoom fun d => ∀ b ∈ d.blocks, P b := by
    refine yields_record (fun _ => by simp [empty]) fun r hr f hf d each => ?_
    simp only [List.mem_cons, List.not_mem_nil, or_false] at hf
    have room : r ≤ 126 := Nat.le_of_lt_succ hr
    rcases hf with rfl | rfl | rfl | rfl | rfl
    · exact yields_any.map fun _ _ => each
    · exact yields_any.map fun _ _ => each
    · exact yields_any.map fun _ _ => each
    · exact (Yields.list fun q hq => yields.of_le (by omega)).map fun _ blocks => blocks
    · exact yields_any.map fun _ _ => each
  exact filled _ _ d le_rfl (decode_eq_ok.mp loaded).1

/-- **Every loaded document is sound, and its lists nest at most 61 deep**, whatever its text. -/
theorem Document.soundWithin_of_load {now : Timestamp} {text : String} {d : Document}
    (loaded : load now text = .ok d) : ∀ b ∈ d.blocks, b.SoundWithin 61 :=
  forall_of_load (Block.yields_sound 61) loaded

/-! ## Texts that are refused -/

/-- A list that is accepted as it is written nests no deeper than the room allows. -/
theorem ItemList.shallow_of_accepts {ε : Type} {l : ItemList} {src : Source} {n : Nat}
    (room : src.room ≤ 2 * n + 1) (h : Accepts (ε := ε) decoder src l.toJson.tree) :
    l.depth ≤ n := by
  obtain ⟨_, filled⟩ := h.of_record rfl List.mem_cons_self
  refine Item.depthAll_le_iff.mpr fun item hi => ?_
  have accepted := filled.of_map.of_list item.toJson.tree (by
    rw [itemTrees_eq_map, Item.toJsonAll_eq_map, List.map_map]
    exact List.mem_map_of_mem hi)
  obtain ⟨_, read⟩ := accepted
  rw [Item.decoder_toJson] at read
  split at read
  · next enough =>
    simp only [Source.inside] at enough
    omega
  · cases read

theorem Block.shallow_of_accepts {b : Block} {src : Source} {n : Nat}
    (room : src.room ≤ 2 * n + 3) (h : Accepts decoder src b.toJson.tree) :
    ∀ l, b.list? = some l → l.depth ≤ n := by
  intro l list
  have content : b.content = .list l := by
    unfold list? at list
    split at list
    · next found => rw [found, Option.some.inj list]
    · cases list
  obtain ⟨_, filled⟩ := h.of_checked.of_record rfl
    (List.mem_cons_of_mem _ (List.mem_cons_of_mem _ List.mem_cons_self))
  have accepted := filled.of_map
  rw [content] at accepted
  have value := Accepts.of_tagged (by decide) (ContentType.ofName?_name .list) accepted
  refine ItemList.shallow_of_accepts ?_ value.of_map
  simp only [Source.inside]
  omega

/-- Where a document is loaded from its saved text at all, its lists nest at most 61 deep. -/
theorem Document.shallow_of_load_save {d d' : Document} {layout : Layout} {now : Timestamp}
    (loaded : load now (save layout d) = .ok d') :
    ∀ b ∈ d.blocks, ∀ l, b.list? = some l → l.depth ≤ 61 := by
  have accepted : Accepts (decoder now) { room := maxRoom } d.toJson.tree :=
    ⟨d', load_save_iff.mp loaded⟩
  obtain ⟨_, filled⟩ := accepted.of_record rfl
    (List.mem_cons_of_mem _ (List.mem_cons_of_mem _ (List.mem_cons_of_mem _ List.mem_cons_self)))
  intro b hb
  refine Block.shallow_of_accepts (by decide) (filled.of_map.of_list b.toJson.tree ?_)
  rw [itemTrees_eq_map, List.map_map]
  exact List.mem_map_of_mem hb

end Agreement
