/- # Agreement.Proofs.Json.Decoding: decoders read what is written

A decoder reads a value as something, given room for so many nested arrays and objects. One law for
each way to put decoders together says when the decoder so made reads the value that is put
together in the same way. A record is the main one: its fields are written in their order, and an
optional one may be left out when its value is the blank one, so which name belongs to which field
is settled once for all records whose names differ.
-/
import Agreement.Proofs.Json.Values

namespace Agreement.Json

/-! ## Room -/

theorem Source.enter_eq {ε : Type} {src : Source} {n : Nat} (h : n + 1 ≤ src.room) :
    src.enter (ε := ε) = .ok { src with room := src.room - 1 } := by
  unfold Source.enter
  split
  · omega
  · next room => simp_all

/-- Whether a tree is there, not `null` and not broken. -/
def Tree.IsPresent : Tree → Prop
  | .null => False
  | .broken _ => False
  | _ => True

namespace Decoder

variable {ε α β : Type} {d : Decoder ε α} {room : Nat} {a : α} {j : Json}

/-- A legible value that a decoder reads as something where so many arrays and objects may still be
opened. -/
structure Reads (d : Decoder ε α) (room : Nat) (a : α) (j : Json) : Prop where
  legible : j.Legible
  reads : ∀ src : Source, room ≤ src.room → d src j.tree = .ok a

/-- More room does not hurt. -/
theorem Reads.mono {room' : Nat} (h : Reads d room a j) (le : room ≤ room') : Reads d room' a j :=
  ⟨h.legible, fun src enough => h.reads src (le.trans enough)⟩

/-- What is written of a value is read as it in either layout. -/
theorem Reads.decode_text (h : Reads d room a j) (enough : room ≤ maxRoom) (layout : Layout) :
    decode d (j.text layout) = .ok a :=
  (decode_text_eq_ok layout h.legible).mpr (h.reads _ enough)

theorem Reads.map (h : Reads d room a j) (f : α → β) : Reads (map f d) room (f a) j :=
  ⟨h.legible, fun src enough => by rw [Decoder.map, h.reads src enough]; rfl⟩

theorem Reads.checked {check : α → Except ε β} {b : β} (h : Reads d room a j)
    (passes : check a = .ok b) : Reads (checked d check) room b j :=
  ⟨h.legible, fun src enough => by rw [Decoder.checked, h.reads src enough]; simp [passes]⟩

/-! ## Scalars -/

theorem reads_string (room : Nat) (s : String) : Reads (ε := ε) string room s (.string s) :=
  ⟨trivial, fun _ _ => rfl⟩

theorem reads_bool (room : Nat) (b : Bool) : Reads (ε := ε) bool room b (.bool b) :=
  ⟨trivial, fun _ _ => rfl⟩

theorem reads_natural {bound n : Nat} (room : Nat) (fits : n ≤ bound) (word : bound ≤ maxWord) :
    Reads (ε := ε) (natural bound) room n (.count n) := by
  refine ⟨fits.trans word, fun src _ => ?_⟩
  have inside : (0 : Int) ≤ n ∧ (n : Int) ≤ bound := ⟨by omega, by omega⟩
  rw [tree, natural, if_pos inside, Int.toNat_natCast]

theorem reads_uint8 (room : Nat) (n : UInt8) : Reads (ε := ε) uint8 room n (.count n.toNat) := by
  have fits : n.toNat ≤ 0xFF := by have := n.toNat_lt; omega
  have read := (@reads_natural ε _ _ room fits (by decide)).map UInt8.ofNat
  rwa [UInt8.ofNat_toNat] at read

theorem reads_uint32 (room : Nat) (n : UInt32) : Reads (ε := ε) uint32 room n (.count n.toNat) := by
  have fits : n.toNat ≤ 0xFFFFFFFF := by have := n.toNat_lt; omega
  have read := (@reads_natural ε _ _ room fits (by decide)).map UInt32.ofNat
  rwa [UInt32.ofNat_toNat] at read

theorem reads_uint64 (room : Nat) (n : UInt64) : Reads (ε := ε) uint64 room n (.count n.toNat) := by
  have fits : n.toNat ≤ maxWord := by have := n.toNat_lt; simp [maxWord]; omega
  have read := (@reads_natural ε _ _ room fits le_rfl).map UInt64.ofNat
  rwa [UInt64.ofNat_toNat] at read

theorem reads_measure (room : Nat) {x : Binary32} (finite : x.isFinite = true)
    (back : x.ReadsBack) : Reads (ε := ε) measure room x (.measure x) := by
  obtain ⟨n, numeral, value⟩ := back.exists_numeral
  refine ⟨trivial, fun src _ => ?_⟩
  rw [tree, if_pos finite, numeral, measure, value]

/-- A choice is written as the name of what is chosen. -/
theorem reads_choice {read : String → Option α} {name : String} (room : Nat)
    (named : read name = some a) : Reads (ε := ε) (choice read) room a (.string name) :=
  ⟨trivial, fun src _ => by simp [choice, variant, tree, named]⟩

/-- What a name holds is written as the only member of an object. -/
theorem reads_holding {read : String → Option (Variant ε α)} {name : String} {room : Nat}
    {members : List (String × Json)} (named : read name = some (.holding d))
    (h : Reads d room a (.object members)) :
    Reads (variant read) (room + 1) a (.object [(name, .object members)]) := by
  refine ⟨⟨h.legible, trivial⟩, fun src enough => ?_⟩
  have inside := h.reads { src with room := src.room - 1 } (by simp only; omega)
  simp only [tree, memberTrees] at inside ⊢
  simp [variant, Source.enter_eq enough, bind, Except.bind, named, holdsFields, inside, passClose,
    pure, Except.pure]

/-! ## Options and lists -/

theorem reads_none (room : Nat) : Reads (option d) room none .null :=
  ⟨trivial, fun _ _ => rfl⟩

theorem Reads.some (h : Reads d room a j) (present : j.tree.IsPresent) :
    Reads (option d) room (some a) j := by
  refine ⟨h.legible, fun src enough => ?_⟩
  have read := h.reads src enough
  unfold option
  split
  · simp_all [Tree.IsPresent]
  · simp_all [Tree.IsPresent]
  · rw [read]
    rfl

/-- An optional field reads what it is written as, present or not. -/
theorem reads_ofOption {write : α → Json} {o : Option α}
    (h : ∀ a, o = some a → Reads d room a (write a) ∧ (write a).tree.IsPresent) :
    Reads (option d) room o (.ofOption write o) := by
  cases o with
  | none => exact reads_none room
  | some a => exact (h a rfl).1.some (h a rfl).2

theorem items_map {read : Tree → Except (Fault ε) α} {write : α → Json} {l : List α}
    (h : ∀ a ∈ l, read (write a).tree = .ok a) :
    items read ((l.map write).map tree) = .ok l := by
  induction l with
  | nil => rfl
  | cons a l ih =>
      obtain ⟨first, others⟩ := List.forall_mem_cons.mp h
      rw [List.map_cons, List.map_cons, items, first, ih others]
      rfl

theorem reads_list {write : α → Json} {l : List α} (h : ∀ a ∈ l, Reads d room a (write a)) :
    Reads (list d) (room + 1) l (.array (l.map write)) := by
  constructor
  · rw [Legible, legibleItems_iff]
    intro item hi
    obtain ⟨a, ha, rfl⟩ := List.mem_map.mp hi
    exact (h a ha).legible
  · intro src enough
    have read := items_map fun a ha =>
      (h a ha).reads { src with room := src.room - 1 } (by simp only; omega)
    rw [tree, itemTrees_eq_map, list, Source.enter_eq enough]
    simp only [bind, Except.bind, read]
    rfl

/-- Bindings are written as members under the names of their keys. -/
theorem reads_bindings {key : String → Except (Fault ε) β} {name : β → String} {write : α → Json}
    {l : List (β × α)} (keys : ∀ p ∈ l, key (name p.1) = .ok p.1)
    (values : ∀ p ∈ l, Reads d room p.2 (write p.2)) :
    Reads (bindings key d) (room + 1) l (.object (l.map fun p => (name p.1, write p.2))) := by
  constructor
  · rw [Legible, legibleMembers_iff]
    intro m hm
    obtain ⟨p, hp, rfl⟩ := List.mem_map.mp hm
    exact (values p hp).legible
  · intro src enough
    have read : mapMembers key (d { src with room := src.room - 1 })
        (memberTrees (l.map fun p => (name p.1, write p.2))) = .ok l := by
      induction l with
      | nil => rfl
      | cons p l ih =>
          obtain ⟨named, keys⟩ := List.forall_mem_cons.mp keys
          obtain ⟨first, values⟩ := List.forall_mem_cons.mp values
          have value := first.reads { src with room := src.room - 1 } (by simp only; omega)
          rw [List.map_cons, memberTrees, mapMembers, named, value, ih keys values]
          rfl
    rw [tree, bindings, Source.enter_eq enough]
    simp only [bind, Except.bind, read]
    rfl

/-! ## Records -/

/-- Fields that members of an object fill in, in the order of both: from a value on its way to the
value at the end. A field that need not be there may be left out. -/
inductive Fills (room : Nat) : List (Field ε α) → α → List (String × Json) → α → Prop
  | nil (a : α) : Fills room [] a [] a
  | given {f : Field ε α} {fields : List (Field ε α)} {a a' b : α} {j : Json}
      {members : List (String × Json)} (fills : Reads (f.fill a) room a' j)
      (rest : Fills room fields a' members b) :
      Fills room (f :: fields) a ((f.name, j) :: members) b
  | left {f : Field ε α} {fields : List (Field ε α)} {a b : α} {members : List (String × Json)}
      (optional : f.required = false) (rest : Fills room fields a members b) :
      Fills room (f :: fields) a members b

namespace Fills

variable {fields : List (Field ε α)} {b : α} {members : List (String × Json)} {x : β}
  {dx : Decoder ε β} {set : β → α → α} {name : String}

theorem field (reads : Reads dx room x j) (rest : Fills room fields (set x a) members b) :
    Fills room (Decoder.field name set dx :: fields) a ((name, j) :: members) b :=
  .given (reads.map (set · a)) rest

theorem optionalField (reads : Reads dx room x j)
    (rest : Fills room fields (set x a) members b) :
    Fills room (Decoder.optionalField name set dx :: fields) a ((name, j) :: members) b :=
  .given (reads.map (set · a)) rest

/-- A member that is left out when there is nothing to write. -/
theorem ifSome {set : Option β → α → α} {write : β → Json} {o : Option β}
    (reads : ∀ x, o = some x → Reads dx room x (write x) ∧ (write x).tree.IsPresent)
    (blank : set none a = a) (rest : Fills room fields (set o a) members b) :
    Fills room (Decoder.optionalField name set (option dx) :: fields) a
      (memberIfSome name write o ++ members) b := by
  cases o with
  | none =>
      rw [blank] at rest
      exact .left rfl rest
  | some x => exact .given (((reads x rfl).1.some (reads x rfl).2).map (set · a)) rest

/-- A list that is left out when it is empty. -/
theorem ifAny {set : List β → α → α} {write : β → Json} {l : List β}
    (reads : ∀ x ∈ l, Reads dx room x (write x)) (blank : set [] a = a)
    (rest : Fills (room + 1) fields (set l a) members b) :
    Fills (room + 1) (Decoder.optionalField name set (list dx) :: fields) a
      (memberIfAny name write l ++ members) b := by
  cases l with
  | nil =>
      rw [blank] at rest
      exact .left rfl rest
  | cons x l => exact .given ((reads_list reads).map (set · a)) rest

theorem legible (h : Fills room fields a members b) : LegibleMembers members := by
  induction h with
  | nil => trivial
  | given fills _ ih => exact ⟨fills.legible, ih⟩
  | left _ _ ih => exact ih

theorem find?_name {before : List (Field ε α)} {f : Field ε α}
    (apart : ((before ++ f :: fields).map Field.name).Nodup) :
    (before ++ f :: fields).find? (·.name == f.name) = some f := by
  rw [List.find?_eq_some_iff_append]
  refine ⟨beq_self_eq_true _, before, fields, rfl, ?_⟩
  intro g hg
  rw [List.map_append, List.nodup_append] at apart
  have other := apart.2.2 g.name (List.mem_map_of_mem hg) f.name (by simp)
  simpa using other

/-- Going through the members fills in the fields, and all that must be given are. -/
theorem exists_filling (h : Fills room fields a members b) {src : Source}
    (enough : room ≤ src.room) {before : List (Field ε α)} {given : List String}
    (apart : ((before ++ fields).map Field.name).Nodup)
    (known : ∀ n ∈ given, n ∈ before.map Field.name) :
    ∃ given', fillMembers (before ++ fields) src ⟨a, given⟩ (memberTrees members) =
        .ok ⟨b, given'⟩ ∧
      (∀ n ∈ given, n ∈ given') ∧ ∀ f ∈ fields, f.required = true → f.name ∈ given' := by
  induction h generalizing before given with
  | nil a => exact ⟨given, rfl, fun _ h => h, nofun⟩
  | @given f fields a a' b j members fills rest ih =>
      have new : f.name ∉ given := by
        intro old
        rw [List.map_append, List.nodup_append] at apart
        exact apart.2.2 _ (known _ old) f.name (by simp) rfl
      obtain ⟨given', filled, kept, required⟩ :=
        @ih (before ++ [f]) (f.name :: given) (by simpa using apart) (by
          intro n hn
          rw [List.map_append, List.mem_append]
          rcases List.mem_cons.mp hn with rfl | old
          · exact .inr (by simp)
          · exact .inl (known n old))
      refine ⟨given', ?_, fun n hn => kept n (List.mem_cons_of_mem _ hn), ?_⟩
      · rw [List.append_assoc, List.singleton_append] at filled
        rw [memberTrees, fillMembers, find?_name apart]
        simp only [List.contains_iff_mem, if_neg new, bind, Except.bind, fills.reads src enough]
        exact filled
      · intro g hg needed
        rcases List.mem_cons.mp hg with rfl | later
        · exact kept _ List.mem_cons_self
        · exact required g later needed
  | @left f fields a b members optional rest ih =>
      obtain ⟨given', filled, kept, required⟩ :=
        @ih (before ++ [f]) given (by simpa using apart) (by
          intro n hn
          rw [List.map_append, List.mem_append]
          exact .inl (known n hn))
      refine ⟨given', ?_, kept, ?_⟩
      · rwa [List.append_assoc, List.singleton_append] at filled
      · intro g hg needed
        rcases List.mem_cons.mp hg with rfl | later
        · rw [optional] at needed
          cases needed
        · exact required g later needed

end Fills

/-- **A record reads what its fields are written as**, if no two fields have one name. -/
theorem reads_record {fields : List (Field ε α)} {blank b : α} {members : List (String × Json)}
    (apart : (fields.map Field.name).Nodup) (h : Fills room fields blank members b) :
    Reads (record blank fields) (room + 1) b (.object members) := by
  refine ⟨h.legible, fun src enough => ?_⟩
  obtain ⟨given, filled, -, required⟩ :=
    @Fills.exists_filling _ _ _ _ _ _ _ h { src with room := src.room - 1 } (by simp only; omega) []
      [] apart nofun
  have complete : fields.find? (fun f => f.required && !given.contains f.name) = none := by
    rw [List.find?_eq_none]
    intro f hf missing
    simp only [Bool.and_eq_true, Bool.not_eq_true', List.contains_eq_mem, decide_eq_false_iff_not]
      at missing
    exact missing.2 (required f hf missing.1)
  rw [tree, record, Source.enter_eq enough]
  rw [List.nil_append] at filled
  simp only [bind, Except.bind, filled, passEnd, Filling.finish, complete]

/-! ## Tags -/

section Tagged

variable {τ : Type} {tagName contentName name : String} {readTag : String → Option τ}
  {content : τ → Decoder ε α} {alone : τ → Option α} {t : τ}

/-- A tag with the content that it explains. -/
theorem reads_tagged (apart : contentName ≠ tagName) (tagged : readTag name = some t)
    (h : Reads (content t) room a j) :
    Reads (Decoder.tagged tagName contentName readTag content alone) (room + 1) a
      (.object [(tagName, .string name), (contentName, j)]) := by
  refine ⟨⟨trivial, h.legible, trivial⟩, fun src enough => ?_⟩
  have tag := (reads_choice (ε := ε) room tagged).reads { src with room := src.room - 1 }
    (by simp only; omega)
  have value := h.reads { src with room := src.room - 1 } (by simp only; omega)
  simp only [tree] at tag
  simp [tree, memberTrees, Decoder.tagged, Source.enter_eq enough, taggedMembers, apart, bind,
    Except.bind, tag, value, passEnd]

/-- A tag that needs no content. -/
theorem reads_tagged_alone (tagged : readTag name = some t) (lone : alone t = some a) :
    Reads (Decoder.tagged tagName contentName readTag content alone) (room + 1) a
      (.object [(tagName, .string name)]) := by
  refine ⟨⟨trivial, trivial⟩, fun src enough => ?_⟩
  have tag := (reads_choice (ε := ε) room tagged).reads { src with room := src.room - 1 }
    (by simp only; omega)
  simp only [tree] at tag
  simp [tree, memberTrees, Decoder.tagged, Source.enter_eq enough, taggedMembers, bind,
    Except.bind, tag, passEnd, lone]

end Tagged

section Union

variable {τ : Type} {tagName name : String} {members : List (String × Json)} {t : τ}

/-- What stands behind a tag waits for the record that the tag stands for. -/
theorem splitTag_memberTrees {readTag : Decoder ε τ} {src : Source}
    (apart : ∀ m ∈ members, m.1 ≠ tagName)
    (scalars : ∀ m ∈ members, anything (ε := ε) src.room m.2.tree = .ok ()) :
    splitTag tagName readTag src (some t) (memberTrees members) =
      .ok (some t, memberTrees members) := by
  induction members with
  | nil => rfl
  | cons m members ih =>
      obtain ⟨other, apart⟩ := List.forall_mem_cons.mp apart
      obtain ⟨scalar, scalars⟩ := List.forall_mem_cons.mp scalars
      rw [memberTrees, splitTag, if_neg other, scalar]
      simp only [bind, Except.bind, ih apart scalars]
      rfl

/-- A tag before the fields of the record that it stands for, if none of them takes room. -/
theorem reads_union {readTag : String → Option τ} {body : τ → Decoder ε α}
    (tagged : readTag name = some t) (apart : ∀ m ∈ members, m.1 ≠ tagName)
    (scalars : ∀ m ∈ members, ∀ room, anything (ε := ε) room m.2.tree = .ok ())
    (h : Reads (body t) (room + 1) a (.object members)) :
    Reads (union tagName readTag body) (room + 1) a
      (.object ((tagName, .string name) :: members)) := by
  refine ⟨⟨trivial, h.legible⟩, fun src enough => ?_⟩
  have waiting := @splitTag_memberTrees ε τ tagName members t (Decoder.name readTag)
    { src with room := src.room - 1 } apart fun m hm => scalars m hm _
  -- the record is read again from what was kept
  have found := h.reads { src with origin := .kept } enough
  simp only [tree] at found
  simp only [tree, memberTrees, union, Source.enter_eq enough, splitTag, if_true, Decoder.name,
    tagged, bind, Except.bind, waiting, passEnd, withOrigin, found]
  rfl

end Union

end Decoder

end Agreement.Json
