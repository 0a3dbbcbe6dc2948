/- # Agreement.Proofs.Json.Results: what follows when a decoder succeeds

The laws of the decoders say that what is written is read. Here is the way back, from a result to
what must have been the case. First, a decoder that accepts a whole has accepted its parts, with
the room that is left inside. Then the values: a property that the blank of a record has, and that
no field loses, holds of every record that is read, whatever the text looks like. Members may come
in any order, be unknown or missing, a record may be written as an array, and a content may stand
before its tag. None of this matters to the property.
-/
import Agreement.Proofs.Outcome
import Agreement.Proofs.Json.Decoding

namespace Agreement.Json

/-- The surroundings of what stands in an array or object. -/
def Source.inside (src : Source) : Source := { src with room := src.room - 1 }

/-- An array or object is only entered where there is room for it. -/
theorem Source.of_enter_eq_ok {ε : Type} {src inner : Source}
    (h : src.enter (ε := ε) = .ok inner) : 0 < src.room ∧ inner = src.inside := by
  unfold Source.enter at h
  split at h
  · cases h
  · next room found =>
    refine ⟨by omega, ?_⟩
    rw [← Except.ok.inj h, inside, found]
    rfl

theorem Source.inside_room_lt {src : Source} {room : Nat} (opens : 0 < src.room)
    (fits : src.room ≤ room) : src.inside.room < room := by
  simp only [inside]
  omega

namespace Decoder

variable {ε α β : Type}

/-! ## Parts of what is accepted -/

/-- Whether a decoder reads a tree as anything. -/
def Accepts (d : Decoder ε α) (src : Source) (t : Tree) : Prop := ∃ a, d src t = .ok a

section Accepts

variable {d : Decoder ε α} {src : Source} {t : Tree}

theorem Accepts.of_map {f : α → β} (h : Accepts (map f d) src t) : Accepts d src t := by
  obtain ⟨b, read⟩ := h
  obtain ⟨a, read, -⟩ := Except.map_eq_ok.mp read
  exact ⟨a, read⟩

/-- What a check passes has been read before. -/
theorem checked_eq_ok {check : α → Except ε β} {b : β} :
    checked d check src t = .ok b ↔ ∃ a, d src t = .ok a ∧ check a = .ok b := by
  unfold checked
  cases d src t with
  | error f => exact ⟨nofun, fun ⟨_, h, _⟩ => nomatch h⟩
  | ok a => cases passed : check a <;> simp [passed]

theorem Accepts.of_checked {check : α → Except ε β} (h : Accepts (checked d check) src t) :
    Accepts d src t := by
  obtain ⟨b, read⟩ := h
  obtain ⟨a, read, -⟩ := checked_eq_ok.mp read
  exact ⟨a, read⟩

theorem items_eq_ok {f : Tree → Except (Fault ε) α} {ts : List Tree} {l : List α}
    (read : items f ts = .ok l) : ∀ t ∈ ts, ∃ a, f t = .ok a := by
  induction ts generalizing l with
  | nil => nofun
  | cons t ts ih =>
      obtain ⟨a, first, read⟩ := Except.bind_eq_ok.mp read
      obtain ⟨others, rest, -⟩ := Except.bind_eq_ok.mp read
      exact List.forall_mem_cons.mpr ⟨⟨a, first⟩, ih rest⟩

/-- Every item of a list that is accepted is. -/
theorem Accepts.of_list {ts : List Tree} {stop : Option Break}
    (h : Accepts (list d) src (.array ts stop)) : ∀ t ∈ ts, Accepts d src.inside t := by
  obtain ⟨l, read⟩ := h
  obtain ⟨inner, entered, read⟩ := Except.bind_eq_ok.mp read
  obtain ⟨-, rfl⟩ := Source.of_enter_eq_ok entered
  obtain ⟨_, read, -⟩ := Except.bind_eq_ok.mp read
  exact items_eq_ok read

theorem fillMembers_eq_ok {fields : List (Field ε α)} {f : Field ε α} {name : String}
    (known : fields.find? (·.name == name) = some f) {members : List (Option String × Tree)}
    {s s' : Filling α} (read : fillMembers fields src s members = .ok s')
    (given : (some name, t) ∈ members) : ∃ a, Accepts (f.fill a) src t := by
  induction members generalizing s with
  | nil => cases given
  | cons member members ih =>
      obtain ⟨_ | other, u⟩ := member
      · cases read
      · rw [fillMembers] at read
        rcases List.mem_cons.mp given with same | later
        · obtain ⟨rfl, rfl⟩ : name = other ∧ t = u := by simpa using same
          simp only [known] at read
          split at read
          · cases read
          · obtain ⟨a, read, -⟩ := Except.bind_eq_ok.mp read
            exact ⟨s.value, a, read⟩
        · split at read
          · obtain ⟨_, -, read⟩ := Except.bind_eq_ok.mp read
            exact ih read later
          · split at read
            · cases read
            · obtain ⟨_, -, read⟩ := Except.bind_eq_ok.mp read
              exact ih read later

/-- The value of every known member of an object is accepted where the object is read as a
record. -/
theorem Accepts.of_record {blank : α} {fields : List (Field ε α)}
    {members : List (Option String × Tree)} {stop : Option Break}
    (h : Accepts (record blank fields) src (.object members stop)) {f : Field ε α} {name : String}
    (known : fields.find? (·.name == name) = some f) (given : (some name, t) ∈ members) :
    ∃ a, Accepts (f.fill a) src.inside t := by
  obtain ⟨b, read⟩ := h
  obtain ⟨inner, entered, read⟩ := Except.bind_eq_ok.mp read
  obtain ⟨-, rfl⟩ := Source.of_enter_eq_ok entered
  obtain ⟨s, read, -⟩ := Except.bind_eq_ok.mp read
  exact fillMembers_eq_ok known read given

/-- A content that follows its tag is accepted where the two are. -/
theorem Accepts.of_tagged {τ : Type} {tagName contentName name : String}
    {readTag : String → Option τ} {content : τ → Decoder ε α} {alone : τ → Option α} {tag : τ}
    {stop : Option Break} (apart : contentName ≠ tagName) (tagged : readTag name = some tag)
    (h : Accepts (Decoder.tagged tagName contentName readTag content alone) src
      (.object [(some tagName, .string (some name)), (some contentName, t)] stop)) :
    Accepts (content tag) src.inside t := by
  obtain ⟨b, read⟩ := h
  obtain ⟨inner, entered, read⟩ := Except.bind_eq_ok.mp read
  obtain ⟨-, rfl⟩ := Source.of_enter_eq_ok entered
  obtain ⟨s, read, -⟩ := Except.bind_eq_ok.mp read
  have chosen : choice (ε := ε) readTag src.inside (.string (some name)) = .ok tag := by
    simp [choice, variant, tagged]
  simp only [taggedMembers, if_true, if_neg apart, chosen] at read
  obtain ⟨_, found, read⟩ := Except.bind_eq_ok.mp read
  obtain rfl := Except.ok.inj found
  obtain ⟨a, read, -⟩ := Except.bind_eq_ok.mp read
  exact ⟨a, read⟩

end Accepts

/-! ## Parts of a record -/

/-- A field that fills a part of its record with what a decoder reads. -/
def Field.Sets {γ : Type} (f : Field ε α) (part : α → γ) (d : Decoder ε γ) : Prop :=
  ∀ a src t b, f.fill a src t = .ok b → d src t = .ok (part b)

/-- A field that leaves a part of its record as it is. -/
def Field.Leaves {γ : Type} (f : Field ε α) (part : α → γ) : Prop :=
  ∀ a src t b, f.fill a src t = .ok b → part b = part a

section Parts

variable {γ : Type} {part : α → γ} {d : Decoder ε γ} {name : String}

theorem sets_field {required : Bool} {set : γ → α → α} (h : ∀ x a, part (set x a) = x) :
    Field.Sets ⟨name, required, fun a => map (set · a) d⟩ part d := by
  intro a src t b read
  obtain ⟨x, found, rfl⟩ := Except.map_eq_ok.mp read
  rw [h]
  exact found

theorem leaves_field {required : Bool} {dx : Decoder ε β} {set : β → α → α}
    (h : ∀ x a, part (set x a) = part a) :
    Field.Leaves ⟨name, required, fun a => map (set · a) dx⟩ part := by
  intro a src t b read
  obtain ⟨x, -, rfl⟩ := Except.map_eq_ok.mp read
  exact h x a

variable {fields : List (Field ε α)} {f : Field ε α} {members : List (Option String × Tree)}
  {src : Source} {t : Tree} {s s' : Filling α}

/-- A part that has been given stays as it is, since no member may be given twice. -/
theorem part_eq_of_given (others : ∀ g ∈ fields, g.name ≠ name → g.Leaves part)
    (given : name ∈ s.given) (read : fillMembers fields src s members = .ok s') :
    part s'.value = part s.value := by
  induction members generalizing s with
  | nil => rw [← Except.ok.inj read]
  | cons member members ih =>
      obtain ⟨_ | other, u⟩ := member
      · cases read
      · rw [fillMembers] at read
        split at read
        · obtain ⟨_, -, read⟩ := Except.bind_eq_ok.mp read
          exact ih given read
        · next g known =>
          split at read
          · cases read
          · next new =>
            obtain ⟨a, filled, read⟩ := Except.bind_eq_ok.mp read
            rw [ih (List.mem_cons_of_mem _ given) read]
            refine others g (List.mem_of_find?_eq_some known) ?_ _ _ _ _ filled
            have named : g.name = other := by simpa using List.find?_some known
            rintro rfl
            rw [named] at given
            exact new (List.contains_iff_mem.mpr given)

/-- The part of a member that is given is what its decoder reads. -/
theorem fillMembers_sets (known : fields.find? (·.name == name) = some f) (sets : f.Sets part d)
    (others : ∀ g ∈ fields, g.name ≠ name → g.Leaves part)
    (read : fillMembers fields src s members = .ok s') (given : (some name, t) ∈ members) :
    d src t = .ok (part s'.value) := by
  induction members generalizing s with
  | nil => cases given
  | cons member members ih =>
      obtain ⟨_ | other, u⟩ := member
      · cases read
      · rw [fillMembers] at read
        rcases List.mem_cons.mp given with same | later
        · obtain ⟨rfl, rfl⟩ : name = other ∧ t = u := by simpa using same
          simp only [known] at read
          split at read
          · cases read
          · obtain ⟨a, filled, read⟩ := Except.bind_eq_ok.mp read
            rw [part_eq_of_given others List.mem_cons_self read]
            exact sets _ _ _ _ filled
        · split at read
          · obtain ⟨_, -, read⟩ := Except.bind_eq_ok.mp read
            exact ih read later
          · split at read
            · cases read
            · obtain ⟨_, -, read⟩ := Except.bind_eq_ok.mp read
              exact ih read later

/-- **A part that one field of a record fills is what the member of that name is read as.** -/
theorem record_sets {blank b : α} {stop : Option Break}
    (known : fields.find? (·.name == name) = some f) (sets : f.Sets part d)
    (others : ∀ g ∈ fields, g.name ≠ name → g.Leaves part) (given : (some name, t) ∈ members)
    (read : record blank fields src (.object members stop) = .ok b) :
    d src.inside t = .ok (part b) := by
  obtain ⟨inner, entered, read⟩ := Except.bind_eq_ok.mp read
  obtain ⟨-, rfl⟩ := Source.of_enter_eq_ok entered
  obtain ⟨s, read, ended⟩ := Except.bind_eq_ok.mp read
  obtain ⟨_, -, ended⟩ := Except.bind_eq_ok.mp ended
  have value : s.value = b := by
    unfold Filling.finish at ended
    split at ended
    · cases ended
    · exact Except.ok.inj ended
  rw [← value]
  exact fillMembers_sets known sets others read given

theorem forall₂_of_items {read : Tree → Except (Fault ε) α} {ts : List Tree} {l : List α}
    (h : items read ts = .ok l) : List.Forall₂ (fun t a => read t = .ok a) ts l := by
  induction ts generalizing l with
  | nil =>
      rw [← Except.ok.inj h]
      exact .nil
  | cons t ts ih =>
      obtain ⟨a, first, h⟩ := Except.bind_eq_ok.mp h
      obtain ⟨others, rest, h⟩ := Except.bind_eq_ok.mp h
      rw [← Except.ok.inj h]
      exact .cons first (ih rest)

/-- The items of a list are read one by one. -/
theorem forall₂_of_list {d : Decoder ε α} {ts : List Tree} {stop : Option Break} {l : List α}
    (read : list d src (.array ts stop) = .ok l) :
    List.Forall₂ (fun t a => d src.inside t = .ok a) ts l := by
  obtain ⟨inner, entered, read⟩ := Except.bind_eq_ok.mp read
  obtain ⟨-, rfl⟩ := Source.of_enter_eq_ok entered
  obtain ⟨_, each, ended⟩ := Except.bind_eq_ok.mp read
  obtain ⟨_, -, ended⟩ := Except.bind_eq_ok.mp ended
  rw [← Except.ok.inj ended]
  exact forall₂_of_items each

end Parts

/-! ## Properties of what is read -/

/-- Whatever a decoder reads where at most so many arrays and objects may be opened has a
property. -/
def Yields (d : Decoder ε α) (room : Nat) (P : α → Prop) : Prop :=
  ∀ src t a, src.room ≤ room → d src t = .ok a → P a

section Yields

variable {d : Decoder ε α} {room : Nat} {P : α → Prop} {Q : β → Prop}

theorem yields_any : Yields d room fun _ => True := fun _ _ _ _ _ => trivial

theorem yields_natural (bound : Nat) : Yields (ε := ε) (natural bound) room (· ≤ bound) := by
  intro src t n fits read
  unfold natural at read
  split at read
  · split at read
    · next i inside =>
      rw [← Except.ok.inj read]
      omega
    · cases read
  · cases read

theorem Yields.imp {P' : α → Prop} (h : Yields d room P) (imp : ∀ a, P a → P' a) :
    Yields d room P' :=
  fun src t a fits read => imp a (h src t a fits read)

theorem Yields.of_le {r : Nat} (h : Yields d room P) (le : r ≤ room) : Yields d r P :=
  fun src t a fits read => h src t a (fits.trans le) read

theorem Yields.map {f : α → β} (h : Yields d room P) (imp : ∀ a, P a → Q (f a)) :
    Yields (map f d) room Q := by
  intro src t b fits read
  obtain ⟨a, found, rfl⟩ := Except.map_eq_ok.mp read
  exact imp a (h src t a fits found)

theorem Yields.withOrigin {origin : Origin} (h : Yields d room P) :
    Yields (withOrigin origin d) room P :=
  fun src t a fits read => h { src with origin } t a fits (Except.mapError_eq_ok.mp read)

theorem Yields.checked {check : α → Except ε β} (h : Yields d room P)
    (passes : ∀ a b, P a → check a = .ok b → Q b) : Yields (checked d check) room Q := by
  intro src t b fits read
  obtain ⟨a, found, passed⟩ := checked_eq_ok.mp read
  exact passes a b (h src t a fits found) passed

theorem items_yield {f : Tree → Except (Fault ε) α} (h : ∀ t a, f t = .ok a → P a)
    {ts : List Tree} {l : List α} (read : items f ts = .ok l) : ∀ a ∈ l, P a := by
  induction ts generalizing l with
  | nil =>
      rw [← Except.ok.inj read]
      nofun
  | cons t ts ih =>
      obtain ⟨a, first, read⟩ := Except.bind_eq_ok.mp read
      obtain ⟨others, rest, read⟩ := Except.bind_eq_ok.mp read
      rw [← Except.ok.inj read]
      exact List.forall_mem_cons.mpr ⟨h t a first, ih rest⟩

/-- What is read of the items of an array has less room than the array. -/
theorem Yields.list (h : ∀ r < room, Yields d r P) :
    Yields (list d) room fun l => ∀ a ∈ l, P a := by
  intro src t l fits read
  unfold Decoder.list at read
  split at read
  · obtain ⟨inner, entered, read⟩ := Except.bind_eq_ok.mp read
    obtain ⟨opens, rfl⟩ := Source.of_enter_eq_ok entered
    obtain ⟨l, read, ended⟩ := Except.bind_eq_ok.mp read
    obtain ⟨_, -, ended⟩ := Except.bind_eq_ok.mp ended
    rw [← Except.ok.inj ended]
    exact items_yield (fun t a => h _ (Source.inside_room_lt opens fits) _ t a le_rfl) read
  · cases read

theorem fillMembers_yields {fields : List (Field ε α)} {src : Source}
    (fills : ∀ f ∈ fields, ∀ a, P a → Yields (f.fill a) src.room P)
    {members : List (Option String × Tree)} {s s' : Filling α} (hs : P s.value)
    (read : fillMembers fields src s members = .ok s') : P s'.value := by
  induction members generalizing s with
  | nil =>
      rw [← Except.ok.inj read]
      exact hs
  | cons member members ih =>
      obtain ⟨_ | name, t⟩ := member
      · cases read
      · rw [fillMembers] at read
        split at read
        · -- an unknown member is skipped and fills nothing in
          obtain ⟨_, -, read⟩ := Except.bind_eq_ok.mp read
          exact ih hs read
        · next f known =>
          split at read
          · cases read
          · obtain ⟨a, filled, read⟩ := Except.bind_eq_ok.mp read
            exact ih (fills f (List.mem_of_find?_eq_some known) _ hs _ t a le_rfl filled) read

theorem fillItems_yields {src : Source} {fields : List (Field ε α)}
    (fills : ∀ f ∈ fields, ∀ a, P a → Yields (f.fill a) src.room P)
    {ts : List Tree} {s s' : Filling α} (hs : P s.value)
    (read : fillItems src fields s ts = .ok s') : P s'.value := by
  induction ts generalizing fields s with
  | nil =>
      rw [fillItems] at read
      rw [← Except.ok.inj read]
      exact hs
  | cons t ts ih =>
      cases fields with
      | nil => cases read
      | cons f fields =>
          obtain ⟨first, others⟩ := List.forall_mem_cons.mp fills
          obtain ⟨a, filled, read⟩ := Except.bind_eq_ok.mp read
          exact ih others (first _ hs _ t a le_rfl filled) read

/-- A record that is finished is what has been filled in. -/
theorem Filling.of_finish_eq_ok {fields : List (Field ε α)} {absent : String → Fault ε}
    {s : Filling α} {a : α} (h : s.finish fields absent = .ok a) : s.value = a := by
  unfold Filling.finish at h
  split at h
  · cases h
  · exact Except.ok.inj h

/-- **What a blank record has and no field loses, every record that is read has.** -/
theorem yields_record {blank : α} {fields : List (Field ε α)} (begins : 0 < room → P blank)
    (fills : ∀ r < room, ∀ f ∈ fields, ∀ a, P a → Yields (f.fill a) r P) :
    Yields (record blank fields) room P := by
  intro src t b fits read
  unfold record at read
  split at read
  · -- an object, with its members in any order
    obtain ⟨inner, entered, read⟩ := Except.bind_eq_ok.mp read
    obtain ⟨opens, rfl⟩ := Source.of_enter_eq_ok entered
    obtain ⟨s, read, ended⟩ := Except.bind_eq_ok.mp read
    obtain ⟨_, -, ended⟩ := Except.bind_eq_ok.mp ended
    rw [← Filling.of_finish_eq_ok ended]
    exact fillMembers_yields (fills _ (Source.inside_room_lt opens fits)) (begins (by omega)) read
  · -- an array, with an item for each field from the first on
    obtain ⟨inner, entered, read⟩ := Except.bind_eq_ok.mp read
    obtain ⟨opens, rfl⟩ := Source.of_enter_eq_ok entered
    obtain ⟨s, read, ended⟩ := Except.bind_eq_ok.mp read
    have finished : s.finish fields (fun _ => .mismatch) = .ok b := by
      split at ended <;> obtain ⟨_, -, ended⟩ := Except.bind_eq_ok.mp ended <;> exact ended
    rw [← Filling.of_finish_eq_ok finished]
    exact fillItems_yields (fills _ (Source.inside_room_lt opens fits)) (begins (by omega)) read
  · cases read

/-- Whether the content, if it has been read, has a property. -/
def Tagged.Holds {τ : Type} (P : α → Prop) : Tagged τ α → Prop
  | .value a => P a
  | _ => True

section Tagged

variable {τ : Type} {tagName contentName : String} {content : τ → Decoder ε α}

theorem taggedMembers_holds {readTag : Decoder ε τ} {src : Source}
    (yields : ∀ tag, Yields (content tag) src.room P) {members : List (Option String × Tree)}
    {s s' : Tagged τ α} (hs : s.Holds P)
    (read : taggedMembers tagName contentName readTag content src s members = .ok s') :
    s'.Holds P := by
  induction members generalizing s with
  | nil =>
      rw [taggedMembers] at read
      rw [← Except.ok.inj read]
      exact hs
  | cons member members ih =>
      obtain ⟨_ | name, t⟩ := member
      · cases s <;> cases read
      · unfold taggedMembers at read
        split at read
        · split at read
          · obtain ⟨tag, -, read⟩ := Except.bind_eq_ok.mp read
            exact ih (s := .tag tag) trivial read
          · -- the content came first and has waited for this tag
            obtain ⟨tag, -, read⟩ := Except.bind_eq_ok.mp read
            obtain ⟨a, value, read⟩ := Except.bind_eq_ok.mp read
            exact ih (s := .value a) ((yields tag).withOrigin _ _ a le_rfl value) read
          · cases read
        · split at read
          · split at read
            · obtain ⟨_, -, read⟩ := Except.bind_eq_ok.mp read
              exact ih (s := .held t) trivial read
            · next tag =>
              obtain ⟨a, value, read⟩ := Except.bind_eq_ok.mp read
              exact ih (s := .value a) (yields tag _ _ a le_rfl value) read
            · cases read
          · obtain ⟨_, -, read⟩ := Except.bind_eq_ok.mp read
            exact ih hs read

/-- What every content has, and every tag that needs none makes, is had by the two together. -/
theorem yields_tagged {readTag : String → Option τ} {alone : τ → Option α}
    (yields : ∀ r < room, ∀ tag, Yields (content tag) r P)
    (lone : ∀ tag a, alone tag = some a → P a) :
    Yields (tagged tagName contentName readTag content alone) room P := by
  intro src t b fits read
  cases t with
  | object members stop =>
      obtain ⟨inner, entered, read⟩ := Except.bind_eq_ok.mp read
      obtain ⟨opens, rfl⟩ := Source.of_enter_eq_ok entered
      obtain ⟨s, read, ended⟩ := Except.bind_eq_ok.mp read
      obtain ⟨_, -, ended⟩ := Except.bind_eq_ok.mp ended
      have holds : s.Holds P := taggedMembers_holds (yields _ (Source.inside_room_lt opens fits))
        (s := .nothing) trivial read
      cases s with
      | nothing => cases ended
      | held content => cases ended
      | value a =>
          rw [← Except.ok.inj ended]
          exact holds
      | tag tag =>
          cases found : alone tag with
          | none => simp [found] at ended
          | some a =>
              obtain rfl : a = b := by simpa [found] using ended
              exact lone tag a found
  | array ts stop =>
      obtain ⟨inner, entered, read⟩ := Except.bind_eq_ok.mp read
      obtain ⟨opens, rfl⟩ := Source.of_enter_eq_ok entered
      match ts with
      | t :: u :: rest =>
          obtain ⟨tag, -, read⟩ := Except.bind_eq_ok.mp read
          obtain ⟨a, value, ended⟩ := Except.bind_eq_ok.mp read
          have kept : a = b := by
            split at ended
            · obtain ⟨_, -, ended⟩ := Except.bind_eq_ok.mp ended
              exact Except.ok.inj ended
            · cases ended
          rw [← kept]
          exact yields _ (Source.inside_room_lt opens fits) tag _ u a le_rfl value
      | [_] =>
          obtain ⟨_, -, read⟩ := Except.bind_eq_ok.mp read
          obtain ⟨_, -, read⟩ := Except.bind_eq_ok.mp read
          cases read
      | [] =>
          obtain ⟨_, -, read⟩ := Except.bind_eq_ok.mp read
          cases read
  | null | bool | number | string | broken => cases read

end Tagged

end Yields

end Decoder

end Agreement.Json
