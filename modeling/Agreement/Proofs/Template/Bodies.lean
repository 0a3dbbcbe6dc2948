/- # Agreement.Proofs.Template.Bodies: what the bodies of placeholders are

The body of a placeholder is a name, a list of three or four forms behind its mark, or a tag and a
word around a colon, with blank space around any of it. The parser accepts exactly these. What it
makes of a body are parts of the body, and nothing of the body is lost but the marks and blank space.
-/
import Agreement.Proofs.Gender.Tokens
import Agreement.Proofs.Template.Reading
import Agreement.Proofs.Text.Lines
import Agreement.Proofs.Text.Occurrences

namespace Agreement

open Text

/-! ## Names -/

namespace Placeholder

theorem isSpace_of_identifierChar {c : Char} (h : (Unicode.isAlphanumeric c || c == '_') = true) :
    Unicode.isSpace c = false := by
  rcases Bool.or_eq_true _ _ |>.mp h with word | underscore
  · exact isSpace_of_isWordChar (by simp [isWordChar, word])
  · rw [beq_iff_eq.mp underscore]
    decide

theorem ne_of_identifierChar {c : Char} (h : (Unicode.isAlphanumeric c || c == '_') = true) :
    c ≠ '\x7b' ∧ c ≠ '\x7d' ∧ c ≠ ':' ∧ c ≠ '@' := by
  refine ⟨?_, ?_, ?_, ?_⟩ <;>
  · rintro rfl
    exact absurd h (by decide)

/-- Every character of an identifier is a letter, a digit or an underscore. -/
theorem identifierChar_of_mem {name : List Char} (h : isIdentifier name = true) {c : Char}
    (hc : c ∈ name) : (Unicode.isAlphanumeric c || c == '_') = true := by
  cases name with
  | nil => cases hc
  | cons d rest =>
      simp only [isIdentifier, Bool.and_eq_true, List.all_eq_true] at h
      rcases List.mem_cons.mp hc with rfl | later
      · have first := h.1
        simp only [Bool.or_eq_true] at first ⊢
        rcases first with letter | underscore
        · exact .inl (by simp [Unicode.isAlphanumeric, letter])
        · exact .inr underscore
      · exact h.2 c later

/-- An identifier with blank space around it is the body of its variable. -/
theorem parseBody_of_isIdentifier_trim {body : List Char} (h : isIdentifier (trim body) = true) :
    parseBody body = some (.variable (String.ofList (trim body))) := by
  have unmarked : formsMark.isPrefixOf? (trim body) = none := by
    rw [Option.eq_none_iff_forall_ne_some]
    intro rest marked
    have colon : ':' ∈ trim body := by
      rw [← List.isPrefixOf?_eq_some_iff_append_eq.mp marked]
      exact List.mem_append_left _ (by decide)
    exact (ne_of_identifierChar (identifierChar_of_mem h colon)).2.2.1 rfl
  unfold parseBody
  dsimp only
  rw [unmarked]
  dsimp only
  split
  · next rest starts =>
      have at_sign : '@' ∈ trim body := by rw [starts]; exact List.mem_cons_self
      exact absurd rfl (ne_of_identifierChar (identifierChar_of_mem h at_sign)).2.2.2
  · rw [if_pos h]

/-- An identifier is the body of its variable. -/
theorem parseBody_of_isIdentifier {name : List Char} (h : isIdentifier name = true) :
    parseBody name = some (.variable (String.ofList name)) := by
  have trimmed : trim name = name :=
    trim_of_all_visible fun c hc => isSpace_of_identifierChar (identifierChar_of_mem h hc)
  have parses := @parseBody_of_isIdentifier_trim name (by rwa [trimmed])
  rwa [trimmed] at parses

/-- A body without braces that close ends at the first two of them. -/
theorem closed_of_not_mem {body : List Char} (closing : '\x7d' ∉ body) :
    ¬ ['\x7d', '\x7d'] <:+: body ++ ['\x7d'] := by
  intro pair
  have two := pair.sublist.count_le '\x7d'
  rw [List.count_append, List.count_eq_zero.mpr closing] at two
  simp at two

/-- A body without braces opens a placeholder wherever it stands in double braces. -/
theorem opens_of_parseBody {body : List Char} {p : Placeholder} (parses : parseBody body = some p)
    (opening : '\x7b' ∉ body) (closing : '\x7d' ∉ body) (after : List Char) :
    Opens (source body ++ after) p body after :=
  ⟨rfl, opening, closed_of_not_mem closing, parses⟩

end Placeholder

/-! ## The three bodies -/

namespace Placeholder

/-- The body of a placeholder: a name, three or four forms behind their mark, or a tag and a word
around a colon. -/
inductive IsBody (body : List Char) : Prop
  | name : isIdentifier (trim body) = true → IsBody body
  | forms {list : List Char} :
      trim body = formsMark ++ list → list.count '|' = 2 ∨ list.count '|' = 3 → IsBody body
  | agreeing {before after : List Char} :
      trim body = '@' :: (before ++ ':' :: after) → ':' ∉ before → trim before ≠ [] →
        (trim before).all (!Unicode.isSpace ·) = true → trim after ≠ [] → IsBody body

theorem isSome_parseForms_iff {list : List Char} :
    (parseForms list).isSome = true ↔ list.count '|' = 2 ∨ list.count '|' = 3 := by
  have length : ((list.splitOn '|').map fun f => String.ofList (trim f)).length =
      list.count '|' + 1 := by rw [List.length_map, length_splitOn]
  unfold parseForms
  split
  · next listed =>
      rw [listed] at length
      simpa using .inl (Nat.succ.inj length).symm
  · next listed =>
      rw [listed] at length
      simpa using .inr (Nat.succ.inj length).symm
  · next not_three not_four =>
      constructor
      · intro h
        cases h
      · rintro (two | three)
        · rw [two] at length
          obtain ⟨m, f, p, listed⟩ := List.length_eq_three.mp length
          exact absurd listed (not_three m f p)
        · rw [three] at length
          match listed : (list.splitOn '|').map fun f => String.ofList (trim f), length with
          | [m, f, p, o], _ => exact absurd listed (not_four m f p o)

theorem isSome_parseAgreeing_iff {rest : List Char} :
    (parseAgreeing rest).isSome = true ↔ ∃ before after, rest = before ++ ':' :: after ∧
      ':' ∉ before ∧ trim before ≠ [] ∧ (trim before).all (!Unicode.isSpace ·) = true ∧
        trim after ≠ [] := by
  unfold parseAgreeing
  cases cut : splitOnce ':' rest with
  | none =>
      constructor
      · intro h
        cases h
      · rintro ⟨before, after, eq, first, -⟩
        rw [splitOnce_eq_some_iff.mpr ⟨eq, first⟩] at cut
        cases cut
  | some halves =>
      obtain ⟨before, after⟩ := halves
      obtain ⟨eq, first⟩ := splitOnce_eq_some_iff.mp cut
      dsimp only
      constructor
      · intro h
        split at h
        · cases h
        · next accepted => exact ⟨before, after, eq, first, by simp_all⟩
      · rintro ⟨before', after', eq', first', some_tag, tag, some_word⟩
        rw [splitOnce_eq_some_iff.mpr ⟨eq', first'⟩] at cut
        cases cut
        rw [if_neg (by simp_all)]
        rfl

/-- The parser accepts exactly the bodies. -/
theorem isSome_parseBody_iff {body : List Char} : (parseBody body).isSome = true ↔ IsBody body := by
  constructor
  · intro h
    unfold parseBody at h
    dsimp only at h
    split at h
    · next list marked =>
        have eq := List.isPrefixOf?_eq_some_iff_append_eq.mp marked
        exact .forms eq.symm (isSome_parseForms_iff.mp h)
    · split at h
      · next rest eq =>
          obtain ⟨before, after, rfl, first, some_tag, tag, some_word⟩ :=
            isSome_parseAgreeing_iff.mp h
          exact .agreeing eq first some_tag tag some_word
      · split at h
        · next identifier => exact .name identifier
        · cases h
  · intro h
    cases h with
    | name identifier => rw [parseBody_of_isIdentifier_trim identifier]; rfl
    | @forms list eq count =>
        have marked : formsMark.isPrefixOf? (formsMark ++ list) = some list :=
          List.isPrefixOf?_eq_some_iff_append_eq.mpr rfl
        unfold parseBody
        dsimp only
        rw [eq, marked]
        exact isSome_parseForms_iff.mpr count
    | agreeing eq first some_tag tag some_word =>
        unfold parseBody
        dsimp only
        rw [eq]
        exact isSome_parseAgreeing_iff.mpr ⟨_, _, rfl, first, some_tag, tag, some_word⟩

/-! ## The parts of a body -/

/-- The texts that a placeholder holds: its name, its forms, or its tag and its word. -/
def parts : Placeholder → List String
  | .variable name => [name]
  | .forms f => [f.male, f.female, f.plural] ++ f.organization.toList
  | .agreeing tag word => [tag, word]

theorem select_mem_parts (f : Forms) (g : Gender) : f.select g ∈ (forms f).parts := by
  obtain ⟨m, fem, p, o⟩ := f
  cases g <;> cases o <;> simp [Forms.select, parts]

/-- What a body says. -/
inductive Says (body : List Char) : Placeholder → Prop
  | name : isIdentifier (trim body) = true → Says body (.variable (String.ofList (trim body)))
  | forms {list : List Char} {f : Forms} : trim body = formsMark ++ list →
      (forms f).parts = (list.splitOn '|').map (fun piece => String.ofList (trim piece)) →
        Says body (.forms f)
  | agreeing {before after : List Char} : trim body = '@' :: (before ++ ':' :: after) →
      Says body (.agreeing (String.ofList (trim before)) (String.ofList (trim after)))

/-- The parser makes of a body what the body says. -/
theorem says_of_parseBody {body : List Char} {p : Placeholder} (parses : parseBody body = some p) :
    Says body p := by
  unfold parseBody at parses
  dsimp only at parses
  split at parses
  · next list marked =>
      have eq := (List.isPrefixOf?_eq_some_iff_append_eq.mp marked).symm
      unfold parseForms at parses
      split at parses
      · next listed =>
          cases parses
          exact .forms eq listed.symm
      · next listed =>
          cases parses
          exact .forms eq listed.symm
      · cases parses
  · split at parses
    · next rest eq =>
        unfold parseAgreeing at parses
        split at parses
        · cases parses
        · next before after cut =>
            obtain ⟨rfl, -⟩ := splitOnce_eq_some_iff.mp cut
            dsimp only at parses
            split at parses
            · cases parses
            · cases parses
              exact .agreeing eq
    · split at parses
      · next identifier =>
          cases parses
          exact .name identifier
      · cases parses

section Parts

variable {body : List Char} {p : Placeholder} (parses : parseBody body = some p) {c : Char}
include parses

/-- The parts of a placeholder are parts of its body. -/
theorem mem_of_mem_parts {part : String} (hp : part ∈ p.parts) (hc : c ∈ part.toList) :
    c ∈ body := by
  apply mem_of_mem_trim
  cases says_of_parseBody parses with
  | name _ =>
      obtain rfl := List.mem_singleton.mp hp
      rwa [String.toList_ofList] at hc
  | @forms list f eq listed =>
      rw [listed] at hp
      obtain ⟨piece, member, rfl⟩ := List.mem_map.mp hp
      rw [String.toList_ofList] at hc
      rw [eq]
      exact List.mem_append_right _ (mem_of_mem_splitOn member (mem_of_mem_trim hc))
  | @agreeing before after eq =>
      rw [eq]
      simp only [parts, List.mem_cons, List.not_mem_nil, or_false] at hp
      rcases hp with rfl | rfl
      · rw [String.toList_ofList] at hc
        exact List.mem_cons_of_mem _ (List.mem_append_left _ (mem_of_mem_trim hc))
      · rw [String.toList_ofList] at hc
        refine List.mem_cons_of_mem _ (List.mem_append_right _ ?_)
        exact List.mem_cons_of_mem _ (mem_of_mem_trim hc)

/-- A visible character of a body that is none of its marks is in one of the parts. -/
theorem exists_mem_parts (visible : Unicode.isSpace c = false) (other : c ∉ '@' :: '|' :: formsMark)
    (hc : c ∈ body) : ∃ part ∈ p.parts, c ∈ part.toList := by
  have inside := (mem_trim_iff visible).mpr hc
  have trimmed {s : List Char} (h : c ∈ s) : c ∈ (String.ofList (trim s)).toList := by
    rw [String.toList_ofList]
    exact (mem_trim_iff visible).mpr h
  simp only [List.mem_cons, not_or] at other
  obtain ⟨no_at_sign, no_bar, no_mark⟩ := other
  cases says_of_parseBody parses with
  | name _ => exact ⟨_, List.mem_singleton_self _, trimmed hc⟩
  | @forms list f eq listed =>
      rw [eq] at inside
      obtain ⟨piece, member, there⟩ :=
        exists_mem_splitOn ((List.mem_append.mp inside).resolve_left no_mark) no_bar
      rw [listed]
      exact ⟨_, List.mem_map_of_mem member, trimmed there⟩
  | @agreeing before after eq =>
      have no_colon : c ≠ ':' := by
        rintro rfl
        exact no_mark (by decide)
      rw [eq, List.mem_cons, List.mem_append, List.mem_cons] at inside
      rcases inside.resolve_left no_at_sign with there | colon | there
      · exact ⟨_, List.mem_cons_self, trimmed there⟩
      · exact absurd colon no_colon
      · exact ⟨_, List.mem_cons_of_mem _ List.mem_cons_self, trimmed there⟩

end Parts

end Placeholder

namespace Template

/-- The variables of a template are the names of its variable segments. -/
theorem mem_variableNames {template name : String} :
    name ∈ variableNames template ↔
      ∃ source, .placeholder (.variable name) source ∈ segments template.toList := by
  rw [variableNames, mem_firstOccurrences, List.mem_filterMap]
  constructor
  · rintro ⟨s, member, named⟩
    unfold Segment.variableName? at named
    split at named
    · next source =>
        cases named
        exact ⟨source, member⟩
    · cases named
  · rintro ⟨source, member⟩
    exact ⟨_, member, rfl⟩

end Template

end Agreement
