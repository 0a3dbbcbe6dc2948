/- # Agreement.Proofs.Gender.Rewording: tokens in the place of tokens

What agreement writes in the place of a token is a token of the same kind: a Hebrew word for a
Hebrew word, blank space for blank space, or the token itself. The texts of such tokens, written
one after the other, fall into the same tokens again, since nothing that decides where a word ends
has changed.
-/
import Agreement.Proofs.Gender.Cuts
import Agreement.Proofs.Unicode.Hebrew
import Mathlib.Data.List.Forall2

namespace Agreement

open Unicode Text

namespace Token

/-- A token may stand in the place of another one: it is the same, or both are Hebrew words, or
both are blank space. -/
inductive Rewords : Token → Token → Prop
  | same {t : Token} : t.text ≠ [] → Rewords t t
  | word {w w' : List Char} :
      IsRunOf isHebrew w → IsRunOf isHebrew w' → Rewords ⟨.word, w⟩ ⟨.word, w'⟩
  | space {w w' : List Char} :
      IsRunOf Unicode.isSpace w → IsRunOf Unicode.isSpace w' →
        Rewords ⟨.separator, w⟩ ⟨.separator, w'⟩

/-! ## Characters with their kinds -/

theorem isWordChar_of_isHebrew {c : Char} (h : isHebrew c = true) : isWordChar c = true := by
  simp [isWordChar, isAlphanumeric, isAlphabetic_of_isHebrew h]

theorem isWordChar_of_isSpace {c : Char} (h : Unicode.isSpace c = true) :
    isWordChar c = false := by
  cases word : isWordChar c with
  | false => rfl
  | true => rw [isSpace_of_isWordChar word] at h; cases h

theorem isJoiner_of_isSpace {c : Char} (h : Unicode.isSpace c = true) : isJoiner c = false := by
  cases joiner : isJoiner c with
  | false => rfl
  | true => rw [isSpace_of_isJoiner joiner] at h; cases h

/-- Whether what follows a character starts with a character of a word. -/
def startsWord (text : List Char) : Bool := text.head?.any isWordChar

section Kinds

variable {inWord : Bool} {w rest : List Char}

theorem kinds_word_append (h : ∀ c ∈ w, isHebrew c = true) (nonempty : w ≠ []) :
    kinds inWord (w ++ rest) = w.map (·, .word) ++ kinds true rest := by
  induction w generalizing inWord with
  | nil => exact absurd rfl nonempty
  | cons c w ih =>
      obtain ⟨first, later⟩ := List.forall_mem_cons.mp h
      have joins (text : List Char) : joinsWord inWord c text = true := by
        simp [joinsWord, isWordChar_of_isHebrew first]
      rw [List.cons_append, kinds, joins]
      cases w with
      | nil => rfl
      | cons d w => rw [ih later (List.cons_ne_nil d w)]; rfl

theorem kinds_space_append (h : ∀ c ∈ w, Unicode.isSpace c = true) (nonempty : w ≠ []) :
    kinds inWord (w ++ rest) = w.map (·, .separator) ++ kinds false rest := by
  induction w generalizing inWord with
  | nil => exact absurd rfl nonempty
  | cons c w ih =>
      obtain ⟨first, later⟩ := List.forall_mem_cons.mp h
      have parts (text : List Char) : joinsWord inWord c text = false := by
        simp [joinsWord, isWordChar_of_isSpace first, isJoiner_of_isSpace first]
      rw [List.cons_append, kinds, parts]
      cases w with
      | nil => rfl
      | cons d w => rw [ih later (List.cons_ne_nil d w)]; rfl

/-- The kinds of a run depend on what follows it only in whether a word starts there. -/
theorem kinds_append_congr {kind : TokenKind} {tail : List (Char × TokenKind)}
    (nonempty : w ≠ []) (run : kinds inWord (w ++ rest) = w.map (·, kind) ++ tail) :
    tail = kinds (kind == .word) rest ∧ ∀ rest', startsWord rest' = startsWord rest →
      kinds inWord (w ++ rest') = w.map (·, kind) ++ kinds (kind == .word) rest' := by
  induction w generalizing inWord with
  | nil => exact absurd rfl nonempty
  | cons c w ih =>
      rw [List.cons_append, kinds, List.map_cons, List.cons_append] at run
      obtain ⟨first, later⟩ := List.cons.inj run
      have joins : joinsWord inWord c (w ++ rest) = (kind == .word) := by
        rw [← (Prod.mk.inj first).2]
        cases joinsWord inWord c (w ++ rest) <;> rfl
      have kind_eq : (if (kind == .word) = true then TokenKind.word else .separator) = kind := by
        cases kind <;> rfl
      rw [joins] at later
      cases w with
      | nil =>
          refine ⟨later.symm, fun rest' same => ?_⟩
          have joins' : joinsWord inWord c ([] ++ rest') = (kind == .word) := by
            rw [← joins]
            exact congrArg (fun b => isWordChar c || (isJoiner c && inWord && b)) same
          rw [List.cons_append, kinds, joins', kind_eq]
          rfl
      | cons d w =>
          obtain ⟨tail_eq, onward⟩ := ih (List.cons_ne_nil d w) later
          refine ⟨tail_eq, fun rest' same => ?_⟩
          have joins' : joinsWord inWord c (d :: w ++ rest') = (kind == .word) := joins
          rw [List.cons_append, kinds, joins', kind_eq, onward rest' same]
          rfl

end Kinds

/-! ## Tokens read again -/

/-- Tokens lose nothing of the kinds. -/
theorem flatMap_tagged_scan (text : List Char) : (scan text).flatMap tagged = kinds false text := by
  have runs : ∀ run ∈ (kinds false text).splitBy (·.2 == ·.2), (ofRun run).tagged = run := by
    intro run member
    have chain := List.isChain_of_mem_splitBy member
    rw [tagged, ofRun, List.map_map]
    refine (List.map_congr_left fun p hp => ?_).trans (List.map_id run)
    exact Prod.ext rfl (kind_of_mem_run chain hp)
  rw [scan, List.flatMap_map, List.flatMap_def, List.map_congr_left runs, List.map_id',
    List.flatten_splitBy]

/-- Words and separators that take turns are the tokens of their kinds. -/
theorem ofKinds_flatMap_tagged {tokens : List Token} (nonempty : ∀ t ∈ tokens, t.text ≠ [])
    (turns : tokens.IsChain (·.kind ≠ ·.kind)) : ofKinds (tokens.flatMap tagged) = tokens := by
  induction tokens with
  | nil => rfl
  | cons t rest ih =>
      obtain ⟨first, later⟩ := List.forall_mem_cons.mp nonempty
      rw [List.flatMap_cons, ofKinds_append, ofKinds_tagged first, ih later turns.tail]
      · rfl
      · intro x hx y hy
        obtain ⟨_, -, rfl⟩ := List.mem_map.mp (List.mem_of_mem_getLast? hx)
        cases rest with
        | nil => cases hy
        | cons u rest =>
            obtain ⟨c, text, eq⟩ := List.exists_cons_of_ne_nil (later u List.mem_cons_self)
            simp only [List.flatMap_cons, tagged, eq, List.map_cons, List.cons_append,
              List.head?_cons, Option.mem_some_iff] at hy
            rw [← hy]
            exact turns.rel

section Rewords

variable {t t' : Token} {tokens tokens' : List Token}

theorem Rewords.of_isWord {w : List Char} (is_word : t.isWord = true)
    (old : IsRunOf isHebrew t.text) (new : IsRunOf isHebrew w) : Rewords t ⟨.word, w⟩ := by
  obtain ⟨kind, text⟩ := t
  obtain rfl : kind = .word := by simpa [isWord] using is_word
  exact .word old new

theorem Rewords.of_isSpace {w : List Char} (nonempty : t.text ≠ []) (is_space : t.isSpace = true)
    (new : IsRunOf Unicode.isSpace w) : Rewords t ⟨.separator, w⟩ := by
  obtain ⟨kind, text⟩ := t
  simp only [isSpace, Bool.and_eq_true, beq_iff_eq] at is_space
  obtain ⟨rfl, blank⟩ := is_space
  exact .space ⟨nonempty, List.all_eq_true.mp blank⟩ new

theorem Rewords.kind_eq (h : Rewords t t') : t'.kind = t.kind := by
  cases h <;> rfl

theorem Rewords.text_ne_nil (h : Rewords t t') : t'.text ≠ [] := by
  cases h with
  | same nonempty => exact nonempty
  | word _ run | space _ run => exact run.1

/-- Both tokens start a word, or neither does. -/
theorem Rewords.startsWord_eq (h : Rewords t t') (rest rest' : List Char) :
    startsWord (t'.text ++ rest') = startsWord (t.text ++ rest) := by
  have starts {p : Char → Bool} {b : Bool} (all : ∀ c, p c = true → isWordChar c = b)
      {w : List Char} (run : IsRunOf p w) (rest : List Char) : startsWord (w ++ rest) = b := by
    obtain ⟨c, w, rfl⟩ := List.exists_cons_of_ne_nil run.1
    exact all c (run.2 c List.mem_cons_self)
  cases h with
  | same nonempty =>
      obtain ⟨c, w, eq⟩ := List.exists_cons_of_ne_nil nonempty
      rw [eq]
      rfl
  | word run run' =>
      rw [starts (fun _ => isWordChar_of_isHebrew) run,
        starts (fun _ => isWordChar_of_isHebrew) run']
  | space run run' =>
      rw [starts (fun _ => isWordChar_of_isSpace) run,
        starts (fun _ => isWordChar_of_isSpace) run']

/-- One token more has its own kinds, and behind it the text goes on as before. -/
theorem Rewords.kinds_append (h : Rewords t t') {inWord : Bool} {rest rest' : List Char}
    {tail : List (Char × TokenKind)} (same : startsWord rest' = startsWord rest)
    (run : kinds inWord (t.text ++ rest) = t.tagged ++ tail) :
    tail = kinds (t.kind == .word) rest ∧
      kinds inWord (t'.text ++ rest') = t'.tagged ++ kinds (t.kind == .word) rest' := by
  cases h with
  | same nonempty =>
      obtain ⟨tail_eq, onward⟩ := kinds_append_congr nonempty run
      exact ⟨tail_eq, onward rest' same⟩
  | word old new =>
      rw [kinds_word_append old.2 old.1] at run
      exact ⟨(List.append_cancel_left run).symm, kinds_word_append new.2 new.1⟩
  | space old new =>
      rw [kinds_space_append old.2 old.1] at run
      exact ⟨(List.append_cancel_left run).symm, kinds_space_append new.2 new.1⟩

theorem startsWord_flatMap (h : List.Forall₂ Rewords tokens tokens') :
    startsWord (tokens'.flatMap text) = startsWord (tokens.flatMap text) := by
  cases h with
  | nil => rfl
  | cons first later => exact first.startsWord_eq _ _

theorem kinds_flatMap_of_rewords (h : List.Forall₂ Rewords tokens tokens') {inWord : Bool}
    (kinds_eq : kinds inWord (tokens.flatMap text) = tokens.flatMap tagged) :
    kinds inWord (tokens'.flatMap text) = tokens'.flatMap tagged := by
  induction h generalizing inWord with
  | nil => rfl
  | cons first later ih =>
      rw [List.flatMap_cons, List.flatMap_cons] at kinds_eq ⊢
      obtain ⟨tail_eq, run⟩ := first.kinds_append (startsWord_flatMap later) kinds_eq
      rw [run, ih tail_eq.symm]

theorem map_kind_of_rewords (h : List.Forall₂ Rewords tokens tokens') :
    tokens'.map kind = tokens.map kind := by
  induction h with
  | nil => rfl
  | cons first later ih => rw [List.map_cons, List.map_cons, first.kind_eq, ih]

theorem text_ne_nil_of_rewords (h : List.Forall₂ Rewords tokens tokens') :
    ∀ t ∈ tokens', t.text ≠ [] := by
  induction h with
  | nil => simp
  | cons first later ih => exact List.forall_mem_cons.mpr ⟨first.text_ne_nil, ih⟩

/-- **Tokens in the place of the tokens of a text are the tokens of what they write.** -/
theorem scan_flatMap_of_rewords {source : List Char}
    (h : List.Forall₂ Rewords (scan source) tokens) : scan (tokens.flatMap text) = tokens := by
  have kinds_eq : kinds false (tokens.flatMap text) = tokens.flatMap tagged := by
    apply kinds_flatMap_of_rewords h
    rw [flatMap_text_scan, flatMap_tagged_scan]
  have turns : tokens.IsChain (·.kind ≠ ·.kind) := by
    have old := isChain_kind_scan source
    rwa [← List.isChain_map, ← map_kind_of_rewords h, List.isChain_map] at old
  rw [scan, kinds_eq]
  exact ofKinds_flatMap_tagged (text_ne_nil_of_rewords h) turns

end Rewords

end Token

end Agreement
