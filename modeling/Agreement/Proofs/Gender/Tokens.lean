/- # Agreement.Proofs.Gender.Tokens: what the tokens of a text are

The tokens of a text are its characters cut into runs of one kind, so they lose nothing of it, none
is empty, and a word holds no blank space.
-/
import Agreement.Gender.Token
import Agreement.Proofs.Text.Words
import Mathlib.Data.List.SplitBy

namespace Agreement

open Unicode Text

/-! ## Word characters are visible -/

theorem blankCodes_apart : ∀ n ∈ blankCodes, alphabetic.contains n = false ∧
    numeric.contains n = false ∧ mark.contains n = false ∧
      n ∉ ['\'', '"', '׳', '״', '’'].map Char.toNat := by
  decide +kernel

theorem isSpace_of_isWordChar {c : Char} (h : isWordChar c = true) : isSpace c = false := by
  cases space : isSpace c with
  | false => rfl
  | true =>
      obtain ⟨letter, number, combining, -⟩ := blankCodes_apart _ (toNat_mem_blankCodes space)
      simp [isWordChar, isAlphanumeric, isAlphabetic, isMark, letter, number, combining] at h

theorem isSpace_of_isJoiner {c : Char} (h : isJoiner c = true) : isSpace c = false := by
  cases space : isSpace c with
  | false => rfl
  | true =>
      obtain ⟨-, -, -, joiner⟩ := blankCodes_apart _ (toNat_mem_blankCodes space)
      refine absurd (List.mem_map_of_mem ?_) joiner
      simpa [isJoiner, or_assoc] using h

namespace Token

/-! ## Kinds -/

theorem map_fst_kinds (inWord : Bool) (text : List Char) :
    (kinds inWord text).map (·.1) = text := by
  induction text generalizing inWord with
  | nil => rfl
  | cons c rest ih => rw [kinds, List.map_cons, ih]

theorem isSpace_of_mem_kinds {inWord : Bool} {text : List Char} {c : Char}
    (h : (c, TokenKind.word) ∈ kinds inWord text) : Unicode.isSpace c = false := by
  induction text generalizing inWord with
  | nil => cases h
  | cons d rest ih =>
      rw [kinds] at h
      rcases List.mem_cons.mp h with same | later
      · obtain ⟨rfl, kind⟩ := Prod.mk.inj same
        cases joins : joinsWord inWord c rest with
        | false => simp [joins] at kind
        | true =>
            simp only [joinsWord, Bool.or_eq_true, Bool.and_eq_true] at joins
            rcases joins with word | ⟨⟨joiner, -⟩, -⟩
            · exact isSpace_of_isWordChar word
            · exact isSpace_of_isJoiner joiner
      · exact ih later

/-! ## Tokens -/

/-- Tokens lose nothing of a text. -/
theorem flatMap_text_scan (text : List Char) : (scan text).flatMap Token.text = text := by
  -- the texts of the tokens are the runs without their kinds
  have runs : (scan text).map Token.text =
      ((kinds false text).splitBy (·.2 == ·.2)).map (List.map Prod.fst) := by
    rw [scan, List.map_map]
    rfl
  rw [List.flatMap_def, runs, ← List.map_flatten, List.flatten_splitBy, map_fst_kinds]

/-- The characters of a run have the kind of its first one. -/
theorem kind_of_mem_run {run : List (Char × TokenKind)} {c : Char} {k : TokenKind}
    (chain : run.IsChain fun a b => (a.2 == b.2) = true) (h : (c, k) ∈ run) :
    (ofRun run).kind = k := by
  induction run with
  | nil => cases h
  | cons p rest ih =>
      rcases List.mem_cons.mp h with rfl | later
      · rfl
      · cases chain with
        | singleton => cases later
        | cons_cons same chain =>
            rw [← ih chain later]
            simpa [ofRun] using same

theorem isSpace_of_mem_word {text : List Char} {t : Token} {c : Char} (ht : t ∈ scan text)
    (word : t.isWord = true) (hc : c ∈ t.text) : Unicode.isSpace c = false := by
  obtain ⟨run, member, rfl⟩ := List.mem_map.mp ht
  obtain ⟨⟨d, k⟩, inside, rfl⟩ := List.mem_map.mp hc
  have chain := List.isChain_of_mem_splitBy member
  have kind := kind_of_mem_run chain inside
  have is_word : (ofRun run).kind = .word := by simpa [isWord] using word
  rw [is_word] at kind
  subst kind
  refine @isSpace_of_mem_kinds false text _ ?_
  rw [← List.flatten_splitBy (fun a b => a.2 == b.2) (kinds false text)]
  exact List.mem_flatten_of_mem member inside

theorem text_ne_nil_of_mem_scan {text : List Char} {t : Token} (ht : t ∈ scan text) :
    t.text ≠ [] := by
  obtain ⟨run, member, rfl⟩ := List.mem_map.mp ht
  intro empty
  exact List.ne_nil_of_mem_splitBy member (List.map_eq_nil_iff.mp empty)

/-- Tokens of a text that hold nothing are none. -/
theorem eq_nil_of_flatMap_text {source : List Char} {tokens : List Token}
    (part : ∀ t ∈ tokens, t ∈ scan source) (empty : tokens.flatMap text = []) : tokens = [] := by
  apply List.eq_nil_iff_forall_not_mem.mpr
  intro t ht
  exact text_ne_nil_of_mem_scan (part t ht) (List.flatMap_eq_nil_iff.mp empty t ht)

/-- Words and separators take turns: a run goes as far as it can. -/
theorem isChain_kind_scan (text : List Char) : (scan text).IsChain (·.kind ≠ ·.kind) := by
  rw [scan, List.isChain_map]
  refine (List.isChain_getLast_head_splitBy (·.2 == ·.2) (kinds false text)).imp_of_mem_imp ?_
  rintro a b ha hb ⟨ha', hb', differ⟩ same
  have last : (ofRun a).kind = (a.getLast ha').2 :=
    kind_of_mem_run (List.isChain_of_mem_splitBy ha) (List.getLast_mem ha')
  have first : (ofRun b).kind = (b.head hb').2 :=
    kind_of_mem_run (c := (b.head hb').1) (List.isChain_of_mem_splitBy hb) (List.head_mem hb')
  rw [last, first] at same
  simp [same] at differ

/-- A word is visible. -/
theorem isVisible_of_isWord {text : List Char} {t : Token} (ht : t ∈ scan text)
    (word : t.isWord = true) : IsVisible t.text := by
  obtain ⟨c, rest, eq⟩ := List.exists_cons_of_ne_nil (text_ne_nil_of_mem_scan ht)
  have first : c ∈ t.text := by rw [eq]; exact List.mem_cons_self
  exact ⟨c, first, isSpace_of_mem_word ht word first⟩

end Token

end Agreement
