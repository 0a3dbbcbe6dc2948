/- # Agreement.Proofs.Template.LeftmostLongest: agreement rewrites the leftmost longest phrases

What agreement does to a template is said here without the search: every text segment has one
selection of spans, and the template in agreement is the template with every selected span replaced
by its form. A word that touches a placeholder is a part of a longer one and belongs to no span.
-/
import Agreement.Proofs.Gender.Seams
import Agreement.Proofs.Gender.Selection
import Agreement.Proofs.Template.Grammar
import Agreement.Template.Resolution

namespace Agreement

/-! ## One text -/

namespace Lexicon

variable {lex : Lexicon} {seams : Seams} {text : List Char}

/-- The search goes as far as any phrase that the vocabulary has in a text. -/
theorem Reachable.count_le (h : lex.Reachable) {s : Span}
    (hs : lex.Finds (seams.freeToken? (Token.scan text)) s) : s.count ≤ lex.maxWords := by
  refine hs.phrase.le_maxWords h.wellKeyed ?_ hs.has
  intro j t at_place word
  obtain ⟨at_place, -⟩ := Seams.freeToken?_eq_some.mp at_place
  exact Token.isVisible_of_isWord (List.mem_of_getElem? at_place) word

/-- Every text has a selection. -/
theorem Reachable.exists_selects (h : lex.Reachable) (seams : Seams) (text : List Char) :
    ∃ S, lex.Selects (seams.freeToken? (Token.scan text)) S :=
  ⟨_, selects_selection fun _ hs => h.count_le hs⟩

/-- No span covers a place that has no free token. -/
theorem Selects.not_covers_of_none {view : Nat → Option Token} {S : Set Span}
    (h : lex.Selects view S) {i : Nat} (none_i : view i = none) : ∀ s ∈ S, ¬ s.Covers i := by
  intro s hs covers
  obtain ⟨t, at_place⟩ := (h.longest s hs).1.exists_token covers
  rw [none_i] at at_place
  cases at_place

/-- A text in agreement is its tokens with the spans of its selection replaced. -/
theorem Reachable.inAgreement_eq (h : lex.Reachable) {S : Set Span}
    (hS : lex.Selects (seams.freeToken? (Token.scan text)) S) (g : Gender) :
    lex.inAgreement g seams text = replaceSpans S g 0 (Token.scan text) := by
  obtain ⟨first, middle, last, takes_first, takes_last, split, none_first, free⟩ :=
    seams.exists_middle (Token.scan text)
  -- the search goes at least one word far, even when the vocabulary is empty
  have bounded : ∀ s, lex.Finds (seams.freeToken? (Token.scan text)) s →
      s.count ≤ max 1 lex.maxWords :=
    fun s hs => Nat.le_trans (h.count_le hs) (Nat.le_max_right _ _)
  -- the middle starts at a border, since no span covers the word before it
  have border : IsBorder S first.length := by
    intro s hs before
    exact absurd (hS.covers_start s hs) (hS.not_covers_of_none (none_first _ before) s hs)
  have none_last : ∀ j, seams.freeToken? (Token.scan text) (first.length + middle.length + j) =
      none := by
    intro j
    rw [Nat.add_assoc, free]
    exact List.getElem?_eq_none (Nat.le_add_right _ _)
  have kept (tokens : List Token) :
      (tokens.map Piece.kept).flatMap (·.form g) = tokens.flatMap (·.text) := by
    rw [List.flatMap_map]
    rfl
  have run_first : replaceSpans S g 0 first = first.flatMap (·.text) := by
    apply replaceSpans_of_not_covers hS.covers_start
    intro j hj
    rw [Nat.zero_add]
    exact hS.not_covers_of_none (none_first j hj)
  have run_last : replaceSpans S g (first.length + middle.length) last =
      last.flatMap (·.text) :=
    replaceSpans_of_not_covers hS.covers_start fun j _ => hS.not_covers_of_none (none_last j)
  rw [inAgreement, lex.pieces_eq takes_first takes_last, split, replaceSpans_append,
    replaceSpans_append, List.flatMap_append, List.flatMap_append, kept, kept, Nat.zero_add, run_first, run_last,
    hS.flatMap_form_piecesFrom h.wellKeyed bounded free border, List.append_assoc]

end Lexicon

/-! ## A template -/

/-- The tokens of a segment; a placeholder has none. -/
def Segment.tokens : Segment → List Token
  | .text s => Token.scan s
  | .placeholder _ _ => []

namespace Template

/-- The seams of a segment: whether the one on either side is a placeholder. -/
def seamsAt (l : List Segment) (k : Nat) : Seams where
  before := decide (0 < k) && l[k - 1]?.any Segment.isPlaceholder
  after := l[k + 1]?.any Segment.isPlaceholder

/-- The tokens of a segment by place. -/
def segmentTokens (l : List Segment) (k : Nat) : List Token := (l[k]?.map Segment.tokens).getD []

/-- The token at place `i` of segment `k`, unless it is a word that touches a placeholder. -/
def freeToken? (l : List Segment) (k i : Nat) : Option Token :=
  (seamsAt l k).freeToken? (segmentTokens l k) i

/-- A set of spans, each with its segment, is the selection of a template: it is the selection of
every segment. -/
def Selects (lex : Lexicon) (l : List Segment) (S : Set (Nat × Span)) : Prop :=
  ∀ k, lex.Selects (freeToken? l k) {s | (k, s) ∈ S}

/-- A segment with every span replaced by its form. A placeholder stays. -/
noncomputable def replaceSegment (S : Set (Nat × Span)) (g : Gender) (k : Nat) :
    Segment → List Char
  | .text s => replaceSpans {s | (k, s) ∈ S} g 0 (Token.scan s)
  | .placeholder _ source => source

/-- A template with every span replaced by its form. -/
noncomputable def replaceAll (S : Set (Nat × Span)) (g : Gender) (l : List Segment) : List Char :=
  l.zipIdx.flatMap fun p => replaceSegment S g p.2 p.1

/-- A span holds whole words: it starts and ends with one, and no word goes on beside it. -/
structure HoldsWholeWords (tokens : List Token) (s : Span) : Prop where
  first : ∃ t, tokenAt? tokens s.start = some t ∧ t.isWord = true
  last : ∃ t, tokenAt? tokens (s.stop - 1) = some t ∧ t.isWord = true
  before : ∀ i t, i + 1 = s.start → tokenAt? tokens i = some t → t.isWord = false
  after : ∀ t, tokenAt? tokens s.stop = some t → t.isWord = false

/-- Where nothing is selected, nothing is replaced. -/
theorem replaceAll_empty (g : Gender) (l : List Segment) :
    replaceAll ∅ g l = l.flatMap Segment.source := by
  have one (k : Nat) (s : Segment) : replaceSegment ∅ g k s = s.source := by
    cases s with
    | text s =>
        rw [replaceSegment, replaceSpans_of_not_covers (by simp) (by simp),
          Token.flatMap_text_scan, Segment.source]
    | placeholder => rfl
  have sources : l.zipIdx.flatMap (fun p => p.1.source) = l.flatMap Segment.source := by
    conv_rhs => rw [← List.zipIdx_map_fst 0 l, List.flatMap_map]
  simp only [replaceAll, one, sources]

theorem getElem?_withSeams (before : Bool) (l : List Segment) (k : Nat) :
    (withSeams before l)[k]? = l[k]?.map fun s =>
      (⟨if k = 0 then before else l[k - 1]?.any Segment.isPlaceholder,
        l[k + 1]?.any Segment.isPlaceholder⟩, s) := by
  induction l generalizing before k with
  | nil => rfl
  | cons s rest ih =>
      cases k with
      | zero => simp [withSeams, List.head?_eq_getElem?]
      | succ k =>
          rw [withSeams, List.getElem?_cons_succ, ih]
          cases k <;> simp

theorem withSeams_false (l : List Segment) :
    withSeams false l = l.zipIdx.map fun p => (seamsAt l p.2, p.1) := by
  apply List.ext_getElem?
  intro k
  rw [getElem?_withSeams, List.getElem?_map, List.getElem?_zipIdx, Option.map_map]
  cases k <;> simp [seamsAt, Function.comp_def]

/-- The spans that a vocabulary has in a text hold whole words. -/
theorem holdsWholeWords {lex : Lexicon} {seams : Seams} {text : List Char} {s : Span}
    (hs : lex.Finds (seams.freeToken? (Token.scan text)) s) :
    HoldsWholeWords (Token.scan text) s := by
  have positive := hs.phrase.positive
  have turns {i : Nat} {a b : Token} (ha : tokenAt? (Token.scan text) i = some a)
      (hb : tokenAt? (Token.scan text) (i + 1) = some b) : a.kind ≠ b.kind := by
    obtain ⟨_, rfl⟩ := List.getElem?_eq_some_iff.mp ha
    obtain ⟨_, rfl⟩ := List.getElem?_eq_some_iff.mp hb
    exact List.isChain_iff_getElem.mp (Token.isChain_kind_scan text) i _
  have not_word {a b : Token} (differ : a.kind ≠ b.kind) (word : a.isWord = true) :
      b.isWord = false := by
    rw [Token.isWord, beq_iff_eq] at word
    rw [Token.isWord, beq_eq_false_iff_ne, ← word]
    exact differ.symm
  obtain ⟨a, first, word_a⟩ := hs.phrase.word 0 positive
  obtain ⟨b, last, word_b⟩ := hs.phrase.word (s.count - 1) (by omega)
  have first := (Seams.freeToken?_eq_some.mp first).1
  have last := (Seams.freeToken?_eq_some.mp last).1
  have stop : s.start + 2 * (s.count - 1) + 1 = s.stop := by
    unfold Span.stop
    omega
  refine ⟨⟨a, first, word_a⟩, ⟨b, ?_, word_b⟩, ?_, ?_⟩
  · rwa [← stop, Nat.add_sub_cancel]
  · intro i t hi at_i
    rw [Nat.mul_zero, Nat.add_zero, ← hi] at first
    exact not_word (turns at_i first).symm word_a
  · intro t at_stop
    rw [← stop] at at_stop
    exact not_word (turns last at_stop) word_b

/-- The tokens of a segment are those of a text on the list, or none. -/
theorem segmentTokens_eq (l : List Segment) (k : Nat) : segmentTokens l k = [] ∨
    ∃ s, .text s ∈ l ∧ segmentTokens l k = Token.scan s := by
  unfold segmentTokens
  cases at_k : l[k]? with
  | none => exact .inl rfl
  | some segment =>
      cases segment with
      | text s => exact .inr ⟨s, List.mem_of_getElem? at_k, rfl⟩
      | placeholder _ _ => exact .inl rfl

/-- The tokens of every segment are those of some text. -/
theorem exists_segmentTokens (l : List Segment) (k : Nat) :
    ∃ text, segmentTokens l k = Token.scan text := by
  rcases segmentTokens_eq l k with no_tokens | ⟨s, -, tokens⟩
  · exact ⟨[], no_tokens⟩
  · exact ⟨s, tokens⟩

/-- A template has exactly one selection. -/
theorem existsUnique_selects {lex : Lexicon} (h : lex.Reachable) (l : List Segment) :
    ∃! S, Selects lex l S := by
  have one (k : Nat) : ∃! S, lex.Selects (freeToken? l k) S := by
    obtain ⟨text, tokens⟩ := exists_segmentTokens l k
    unfold freeToken?
    rw [tokens]
    exact Lexicon.existsUnique_selects fun s hs => h.count_le hs
  choose S selects unique using one
  refine ⟨{p | p.2 ∈ S p.1}, selects, ?_⟩
  intro T hT
  apply Set.ext
  rintro ⟨k, s⟩
  exact Set.ext_iff.mp (unique k _ (hT k)) s

/-- A template in agreement is the template with the spans of its selection replaced. -/
theorem agree_eq {lex : Lexicon} (h : lex.Reachable) {text : String} {S : Set (Nat × Span)}
    (hS : Selects lex (segments text.toList) S) (g : Gender) :
    (agree lex g text).toList = replaceAll S g (segments text.toList) := by
  rw [agree, String.toList_ofList, seamedSegments, withSeams_false, List.flatMap_map, replaceAll,
    List.flatMap_def, List.flatMap_def]
  apply congrArg List.flatten
  apply List.map_congr_left
  rintro ⟨s, k⟩ hp
  have at_k : (segments text.toList)[k]? = some s := List.mem_zipIdx_iff_getElem?.mp hp
  cases s with
  | placeholder _ source => rfl
  | text s =>
      have selects := hS k
      unfold freeToken? segmentTokens at selects
      rw [at_k] at selects
      exact h.inAgreement_eq selects g

/-- **Agreement rewrites exactly the leftmost longest phrases.** A template has exactly one
selection, whatever the gender; its spans hold whole words; and for every gender the template in
agreement is the template with each of them replaced by its form. -/
theorem agree_leftmost_longest {lex : Lexicon} (h : lex.Reachable) (text : String) :
    (∃! S, Selects lex (segments text.toList) S) ∧
      ∀ S, Selects lex (segments text.toList) S →
        (∀ k s, (k, s) ∈ S → HoldsWholeWords (segmentTokens (segments text.toList) k) s) ∧
          ∀ g, (agree lex g text).toList = replaceAll S g (segments text.toList) := by
  refine ⟨existsUnique_selects h _, ?_⟩
  intro S hS
  refine ⟨?_, agree_eq h hS⟩
  intro k s hs
  have found := ((hS k).longest s hs).1
  obtain ⟨t, tokens⟩ := exists_segmentTokens (segments text.toList) k
  unfold freeToken? at found
  rw [tokens] at found ⊢
  exact holdsWholeWords found

/-- A pronoun, a phrase of two words behind the article, and a word that touches a placeholder. -/
theorem agree_undersigned :
    Lexicon.small.Reachable ∧
      let text := "הוא החתום מטה \x7b\x7bname\x7d\x7dהוא"
      ∃ S, Selects .small (segments text.toList) S ∧
        replaceAll S .female (segments text.toList) =
          "היא החתומה מטה \x7b\x7bname\x7d\x7dהוא".toList := by
  refine ⟨.small, ?_⟩
  obtain ⟨⟨S, hS, -⟩, every⟩ := agree_leftmost_longest .small
    "הוא החתום מטה \x7b\x7bname\x7d\x7dהוא"
  refine ⟨S, hS, ?_⟩
  rw [← (every S hS).2 .female]
  decide +kernel

end Template

end Agreement
