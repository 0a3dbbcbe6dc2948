/- # Agreement.Proofs.Gender.Neighbours: words by the neighbours of their characters

The scan goes from left to right and remembers whether it is inside a word. What it finds is local
all the same. A character belongs to a word by itself, or as a joiner with a word character on
either side, and nothing further away counts: a joiner is never behind another one that is in a
word. So the tokens of a text are its maximal runs of characters of one kind, and these are told
without scanning.
-/
import Agreement.Proofs.Gender.LongerWords

namespace Agreement

open Text

theorem Text.byteLength_eq_utf8ByteSize (text : List Char) :
    byteLength text = (String.ofList text).utf8ByteSize := by
  induction text with
  | nil => rfl
  | cons c text ih =>
      rw [byteLength_cons, ih, String.ofList_cons, String.utf8ByteSize_append,
        String.utf8ByteSize_singleton]

namespace Token

/-! ## The kind of a character -/

/-- The kind that a character has by itself and by the characters before and after it. -/
def localKind (before : Option Char) (c : Char) (after : Option Char) : TokenKind :=
  if isWordChar c || (isJoiner c && before.any isWordChar && after.any isWordChar) then .word
  else .separator

/-- The characters of a text that follows a character, with their kinds. -/
def localKinds : (before : Option Char) → List Char → List (Char × TokenKind)
  | _, [] => []
  | before, c :: rest => (c, localKind before c rest.head?) :: localKinds (some c) rest

/-- Where no word starts behind it, a joiner goes into none. -/
theorem joinsWord_of_not_startsWord {inWord : Bool} {c : Char} {rest : List Char}
    (stops : startsWord rest = false) : joinsWord inWord c rest = isWordChar c := by
  have no_word : rest.head?.any isWordChar = false := stops
  rw [joinsWord, no_word, Bool.and_false, Bool.or_false]

/-- **What the scan remembers is local.** Where a word starts it makes no difference, and elsewhere
it is whether the character before is one of words by itself. -/
theorem kinds_eq_localKinds {before : Option Char} {inWord : Bool} {text : List Char}
    (known : startsWord text = false → inWord = before.any isWordChar) :
    kinds inWord text = localKinds before text := by
  induction text generalizing before inWord with
  | nil => rfl
  | cons c rest ih =>
      have joins : joinsWord inWord c rest = (isWordChar c ||
          (isJoiner c && before.any isWordChar && rest.head?.any isWordChar)) := by
        cases word : isWordChar c with
        | true => rw [joinsWord, word, Bool.true_or, Bool.true_or]
        | false => rw [joinsWord, word, known (by simpa [startsWord] using word)]
      rw [kinds, localKinds, localKind, ← joins]
      congr 1
      apply ih
      intro stops
      rw [joinsWord_of_not_startsWord stops, Option.any_some]

section Runs

variable {before : Option Char} {w rest : List Char} {kind : TokenKind}

theorem getLast?_cons_or (c : Char) (w : List Char) (before : Option Char) :
    (c :: w).getLast?.or before = w.getLast?.or (some c) := by
  rw [List.getLast?_cons]
  cases w.getLast? <;> rfl

theorem map_fst_localKinds (before : Option Char) (text : List Char) :
    (localKinds before text).map Prod.fst = text := by
  induction text generalizing before with
  | nil => rfl
  | cons c rest ih => rw [localKinds, List.map_cons, ih]

/-- The kind of a character that has been read is the one that its neighbours give it. -/
theorem kind_eq_of_localKinds {source : List Char} {P Q : List (Char × TokenKind)} {c : Char}
    (run : localKinds before source = P ++ (c, kind) :: Q) :
    kind = localKind ((P.map Prod.fst).getLast?.or before) c (Q.map Prod.fst).head? := by
  induction P generalizing before source with
  | nil =>
      cases source with
      | nil => cases run
      | cons d rest =>
          obtain ⟨first, later⟩ := List.cons.inj run
          obtain ⟨rfl, rfl⟩ := Prod.mk.inj first
          rw [← later, map_fst_localKinds]
          rfl
  | cons p P ih =>
      cases source with
      | nil => cases run
      | cons d rest =>
          obtain ⟨rfl, later⟩ := List.cons.inj run
          rw [ih later, List.map_cons, getLast?_cons_or]

/-- Characters that all have one kind by their neighbours make a run of it. -/
theorem localKinds_append_of_uniform (uniform : ∀ x c y, w = x ++ c :: y →
      kind = localKind (x.getLast?.or before) c (y ++ rest).head?) :
    localKinds before (w ++ rest) =
      w.map (·, kind) ++ localKinds (w.getLast?.or before) rest := by
  induction w generalizing before with
  | nil => rfl
  | cons c w ih =>
      have first : kind = localKind before c (w ++ rest).head? := uniform [] c w rfl
      rw [List.cons_append, localKinds, ← first, List.map_cons, List.cons_append, getLast?_cons_or]
      congr 1
      apply ih
      intro x d y eq
      rw [uniform (c :: x) d y (by rw [eq]; rfl), getLast?_cons_or]

end Runs

/-! ## Maximal runs -/

/-- Tokens that are the maximal runs of a text. Nothing of the text is lost or moved, no token is
empty, each character has the kind of its token by its neighbours in the text, and no token goes on
in the next one. -/
structure AreRuns (source : List Char) (tokens : List Token) : Prop where
  whole : tokens.flatMap text = source
  nonempty : ∀ t ∈ tokens, t.text ≠ []
  uniform : ∀ A t B, tokens = A ++ t :: B → ∀ x c y, t.text = x ++ c :: y →
    t.kind = localKind (A.flatMap text ++ x).getLast? c (y ++ B.flatMap text).head?
  alternating : tokens.IsChain (·.kind ≠ ·.kind)

variable {source : List Char} {tokens : List Token}

theorem flatMap_tagged_scan_eq_localKinds (source : List Char) :
    (scan source).flatMap tagged = localKinds none source := by
  rw [flatMap_tagged_scan]
  apply kinds_eq_localKinds
  intro _
  rfl

theorem areRuns_scan (source : List Char) : AreRuns source (scan source) where
  whole := flatMap_text_scan source
  nonempty _ ht := text_ne_nil_of_mem_scan ht
  alternating := isChain_kind_scan source
  uniform := by
    intro A t B cut x c y split
    have read : localKinds none source = (A.flatMap tagged ++ x.map (·, t.kind)) ++
        (c, t.kind) :: (y.map (·, t.kind) ++ B.flatMap tagged) := by
      rw [← flatMap_tagged_scan_eq_localKinds, cut, List.flatMap_append, List.flatMap_cons,
        tagged, split, List.map_append, List.map_cons]
      simp only [List.append_assoc, List.cons_append]
    have kind := kind_eq_of_localKinds read
    rw [List.map_append, List.map_append, map_fst_flatMap_tagged, map_fst_flatMap_tagged,
      Option.or_none] at kind
    simpa [Function.comp_def] using kind

/-- The kinds of tokens that are uniform are those of their text. -/
theorem flatMap_tagged_of_uniform {before : Option Char}
    (uniform : ∀ A t B, tokens = A ++ t :: B → ∀ x c y, t.text = x ++ c :: y →
      t.kind = localKind ((A.flatMap text ++ x).getLast?.or before) c (y ++ B.flatMap text).head?) :
    tokens.flatMap tagged = localKinds before (tokens.flatMap text) := by
  induction tokens generalizing before with
  | nil => rfl
  | cons t rest ih =>
      rw [List.flatMap_cons, List.flatMap_cons,
        localKinds_append_of_uniform (uniform [] t rest rfl), tagged]
      congr 1
      apply ih
      intro A u B eq x c y split
      rw [uniform (t :: A) u B (by rw [eq]; rfl) x c y split, List.flatMap_cons, List.append_assoc,
        List.getLast?_append, Option.or_assoc]

/-- **The tokens of a text are its maximal runs, and it has no others.** -/
theorem areRuns_iff : AreRuns source tokens ↔ tokens = scan source := by
  constructor
  · intro runs
    have read : tokens.flatMap tagged = kinds false source := by
      rw [← flatMap_tagged_scan, flatMap_tagged_scan_eq_localKinds, ← runs.whole]
      apply flatMap_tagged_of_uniform
      intro A t B cut x c y split
      rw [Option.or_none]
      exact runs.uniform A t B cut x c y split
    rw [scan, ← read]
    exact (ofKinds_flatMap_tagged runs.nonempty runs.alternating).symm
  · rintro rfl
    exact areRuns_scan source

/-! ## Where words begin and end -/

/-- A character that makes a word by itself is in one. -/
theorem kind_of_isWordChar {before : Option Char} {text : List Char} {p : Char × TokenKind}
    (read : p ∈ localKinds before text) (word : isWordChar p.1 = true) : p.2 = .word := by
  induction text generalizing before with
  | nil => cases read
  | cons c rest ih =>
      rcases List.mem_cons.mp read with rfl | later
      · simp only [localKind, word, Bool.true_or, if_true]
      · exact ih later

/-- No word character is in a separator. -/
theorem isWordChar_of_separator {p : Char × TokenKind} (read : p ∈ (scan source).flatMap tagged)
    (separator : p.2 = .separator) : isWordChar p.1 = false := by
  rw [flatMap_tagged_scan_eq_localKinds] at read
  apply Bool.eq_false_iff.mpr
  intro word
  rw [kind_of_isWordChar read word] at separator
  cases separator

section Ends

variable {A D : List Token} {t : Token}

/-- No word character stands before a word. -/
theorem isWordChar_before (cut : scan source = A ++ t :: D) (word : t.isWord = true) :
    (A.flatMap text).getLast?.any isWordChar = false := by
  rw [← map_fst_flatMap_tagged, List.getLast?_map, Option.any_map]
  apply (Option.any_eq_false _ _).mpr
  intro p last
  refine @isWordChar_of_separator source p ?_ (separator_before cut word p last)
  rw [cut, List.flatMap_append]
  exact List.mem_append_left _ (List.mem_of_mem_getLast? last)

/-- No word character stands behind a word. -/
theorem isWordChar_after (cut : scan source = A ++ t :: D) (word : t.isWord = true) :
    (D.flatMap text).head?.any isWordChar = false := by
  rw [← map_fst_flatMap_tagged, List.head?_map, Option.any_map]
  apply (Option.any_eq_false _ _).mpr
  intro p first
  refine @isWordChar_of_separator source p ?_ (separator_after cut word p first)
  rw [cut, List.flatMap_append, List.flatMap_cons]
  exact List.mem_append_right _ (List.mem_append_right _ (List.mem_of_mem_head? first))

/-- A joiner at an end of a word would join it to a word character, and none stands there. -/
theorem isWordChar_of_localKind {before after : Option Char} {c : Char}
    (inside : TokenKind.word = localKind before c after)
    (alone : before.any isWordChar = false ∨ after.any isWordChar = false) :
    isWordChar c = true := by
  by_contra no_word
  rcases alone with none_before | none_after
  · simp [localKind, no_word, none_before] at inside
  · simp [localKind, no_word, none_after] at inside

theorem isWordChar_of_isWord (ht : t ∈ scan source) (word : t.isWord = true) :
    t.text.head?.any isWordChar = true ∧ t.text.getLast?.any isWordChar = true := by
  obtain ⟨A, D, cut⟩ := List.append_of_mem ht
  have kind : t.kind = .word := by simpa [isWord] using word
  have uniform := (areRuns_scan source).uniform A t D cut
  rw [kind] at uniform
  constructor
  · obtain ⟨c, rest, split⟩ := List.exists_cons_of_ne_nil (text_ne_nil_of_mem_scan ht)
    have local_kind := uniform [] c rest split
    rw [List.append_nil] at local_kind
    rw [split, List.head?_cons, Option.any_some]
    exact isWordChar_of_localKind local_kind (.inl (isWordChar_before cut word))
  · obtain ⟨rest, c, split⟩ :=
      (List.eq_nil_or_concat' t.text).resolve_left (text_ne_nil_of_mem_scan ht)
    have local_kind := uniform rest c [] split
    rw [List.nil_append] at local_kind
    rw [split, List.getLast?_concat, Option.any_some]
    exact isWordChar_of_localKind local_kind (.inr (isWordChar_after cut word))

end Ends

/-! ## Places in bytes -/

theorem map_snd_locate (start : Nat) (tokens : List Token) :
    (locate start tokens).map Prod.snd = tokens := by
  induction tokens generalizing start with
  | nil => rfl
  | cons t rest ih => rw [locate, List.map_cons, ih]

/-- A token starts behind the bytes of all that stands before it. -/
theorem start_of_locate {start place : Nat} {A B : List (Nat × Token)} {t : Token}
    (located : locate start tokens = A ++ (place, t) :: B) :
    place = start + byteLength (A.flatMap (·.2.text)) := by
  induction A generalizing start tokens with
  | nil =>
      cases tokens with
      | nil => cases located
      | cons u rest =>
          obtain ⟨first, -⟩ := List.cons.inj located
          exact (congrArg Prod.fst first).symm
  | cons a A ih =>
      cases tokens with
      | nil => cases located
      | cons u rest =>
          obtain ⟨rfl, later⟩ := List.cons.inj located
          rw [ih later, List.flatMap_cons, byteLength_append, Nat.add_assoc]

/-- **A text is cut into its maximal runs by the neighbours of its characters.** The scan gives the
only tokens that are such runs, a word begins and ends with a word character, and each token stands
at the byte that follows the text before it. -/
theorem scan_is_local (source : List Char) :
    (∀ tokens, AreRuns source tokens ↔ tokens = scan source) ∧
    (∀ t ∈ scan source, t.isWord = true →
      t.text.head?.any isWordChar = true ∧ t.text.getLast?.any isWordChar = true) ∧
    (locate 0 (scan source)).map Prod.snd = scan source ∧
    ∀ A place t B, locate 0 (scan source) = A ++ (place, t) :: B →
      source = A.flatMap (·.2.text) ++ t.text ++ B.flatMap (·.2.text) ∧
        place = (String.ofList (A.flatMap (·.2.text))).utf8ByteSize := by
  refine ⟨fun tokens => areRuns_iff, fun t => isWordChar_of_isWord, map_snd_locate 0 _, ?_⟩
  intro A place t B located
  constructor
  · have tokens := map_snd_locate 0 (scan source)
    rw [located] at tokens
    rw [← flatMap_text_scan source, ← tokens]
    simp [List.flatMap_map]
  · rw [start_of_locate located, Nat.zero_add, byteLength_eq_utf8ByteSize]

/-- Two joiners in a row are in no word, and a letter may take two bytes. -/
example : (locate 0 (scan "ת״ז ''לו''".toList)).map (fun t => (t.1, String.ofList t.2.text)) =
    [(0, "ת״ז"), (6, " ''"), (9, "לו"), (13, "''")] := by
  decide +kernel

end Token

end Agreement
