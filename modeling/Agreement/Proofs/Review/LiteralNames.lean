/- # Agreement.Proofs.Review.LiteralNames: names that no placeholder can have

A clause may declare a name that is no identifier. In double braces such a name is text, and the
review looks for it in the resolved text as it is declared. Agreement goes over the text first and
puts what stands between the braces in agreement as a text of its own, so the name is found exactly
where that leaves it as it is. With blank space between the braces and the name it is not found at
all.
-/
import Agreement.Proofs.Review.OpenVariables
import Agreement.Proofs.Template.Braces

namespace Agreement

open Text

/-! ## Text in double braces -/

/-- A name that is text in double braces: the first two braces that close end it, and it is no
body. -/
structure Placeholder.IsLiteral (name : List Char) : Prop where
  flat : '\x7b' ∉ name
  closed : ¬ ['\x7d', '\x7d'] <:+: name ++ ['\x7d']
  no_body : parseBody name = none

namespace Template

open Placeholder

variable {text before after name : List Char}

/-- Characters in front of segments are the start of a text segment. -/
theorem exists_foldr_consText {front : List Char} (filled : front ≠ []) (l : List Segment) :
    ∃ s rest, front.foldr consText l = .text (front ++ s) :: rest := by
  induction front with
  | nil => exact absurd rfl filled
  | cons c front ih =>
      rw [List.foldr_cons]
      rcases front with - | ⟨d, front⟩
      · rcases l with - | ⟨s | ⟨p, s⟩, rest⟩
        · exact ⟨[], [], rfl⟩
        · exact ⟨s, rest, rfl⟩
        · exact ⟨[], .placeholder p s :: rest, rfl⟩
      · obtain ⟨s, rest, eq⟩ := ih (List.cons_ne_nil d front)
        rw [eq]
        exact ⟨s, rest, rfl⟩

/-- A piece of a text segment stays one behind a character of text. -/
theorem exists_infix_consText {piece s : List Char} {l : List Segment} (member : .text s ∈ l)
    (inside : piece <:+: s) (c : Char) : ∃ s', .text s' ∈ consText c l ∧ piece <:+: s' := by
  rcases l with - | ⟨t | ⟨p, t⟩, rest⟩
  · cases member
  · rcases List.mem_cons.mp member with same | later
    · cases same
      exact ⟨c :: s, List.mem_cons_self, List.infix_cons inside⟩
    · exact ⟨s, List.mem_cons_of_mem _ later, inside⟩
  · exact ⟨s, List.mem_cons_of_mem _ member, inside⟩

/-- Two bodies that end at the first two braces that close are one. -/
theorem eq_of_source_append {body rest : List Char}
    (closed : ¬ ['\x7d', '\x7d'] <:+: body ++ ['\x7d'])
    (closed' : ¬ ['\x7d', '\x7d'] <:+: name ++ ['\x7d'])
    (same : source body ++ rest = source name ++ after) : body = name := by
  rw [source_append, source_append] at same
  have cut := cutAtPair_append rest closed
  rw [(List.cons.inj (List.cons.inj same).2).2, cutAtPair_append after closed'] at cut
  exact (Prod.mk.inj (Option.some.inj cut)).1.symm

/-- What stands in double braces and is no body is a piece of the text around it. -/
theorem exists_text_mem_segments (literal : IsLiteral name) (stands : source name <:+: text) :
    ∃ s, .text s ∈ segments text ∧ source name <:+: s := by
  obtain ⟨before, after, eq⟩ := stands
  rw [List.append_assoc] at eq
  induction text using reading_induction generalizing before with
  | nil => simp [source] at eq
  | placeholder text p body rest opens ih =>
      rw [segments_of_opens opens]
      rcases Nat.lt_or_ge before.length (body.length + 4) with inside | past
      · exfalso
        rcases before with - | ⟨c, before⟩
        · -- the name would be the body of the placeholder
          rw [List.nil_append, opens.text_eq] at eq
          have same := eq_of_source_append opens.closed literal.closed eq.symm
          have no_body := literal.no_body
          rw [← same, opens.parses] at no_body
          cases no_body
        · refine opens.not_opening_inside (Nat.succ_pos before.length) inside ?_
          have there : before.length.succ = (c :: before).length := rfl
          rw [← eq, there, List.drop_left, source_append]
          exact ⟨_, rfl⟩
      · rw [opens.text_eq] at eq
        obtain ⟨front, rfl⟩ : ∃ front, before = source body ++ front := by
          have start : source body <+: before :=
            List.prefix_of_prefix_length_le (List.prefix_append _ rest)
              (eq ▸ List.prefix_append before _) (by rw [length_source]; exact past)
          exact ⟨_, (List.prefix_iff_eq_append.mp start).symm⟩
        rw [List.append_assoc] at eq
        obtain ⟨s, member, inside⟩ := ih front (List.append_cancel_left eq)
        exact ⟨s, List.mem_cons_of_mem _ member, inside⟩
  | character c rest plain ih =>
      rw [segments_cons plain]
      rcases before with - | ⟨d, before⟩
      · -- nothing opens between the braces either, so all of it is text
        rw [List.nil_append, source_append] at eq
        obtain ⟨rfl, rfl⟩ := List.cons.inj eq
        have read := scan_append after (not_infix_source_tail literal.flat after)
        have front : '\x7b' :: (name ++ ['\x7d', '\x7d']) ++ after =
            '\x7b' :: (name ++ '\x7d' :: '\x7d' :: after) := by simp
        rw [front] at read
        obtain ⟨s, more, text_first⟩ :=
          exists_foldr_consText (List.cons_ne_nil '\x7b' ('\x7b' :: (name ++ ['\x7d', '\x7d'])))
            (segments after)
        rw [List.foldr_cons, segments, ← read, ← segments] at text_first
        rw [text_first]
        exact ⟨_, List.mem_cons_self, (List.prefix_append (source name) s).isInfix⟩
      · obtain ⟨s, member, inside⟩ := ih before (List.cons.inj eq).2
        exact exists_infix_consText member inside c

end Template

/-! ## Agreement between braces -/

theorem Lexicon.source_infix_inAgreement (lex : Lexicon) (g : Gender) (seams : Seams)
    {name text : List Char} (stands : Placeholder.source name <:+: text) :
    Placeholder.source (lex.inAgreement g {} name) <:+: lex.inAgreement g seams text := by
  obtain ⟨before, after, rfl⟩ := stands
  rw [List.append_assoc, lex.inAgreement_append_source]
  exact ⟨_, _, List.append_assoc _ _ _⟩

/-- A name that is text in double braces stands in the resolved text as agreement leaves it. -/
theorem Template.source_infix_resolve (lex : Lexicon) (ctx : Context) {template : String}
    {name : List Char} (literal : Placeholder.IsLiteral name)
    (stands : Placeholder.source name <:+: template.toList) :
    Placeholder.source (lex.inAgreement ctx.gender {} name) <:+:
      (resolve lex ctx template).toList := by
  obtain ⟨s, member, inside⟩ := exists_text_mem_segments literal stands
  rw [← map_snd_withSeams false (segments template.toList)] at member
  obtain ⟨⟨seams, s⟩, seamed, rfl⟩ := List.mem_map.mp member
  exact (lex.source_infix_inAgreement ctx.gender seams inside).trans
    (resolveSegment_isInfix lex ctx seamed)

/-! ## What the review finds of it -/

namespace Clause

variable {lex : Lexicon} {options : ReviewOptions} {c : Clause} {g : Gender} {name : String}

/-- What is left open for a gender on the list is reported, and nothing else. -/
theorem mem_unresolved :
    .unresolved g name ∈ (c.review lex options).findings ↔
      g ∈ options.genders ∧ name ∈ c.leftOpen lex options g := by
  rw [← List.count_pos_iff, count_unresolved]
  by_cases member : name ∈ c.leftOpen lex options g
  · rw [if_pos member, List.count_pos_iff]
    exact (and_iff_left member).symm
  · rw [if_neg member]
    simp [member]

/-- A declared name that is text in double braces is left open where agreement keeps it. -/
theorem mem_leftOpen_of_literal (declared : name ∈ c.declaredVariables)
    (literal : Placeholder.IsLiteral name.toList)
    (stands : Placeholder.source name.toList <:+: c.body.toList)
    (kept : lex.inAgreement g {} name.toList = name.toList) :
    name ∈ c.leftOpen lex options g := by
  refine mem_openVariables.mpr ⟨declared, .inr ?_⟩
  have found := Template.source_infix_resolve lex (c.trialContext options g) literal stands
  have gender : (c.trialContext options g).gender = g := rfl
  rwa [gender, kept] at found

/-- **What a review says of a declared name.** It reports the name for the genders on its list for
which the resolved text has it as a variable or holds it in double braces. This is so for every
gender if the body uses it as a variable, with blank space around it or without, and it has no
value. It is so as well if the body holds it in double braces, where it is text, and agreement with
that gender leaves it as it is. Then the clause fails. -/
theorem review_finds_declared_name (lex : Lexicon) (options : ReviewOptions) (c : Clause)
    (name : String) (declared : name ∈ c.declaredVariables) :
    let report := c.review lex options
    let resolved := fun g => Template.resolve lex (c.trialContext options g) c.body
    (∀ g, .unresolved g name ∈ report.findings ↔
      g ∈ options.genders ∧ (name ∈ Template.variableNames (resolved g) ∨
        Placeholder.source name.toList <:+: (resolved g).toList)) ∧
    ∀ g ∈ options.genders,
      (name ∈ c.usedVariables ∧ (c.trialValues options).get? name = none) ∨
        (Placeholder.source name.toList <:+: c.body.toList ∧
          Placeholder.IsLiteral name.toList ∧
          lex.inAgreement g {} name.toList = name.toList) →
      .unresolved g name ∈ report.findings ∧ report.passed = false := by
  intro report resolved
  constructor
  · intro g
    rw [mem_unresolved, leftOpen, mem_openVariables, and_iff_right declared]
  · intro g checked stays
    have left_open : name ∈ c.leftOpen lex options g := by
      rcases stays with ⟨used, no_value⟩ | ⟨stands, literal, kept⟩
      · exact mem_leftOpen declared used no_value lex g
      · exact mem_leftOpen_of_literal declared literal stands kept
    have found := mem_unresolved.mpr ⟨checked, left_open⟩
    exact ⟨found, passed_eq_false found⟩

/-- A name with a space in it is found behind a value that ends in a brace. -/
theorem review_finds_first_name :
    let c : Clause :=
      { id := "", title := "", category := "",
        body := "\x7b\x7ba\x7d\x7d\x7b\x7bfirst name\x7d\x7d\x7d",
        declaredVariables := ["a", "first name"] }
    let options : ReviewOptions := { values := some (.ofList [("a", "\x7b")]) }
    ("first name" ∈ c.declaredVariables ∧ .female ∈ options.genders ∧
      Placeholder.source "first name".toList <:+: c.body.toList ∧
      Placeholder.IsLiteral "first name".toList ∧
      Lexicon.small.inAgreement .female {} "first name".toList = "first name".toList) ∧
    .unresolved .female "first name" ∈ (c.review .small options).findings ∧
    (c.review .small options).passed = false := by
  intro c options
  have declared : "first name" ∈ c.declaredVariables := by decide
  have checked : .female ∈ options.genders := by decide
  have stands : Placeholder.source "first name".toList <:+: c.body.toList := by decide
  have literal : Placeholder.IsLiteral "first name".toList :=
    ⟨by decide, by decide, by decide +kernel⟩
  have kept : Lexicon.small.inAgreement .female {} "first name".toList = "first name".toList := by
    decide +kernel
  exact ⟨⟨declared, checked, stands, literal, kept⟩,
    (review_finds_declared_name .small options c "first name" declared).2 .female checked
      (.inr ⟨stands, literal, kept⟩)⟩

/-- Blank space in the braces hides a declared name that is no identifier, and so does a word of the
vocabulary in the name that has another form. Both stay in double braces, and both clauses pass. -/
theorem review_misses_literal_names :
    let spaced : Clause :=
      { id := "t", title := "T", category := "c", body := "\x7b\x7b first name \x7d\x7d",
        declaredVariables := ["first name"] }
    let inflected : Clause :=
      { id := "t", title := "T", category := "c", body := "\x7b\x7bשם הוא\x7d\x7d",
        declaredVariables := ["שם הוא"] }
    let women : ReviewOptions := { genders := [.female] }
    (Placeholder.parseBody " first name ".toList = none ∧
      (∀ g ∈ Gender.all,
        Template.resolve .small (spaced.trialContext {} g) spaced.body = spaced.body ∧
        .unresolved g "first name" ∉ (spaced.review .small {}).findings) ∧
      (spaced.review .small {}).passed = true) ∧
    (Placeholder.parseBody "שם הוא".toList = none ∧
      Template.resolve .small (inflected.trialContext women .female) inflected.body =
        "\x7b\x7bשם היא\x7d\x7d" ∧
      .unresolved .female "שם הוא" ∉ (inflected.review .small women).findings ∧
      (inflected.review .small women).passed = true) := by
  decide +kernel

end Clause

end Agreement
