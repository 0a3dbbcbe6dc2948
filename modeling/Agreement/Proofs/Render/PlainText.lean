/- # Agreement.Proofs.Render.PlainText: plain text block by block

What a block has to show in plain text is said here for each content: the lines of a text behind
the indentation, a signature as it stands, one entry for each row and each item behind the
indentation, a form feed. The plain text of a document without running texts is what its blocks
show with blank lines between them, but for blank space at the two ends of the whole, which is cut
off and which is all that is lost.
-/
import Agreement.Proofs.Text.Lines
import Agreement.Render.PlainText
import Mathlib.Data.List.Forall2

namespace Agreement

open Text

/-! ## What a block shows -/

namespace PlainText

/-- A text behind an indentation: each line of it is behind the indentation, and where there is none
the text is shown as it stands. -/
structure Indents (front text shown : List Char) : Prop where
  plain : front = [] ∨ text = [] → shown = text
  indented : front ≠ [] → text ≠ [] → shown.splitOn '\n' = (lines text).map (front ++ ·)

/-- An entry behind an indentation. -/
def IsBehind (front : List Char) (holds : List Char → Prop) (entry : List Char) : Prop :=
  ∃ rest, entry = front ++ rest ∧ holds rest

/-- Entries on lines of their own, one for each member of a list and all behind an indentation. -/
def Stacks {α : Type} (front : List Char) (holds : α → List Char → Prop) (members : List α)
    (shown : List Char) : Prop :=
  ∃ entries, List.Forall₂ (fun x => IsBehind front (holds x)) members entries ∧
    shown = ['\n'].intercalate entries

theorem indents_indentLines {front : List Char} (spaces : '\n' ∉ front) (text : List Char) :
    Indents front text (indentLines front text) where
  plain := by
    rintro (rfl | rfl)
    · rfl
    · cases front with
      | nil => rfl
      | cons c front => simp [indentLines, lines]
  indented := by
    intro some_front some_text
    rw [indentLines, if_neg (by simpa using some_front)]
    apply List.splitOn_intercalate
    · intro line hl
      obtain ⟨rest, member, rfl⟩ := List.mem_map.mp hl
      simp [spaces, not_mem_of_mem_lines member]
    · simpa using lines_ne_nil some_text

theorem not_mem_indent (level : Nat) : '\n' ∉ indent level := by
  simp [indent]

end PlainText

open PlainText

/-- What a block shows in plain text if texts are resolved in a way: a text behind the indentation,
a signature as it stands, a row with tabs between its cells, the text of an item at the end of its
entry, a form feed. -/
def Block.IsShownAs (resolve : String → String) (b : Block) (shown : List Char) : Prop :=
  let front := indent b.placement.indentLevel.toNat
  match b.content with
  | .text s =>
    match b.kind with
    | .signature => shown = (resolve s).toList
    | .quote => Indents (front ++ indent 2) (resolve s).toList shown
    | _ => Indents front (resolve s).toList shown
  | .table t =>
    Stacks front (fun r rest => rest = ['\t'].intercalate (r.cells.map (resolve ·.text |>.toList)))
      t.rows shown
  | .list l => Stacks front (fun s rest => (resolve s).toList <:+ rest) (Item.textsOf l.items) shown
  | .empty => shown = if b.kind = .pageBreak then ['\x0C'] else List.replicate 10 '-'

namespace PlainText

variable (resolve : String → String)

mutual

theorem forall₂_itemLines (marker : Nat → String) (front : List Char) (depth number : Nat)
    (item : Item) :
    List.Forall₂ (fun s => IsBehind front ((resolve s).toList <:+ ·)) item.texts
      (itemLines resolve marker front depth number item) := by
  cases item with
  | mk text children =>
      rw [Item.texts, itemLines]
      refine .cons ?_ (forall₂_itemsLines marker front (depth + 1) 1 0 children)
      refine ⟨indent depth ++ (marker number).toList ++ ' ' :: (resolve text).toList, ?_, ?_⟩
      · rw [List.append_assoc, List.append_assoc, List.append_assoc]
      · exact (List.suffix_cons ' ' _).trans (List.suffix_append _ _)

theorem forall₂_itemsLines (marker : Nat → String) (front : List Char) (depth start index : Nat)
    (items : List Item) :
    List.Forall₂ (fun s => IsBehind front ((resolve s).toList <:+ ·)) (Item.textsOf items)
      (itemsLines resolve marker front depth start index items) := by
  cases items with
  | nil => exact .nil
  | cons item items =>
      rw [Item.textsOf, itemsLines]
      exact List.rel_append (forall₂_itemLines marker front depth _ item)
        (forall₂_itemsLines marker front depth start (index + 1) items)

end

theorem stacks_tableBlock (front : List Char) (t : Table) :
    Stacks front (fun r rest => rest = ['\t'].intercalate (r.cells.map (resolve ·.text |>.toList)))
      t.rows (tableBlock resolve front t) := by
  refine ⟨t.rows.map (rowLine resolve front), ?_, rfl⟩
  apply List.forall₂_map_right_iff.mpr
  apply List.forall₂_same.mpr
  intro r hr
  exact ⟨_, rfl, rfl⟩

/-- **Every block shows what it has to show.** -/
theorem isShownAs_block (options : RenderOptions) (b : Block) :
    b.IsShownAs resolve (block resolve options b) := by
  unfold Block.IsShownAs block
  cases content : b.content with
  | text s =>
      have indented (front : List Char) (spaces : '\n' ∉ front) :=
        indents_indentLines spaces (resolve s).toList
      cases kind : b.kind with
      | signature => rfl
      | quote => exact indented _ (by simp [not_mem_indent])
      | _ => exact indented _ (not_mem_indent _)
  | table t => exact stacks_tableBlock resolve _ t
  | list l => exact ⟨_, forall₂_itemsLines resolve _ _ 0 _ 0 l.items, rfl⟩
  | empty => cases kind : b.kind <;> rfl

end PlainText

namespace Document

theorem parts_of_no_running_text {d : Document} (no_header : d.page.header = none)
    (no_footer : d.page.footer = none) (resolve : String → String) (options : RenderOptions) :
    PlainText.parts resolve options d = d.blocks.map (PlainText.block resolve options) := by
  simp [PlainText.parts, no_header, no_footer]

/-- **Plain text is what the blocks show, but for its two ends.** In a document without running
texts every block shows what it has to show, and the plain text is that with a blank line between
two blocks, from the first visible character to the last. So nothing is lost exactly if what the
blocks show neither starts nor ends with blank space. -/
theorem plainText_shows_blocks (d : Document) (no_header : d.page.header = none)
    (no_footer : d.page.footer = none) (lex : Lexicon) (ctx : Context) (options : RenderOptions) :
    ∃ shown front back,
      List.Forall₂ (Block.IsShownAs (Template.resolve lex ctx)) d.blocks shown ∧
      ['\n', '\n'].intercalate shown =
        front ++ (d.plainText lex ctx options).toList ++ back ∧
      isBlank front = true ∧ isBlank back = true ∧
      IsTrimmed (d.plainText lex ctx options).toList ∧
      ((d.plainText lex ctx options).toList = ['\n', '\n'].intercalate shown ↔
        IsTrimmed (['\n', '\n'].intercalate shown)) := by
  have eq := parts_of_no_running_text no_header no_footer (Template.resolve lex ctx) options
  rw [plainText, eq, String.toList_ofList]
  obtain ⟨front, back, blank_front, blank_back, cut, trimmed⟩ := exists_trim
    (['\n', '\n'].intercalate (d.blocks.map (PlainText.block (Template.resolve lex ctx) options)))
  refine ⟨_, front, back, ?_, cut, blank_front, blank_back, trimmed, trim_eq_self_iff⟩
  apply List.forall₂_map_right_iff.mpr
  apply List.forall₂_same.mpr
  intro b hb
  exact isShownAs_block _ options b

/-- Two signatures with a page break between them lose nothing. -/
theorem plainText_shows_signatures :
    let d : Document := { empty ⟨0, 0⟩ with
      blocks := [.signature "a\nb", .pageBreak, .signature "c"] }
    d.page.header = none ∧ d.page.footer = none ∧
      (d.plainText .empty { gender := .male } {}).toList = "a\nb\n\n\x0C\n\nc".toList := by
  intro d
  obtain ⟨shown, front, back, each, -, -, -, -, whole⟩ :=
    plainText_shows_blocks d rfl rfl .empty { gender := .male } {}
  obtain _ | ⟨first, _ | ⟨second, _ | ⟨third, _ | _⟩⟩⟩ := each
  have kept : Template.resolve .empty { gender := .male } "a\nb" = "a\nb" := by decide +kernel
  have kept' : Template.resolve .empty { gender := .male } "c" = "c" := by decide +kernel
  change _ = (Template.resolve .empty { gender := .male } "a\nb").toList at first
  change _ = ['\x0C'] at second
  change _ = (Template.resolve .empty { gender := .male } "c").toList at third
  rw [kept] at first
  rw [kept'] at third
  subst first second third
  refine ⟨rfl, rfl, whole.mpr ⟨?_, ?_⟩⟩
  · intro first hfirst
    obtain rfl : 'a' = first := Option.some.inj hfirst
    rfl
  · intro last hlast
    obtain rfl : 'c' = last := Option.some.inj hlast
    rfl

/-- A page break at the end shows nothing. -/
theorem plainText_loses_page_break : ¬ ∀ (d : Document), d.page.header = none →
    d.page.footer = none → ∀ (lex : Lexicon) (ctx : Context) (options : RenderOptions),
      ∃ shown, List.Forall₂ (Block.IsShownAs (Template.resolve lex ctx)) d.blocks shown ∧
        (d.plainText lex ctx options).toList = ['\n', '\n'].intercalate shown := by
  intro whole
  obtain ⟨shown, each, eq⟩ := whole { empty ⟨0, 0⟩ with blocks := [.pageBreak] } rfl rfl .empty
    { gender := .male } {}
  obtain _ | ⟨first, _ | _⟩ := each
  change _ = ['\x0C'] at first
  subst first
  exact absurd eq (by decide +kernel)

end Document

end Agreement
