/- # Agreement.Proofs.Gender.Saving: vocabularies read back

A vocabulary is saved by its keys as they are, and loaded like any batch of words: every key is
checked and made a key again. Nothing comes of that. A key is its own key and visible, so no two
keys become one and none is refused, and the number of words in the longest key is found again. So
only the version is lost, on which nothing that is resolved depends.
-/
import Agreement.Proofs.Gender.Registry
import Agreement.Proofs.Json.Decoding
import Agreement.Proofs.Template.Usability

namespace Agreement

open Json Json.Decoder Text

/-- An entry is read back as it was saved. The form for organizations is missing if there is
none. -/
theorem Entry.reads {ε : Type} (e : Entry) : Reads (ε := ε) Entry.decoder 1 e e.toJson := by
  rw [toJson, List.append_assoc]
  exact reads_record (by simp [field, optionalField]) <|
    .field (reads_string 0 e.forms.male) <|
    .field (reads_string 0 e.forms.female) <|
    .field (reads_string 0 e.forms.plural) <|
    .ifSome (fun s _ => ⟨reads_string 0 s, trivial⟩) rfl <|
    .optionalField (reads_bool 0 e.takesArticle) <|
    .nil _

namespace Lexicon

variable {lex : Lexicon} {batch : List (String × Entry)}

/-! ## Keys are valid words -/

theorem key_key (word : String) : key (key word) = key word := by
  rw [key, toList_key, normalizeKey_normalizeKey]
  rfl

/-- An entry that is valid for a word is for its key. -/
theorem isValid_key {word : String} {e : Entry} (valid : e.isValid word = true) :
    e.isValid (key word) = true := by
  have visible : isBlank (key word).toList = false := by
    obtain ⟨c, rest, eq, first⟩ :=
      normalizeKey_eq_cons (words_normalize_ne_nil (isVisible_of_isValid valid))
    rw [toList_key, eq]
    simp [isBlank, first]
  simp only [Entry.isValid, List.any_cons, Bool.not_eq_true', Bool.or_eq_false_iff] at valid ⊢
  exact ⟨visible, valid.2⟩

/-- Each key is its own key, and its entry is valid for it. -/
structure IsKeyed (lex : Lexicon) : Prop where
  own : ∀ p ∈ lex.entries.entries, key p.1 = p.1
  valid : AllValid lex.entries.entries

theorem isKeyed_empty : empty.IsKeyed := ⟨nofun, nofun⟩

theorem IsKeyed.bind (h : lex.IsKeyed) {word : String} {e : Entry}
    (valid : e.isValid word = true) : (lex.bind word e).IsKeyed := by
  constructor
  · intro p hp
    rcases SortedMap.of_mem_insertInto hp with rfl | old
    · exact key_key word
    · exact h.own p old
  · intro p hp
    rcases SortedMap.of_mem_insertInto hp with rfl | old
    · exact isValid_key valid
    · exact h.valid p old

theorem IsKeyed.bindAll (h : lex.IsKeyed) (valid : AllValid batch) :
    (lex.bindAll batch).IsKeyed := by
  induction batch generalizing lex with
  | nil => exact h
  | cons p batch ih =>
      obtain ⟨first, others⟩ := List.forall_mem_cons.mp valid
      exact ih (h.bind first) others

theorem Reachable.isKeyed (h : lex.Reachable) : lex.IsKeyed := by
  obtain ⟨version, batch, valid, rfl⟩ := h.exists_batch
  have keyed := isKeyed_empty.bindAll valid
  exact ⟨keyed.own, keyed.valid⟩

/-! ## Binding what is there -/

/-- Words that are keys are bound as they are. -/
theorem entries_bindAll_of_own {m : SortedMap String Entry}
    (own : ∀ p ∈ m.entries, key p.1 = p.1) : (empty.bindAll m.entries).entries = m := by
  have same : m.entries.map (fun p => (key p.1, p.2)) = m.entries := by
    rw [List.map_congr_left (g := id) fun p hp => by rw [own p hp]; rfl, List.map_id]
  rw [entries_bindAll, same]
  exact SortedMap.ofList_entries m

/-- **The entries of a vocabulary make it again**, as a first version. -/
theorem Reachable.ofEntries_entries (h : lex.Reachable) :
    ofEntries lex.entries.entries = .ok { lex with version := 1 } := by
  have entries := entries_bindAll_of_own h.isKeyed.own
  have longest : (Lexicon.empty.bindAll lex.entries.entries).maxWords = lex.maxWords := by
    rw [isMeasured_empty.bindAll lex.entries.entries, entries, h.isMeasured]
  rw [ofEntries, extend_of_allValid .empty h.isKeyed.valid, advance, entries, longest]
  rfl

theorem reads_toJson (lex : Lexicon) : Reads bindingsDecoder 2 lex.entries lex.toJson := by
  have bindings : Reads (bindings .ok Entry.decoder) 2 lex.entries.entries lex.toJson :=
    @reads_bindings Error Entry String _ _ _ id _ _ (fun _ _ => rfl) fun p _ => p.2.reads
  have read := bindings.map SortedMap.ofList
  rwa [SortedMap.ofList_entries] at read

/-- **A saved vocabulary is loaded as the one that it was**, but for the version. -/
theorem Reachable.ofJson_text (h : lex.Reachable) (layout : Layout) :
    Lexicon.ofJson (lex.toJson.text layout) = .ok { lex with version := 1 } := by
  rw [Lexicon.ofJson, lex.reads_toJson.decode_text (by decide)]
  dsimp only
  rw [h.ofEntries_entries]
  rfl

/-! ## What is resolved -/

section SameEntries

variable {lex' : Lexicon}

theorem find?_congr (entries : lex.entries = lex'.entries) (k : List Char) :
    lex.find? k = lex'.find? k := by
  unfold find?
  rw [entries]

theorem inflect_congr (entries : lex.entries = lex'.entries) (word : String) (g : Gender) :
    lex.inflect word g = lex'.inflect word g := by
  rw [inflect, inflect, find?_congr entries]

end SameEntries

end Lexicon

namespace Template

variable {lex lex' : Lexicon}

/-- Only the entries and the length of the longest key count. -/
theorem resolve_congr (entries : lex.entries = lex'.entries)
    (longest : lex.maxWords = lex'.maxWords) (ctx : Context) (template : String) :
    resolve lex ctx template = resolve lex' ctx template := by
  have each : resolveSegment lex ctx = resolveSegment lex' ctx := by
    funext ⟨seams, segment⟩
    cases segment with
    | text s =>
        exact Lexicon.inAgreement_congr longest (fun _ _ p _ => Lexicon.find?_congr entries p.key)
          ctx.gender seams
    | placeholder p source =>
        cases p with
        | agreeing tag word =>
            simp only [resolveSegment, inflectFor, Lexicon.inflect_congr entries]
        | _ => rfl
  rw [resolve, resolve, each]

end Template

open Lexicon

/-- **Saving and loading a vocabulary changes nothing that is resolved.** Whatever vocabulary a
registry started with and whatever was asked of it since, its current one is loaded from what is
saved of it with the same keys and entries and the same number of words in its longest key, so every
text, word and template is resolved as before. -/
theorem Registry.saved_resolves_alike {start : Lexicon} (h : start.Reachable)
    (requests : List Request) (layout : Layout) :
    let lex := ((Registry.mk start).run requests).2.current
    ∃ loaded, Lexicon.ofJson (lex.toJson.text layout) = .ok loaded ∧
      loaded.entries = lex.entries ∧ loaded.maxWords = lex.maxWords ∧
      (∀ text g, Template.agree loaded g text = Template.agree lex g text) ∧
      (∀ word g, loaded.inflect word g = lex.inflect word g) ∧
      ∀ template ctx, Template.resolve loaded ctx template = Template.resolve lex ctx template := by
  intro lex
  have reachable : lex.Reachable := reachable_run (r := ⟨start⟩) h requests
  let loaded : Lexicon := { lex with version := 1 }
  have entries : loaded.entries = lex.entries := rfl
  have longest : loaded.maxWords = lex.maxWords := rfl
  refine ⟨loaded, reachable.ofJson_text layout, entries, longest, ?_, ?_, ?_⟩
  · intro text g
    exact Template.agree_congr longest (fun _ _ _ _ p _ => find?_congr entries p.key) g
  · intro word g
    exact inflect_congr entries word g
  · intro template ctx
    exact Template.resolve_congr entries longest ctx template

/-- Two writes that count, one of which replaces an entry, around one that does not. A quote in a
form is saved with a backslash, and a key with the single space that it is looked up by. -/
theorem Registry.saved_resolves_alike_quote :
    let lawyer : Entry := ⟨⟨"עו\"ד", "עורכת דין", "עורכי דין", some "משרד"⟩, false⟩
    let pronoun : Entry := ⟨⟨"הוא", "היא", "הם", none⟩, true⟩
    let requests : List Request :=
      [.add "הוא" lawyer, .extend [("הוא", pronoun), (" ", pronoun)],
        .extend [(" בא  כוחו", lawyer), ("הוא", pronoun)]]
    let text := "\x7b\"בא כוחו\":\x7b\"male\":\"עו\\\"ד\",\"female\":\"עורכת דין\"," ++
      "\"plural\":\"עורכי דין\",\"organization\":\"משרד\",\"takes_article\":false\x7d," ++
      "\"הוא\":\x7b\"male\":\"הוא\",\"female\":\"היא\"," ++
      "\"plural\":\"הם\",\"takes_article\":true\x7d\x7d"
    let lex := ((Registry.mk .empty).run requests).2.current
    Lexicon.empty.Reachable ∧ lex.toJson.text .compact = text ∧
      ∃ loaded, Lexicon.ofJson text = .ok loaded ∧ loaded.maxWords = 2 ∧
        loaded.entries.entries = [("בא כוחו", lawyer), ("הוא", pronoun)] ∧
        Template.agree loaded .organization "הוא, בא כוחו" = "הם, משרד" := by
  intro lawyer pronoun requests text lex
  have saved : lex.toJson.text .compact = text := by decide +kernel
  obtain ⟨loaded, read, entries, longest, agrees, -⟩ :=
    saved_resolves_alike .empty requests .compact
  rw [saved] at read
  refine ⟨.empty, saved, loaded, read, longest.trans (by decide +kernel), ?_, ?_⟩
  · rw [entries]
    decide +kernel
  · rw [agrees]
    decide +kernel

end Agreement
