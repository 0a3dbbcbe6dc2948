/- # Agreement.Proofs.Document.Reloading: what is saved is loaded again

A document that has been built is loaded from its saved text without loss, unless a list in it nests
too deep to be read. A document that has been loaded can be saved and loaded again, if its measures
are finite. They need not be: a number beyond the greatest measure is read as infinity, which is
written as `null`. Where a measure is required the text is then refused, and where it is optional
the measure is lost.
-/
import Agreement.Proofs.Document.Building

namespace Agreement

open Json

/-! ## A document to save -/

/-- An item with so many levels of items below it. -/
def Item.chain : Nat → Item
  | 0 => mk "" []
  | n + 1 => mk "" [chain n]

/-- A table with a header that spans both columns. -/
def Table.sample : Table :=
  { rows := [{ cells := [{ text := "א", colspan := 2 }], isHeader := true }, .ofTexts ["1", "2"]],
    columnWidths := some [.ofTenths 335, .ofTenths 665] }

/-- A text with a quote and a line break, in a size of its own. -/
def Block.sample : Block :=
  { Block.paragraph "א\n\"ב\"" with style := some { fontSize := some (.ofTenths 125) } }

namespace Document

/-- A document with a text, a table and a list whose item has so many levels below it. -/
def sample (levels : Nat) : Document :=
  let now : Timestamp := ⟨1700000000, 250000000⟩
  let d := ((titled now "א").push now .sample).2
  let d := (d.push now (.table .sample)).2
  (d.push now (.numberedList { items := [.chain levels], numbering := .hebrew })).2

theorem built_sample (levels : Nat) : (sample levels).Built := by
  have titled : Built (titled ⟨1700000000, 250000000⟩ "א") := .step (.empty .epoch) (.metadata _ _)
  have text : Block.sample.Built := .edit (e := .style _) (.paragraph _) nofun rfl
  have table : Table.sample.Built :=
    .make (show Table.make Table.sample.rows Table.sample.columnWidths = .ok .sample by decide)
  exact .step (.step (.step titled (.push _ _ text)) (.push _ _ (.table table)))
    (.push _ _ (.numberedList _))

variable {d : Document}

/-- **A document that has been built is loaded from its saved text, in either layout, if and only if
every list in it nests at most 61 deep, and then it is the same document.** Its measures are finite,
and they and its times read back as they are written. -/
theorem load_save_iff_shallow (built : d.Built)
    (finite : ∀ x ∈ d.toJson.measures, x.isFinite = true)
    (measures : ∀ x ∈ d.toJson.measures, x.ReadsBack) (created : d.metadata.created.ReadsBack)
    (modified : d.metadata.modified.ReadsBack) (layout : Layout) (now : Timestamp) :
    ((∃ d', load now (save layout d) = .ok d') ↔ ∀ b ∈ d.blocks, ∀ l ∈ b.list?, l.depth ≤ 61) ∧
      ∀ d', load now (save layout d) = .ok d' → d' = d := by
  have keeps : d.toJson.Keeps := fun x hx => ⟨finite x hx, measures x hx⟩
  have shallow : ∀ d', load now (save layout d) = .ok d' →
      ∀ b ∈ d.blocks, ∀ l ∈ b.list?, l.depth ≤ 61 :=
    fun d' loaded => shallow_of_load_save loaded
  have same (fits : ∀ b ∈ d.blocks, ∀ l ∈ b.list?, l.depth ≤ 61) :
      load now (save layout d) = .ok d :=
    load_save built.sound keeps created modified fits layout now
  refine ⟨⟨fun ⟨d', loaded⟩ => shallow d' loaded, fun fits => ⟨d, same fits⟩⟩, ?_⟩
  intro d' loaded
  -- that anything is loaded shows the lists to be shallow, and then it is known what is loaded
  rw [same (shallow d' loaded)] at loaded
  exact (Except.ok.inj loaded).symm

/-- A list that nests 61 deep is loaded again, and one that nests 62 deep is not. -/
theorem load_save_sample :
    ((∀ n, (sample n).Built) ∧
      ∀ n ∈ [60, 61], (∀ x ∈ (sample n).toJson.measures, x.isFinite = true ∧ x.ReadsBack) ∧
        (sample n).metadata.created.ReadsBack ∧ (sample n).metadata.modified.ReadsBack) ∧
    load .epoch (save .pretty (sample 60)) = .ok (sample 60) ∧
    ∀ d', load .epoch (save .pretty (sample 61)) ≠ .ok d' := by
  have fine : ∀ n ∈ [60, 61],
      (∀ x ∈ (sample n).toJson.measures, x.isFinite = true ∧ x.ReadsBack) ∧
        (sample n).metadata.created.ReadsBack ∧ (sample n).metadata.modified.ReadsBack := by
    decide +kernel
  have reload : ∀ n ∈ [60, 61], _ := fun n hn =>
    load_save_iff_shallow (built_sample n) (fun x hx => ((fine n hn).1 x hx).1)
      (fun x hx => ((fine n hn).1 x hx).2) (fine n hn).2.1 (fine n hn).2.2 .pretty .epoch
  refine ⟨⟨built_sample, fine⟩, ?_, ?_⟩
  · obtain ⟨accepted, same⟩ := reload 60 (by decide)
    obtain ⟨d', loaded⟩ := accepted.mpr (by decide +kernel)
    rw [loaded, same d' loaded]
  · intro d' loaded
    have shallow := (reload 61 (by decide)).1.mp ⟨d', loaded⟩
    revert shallow
    decide +kernel

/-- **A document that has been loaded, from any text, is loaded again from its saved text**, if its
measures are finite and they and its times read back as they are written. -/
theorem reload_loaded {text : String} {before : Timestamp} (loaded : load before text = .ok d)
    (finite : ∀ x ∈ d.toJson.measures, x.isFinite = true)
    (measures : ∀ x ∈ d.toJson.measures, x.ReadsBack) (created : d.metadata.created.ReadsBack)
    (modified : d.metadata.modified.ReadsBack) (layout : Layout) (now : Timestamp) :
    load now (save layout d) = .ok d := by
  have within : ∀ b ∈ d.blocks, b.SoundWithin 61 := soundWithin_of_load loaded
  exact load_save (fun b hb => (within b hb).1) (fun x hx => ⟨finite x hx, measures x hx⟩) created
    modified (fun b hb => (within b hb).2) layout now

/-- A text with its members in another order, records written as arrays, an escaped letter and a
measure in scientific notation. -/
theorem reload_terse :
    let text := "\x7b\"next_id\":9," ++
      "\"blocks\":[[7,\"quote\",[\"text\",\"\\u05d0\"],null,[1,125e-1]]]\x7d"
    let b : Block :=
      { Block.quote "א" with
        id := 7, placement := { indentLevel := 1, marginTop := some (.ofTenths 125) } }
    let d := { empty .epoch with blocks := [b], nextId := 9 }
    (load .epoch text = .ok d ∧ (∀ x ∈ d.toJson.measures, x.isFinite = true ∧ x.ReadsBack) ∧
      d.metadata.created.ReadsBack) ∧
    load .epoch (save .compact d) = .ok d := by
  intro text b d
  have loaded : load .epoch text = .ok d := by decide +kernel
  have fine : ∀ x ∈ d.toJson.measures, x.isFinite = true ∧ x.ReadsBack := by decide +kernel
  have time : d.metadata.created.ReadsBack := by decide +kernel
  exact ⟨⟨loaded, fine, time⟩, reload_loaded loaded (fun x hx => (fine x hx).1)
    (fun x hx => (fine x hx).2) time time .compact .epoch⟩

/-- What a saved text is read as, without going through the string that holds it. -/
theorem load_save_eq_ok {layout : Layout} {now : Timestamp} {d' : Document} :
    load now (save layout d) = .ok d' ↔
      decoder now { room := maxRoom } (readText (d.toJson.write layout 0)).1 = .ok d' ∧
        (readText (d.toJson.write layout 0)).2 = true := by
  rw [load, save, decode_eq_ok, Json.text, String.toList_ofList]

/-- A number beyond the greatest measure is read as infinity, which is written as `null`. A margin
of the page is required, and the saved text is refused. A margin of a block is optional, and is lost
with the next loading. -/
theorem reload_loses_infinite_measures :
    let boundless : Binary32 := ⟨0x7F800000⟩
    let wide := { empty .epoch with page := { margins := ⟨boundless, 0, 0, 0⟩ } }
    let low (marginTop : Option Binary32) :=
      { empty .epoch with blocks := [{ Block.rule with placement := { marginTop } }] }
    (load .epoch ("\x7b\"blocks\":[],\"page\":\x7b\"margins\":" ++
        "\x7b\"top\":1e39,\"right\":0,\"bottom\":0,\"left\":0\x7d\x7d\x7d") = .ok wide ∧
      ∀ d, load .epoch (save .compact wide) ≠ .ok d) ∧
    (load .epoch ("\x7b\"blocks\":[\x7b\"kind\":\"rule\"," ++
        "\"content\":\x7b\"type\":\"empty\"\x7d," ++
        "\"metadata\":\x7b\"margin_top\":1e39\x7d\x7d]\x7d") = .ok (low boundless) ∧
      load .epoch (save .compact (low boundless)) = .ok (low none) ∧
      low none ≠ low boundless) := by
  intro boundless wide low
  refine ⟨⟨by decide +kernel, fun d loaded => ?_⟩, by decide +kernel,
    load_save_eq_ok.mpr (by decide +kernel), by decide +kernel⟩
  have refused : (decoder .epoch { room := maxRoom }
      (readText (wide.toJson.write .compact 0)).1).toOption = none := by decide +kernel
  rw [(load_save_eq_ok.mp loaded).1] at refused
  cases refused

end Document

end Agreement
