/- # Agreement.Proofs.Review.Saving: reports read back

A finding is saved under the code of its kind, and what it holds is looked at only once the code is
known. So every kind has a record of its own to be read as, and all of them read back, and reports
with them. Only a count can be too great to be read, for a count takes 64 bits.
-/
import Agreement.Proofs.Json.Results
import Agreement.Proofs.Template.Saving
import Agreement.Review.Report

namespace Agreement

open Json Json.Decoder

variable {ε : Type}

theorem Gender.reads (room : Nat) (g : Gender) : Reads (ε := ε) Gender.decoder room g g.toJson :=
  reads_choice room g.ofName?_name

/-- Two fields of a record that are read one after the other. -/
theorem reads_pair {α β : Type} {first second : String} {a blank_a : α} {b blank_b : β}
    {dα : Json.Decoder ε α} {dβ : Json.Decoder ε β} {ja jb : Json} {room : Nat}
    (apart : first ≠ second) (read_a : Reads dα room a ja) (read_b : Reads dβ room b jb) :
    Reads (record (blank_a, blank_b)
      [ field first (fun x p => (x, p.2)) dα, field second (fun y p => (p.1, y)) dβ ])
      (room + 1) (a, b) (.object [(first, ja), (second, jb)]) :=
  reads_record (by simpa [field] using apart) <|
    .field read_a <|
    .field read_b <|
    .nil _

namespace Finding

theorem reads_oneText {name : String} {make : String → Finding} (s : String) :
    Reads (ε := ε) (oneText name make) 1 (make s) (.object [(name, .string s)]) :=
  reads_record (by simp) <|
    .field (reads_string 0 s) <|
    .nil _

/-- What a finding holds is read as a finding of its kind. -/
theorem reads_members (f : Finding) :
    Reads (ε := ε) (ofKindDecoder f.kind) 1 f (.object f.members) := by
  cases f with
  | unresolved g name =>
      exact (reads_pair (by decide) (g.reads 0) (reads_string 0 name)).map fun p =>
        unresolved p.1 p.2
  | unknownWord tag word =>
      exact (reads_pair (by decide) (reads_string 0 tag) (reads_string 0 word)).map fun p =>
        unknownWord p.1 p.2
  | unused s | undeclared s | handwritten s | stray s => exact reads_oneText s

theorem reads (f : Finding) : Reads (ε := ε) Finding.decoder 1 f f.toJson := by
  apply reads_union f.kind.ofCode?_code ?_ ?_ f.reads_members
  · cases f <;> simp [members]
  · cases f <;> simp [members, Gender.toJson, tree, anything]

end Finding

theorem ClauseReport.reads (r : ClauseReport) :
    Reads (ε := ε) ClauseReport.decoder 3 r r.toJson :=
  reads_record (by simp [field]) <|
    .field (reads_string 2 r.id) <|
    .field (reads_string 2 r.title) <|
    .field (reads_bool 2 r.passed) <|
    .field (reads_list fun f _ => f.reads) <|
    .nil _

namespace Report

/-- The counts of a report. -/
def counts (r : Report) : List Nat := [r.total, r.passed, r.failed, r.errorCount, r.warningCount]

theorem reads {r : Report} (fits : ∀ n ∈ r.counts, n ≤ maxWord) :
    Reads (ε := ε) Report.decoder 5 r r.toJson := by
  simp only [counts, List.forall_mem_cons] at fits
  obtain ⟨total, passed, failed, errors, warnings, -⟩ := fits
  exact reads_record (by simp [field]) <|
    .field (reads_natural 4 total le_rfl) <|
    .field (reads_natural 4 passed le_rfl) <|
    .field (reads_natural 4 failed le_rfl) <|
    .field (reads_natural 4 errors le_rfl) <|
    .field (reads_natural 4 warnings le_rfl) <|
    .field (reads_list fun c _ => c.reads) <|
    .nil _

/-- No text holds a report whose counts take more than 64 bits. -/
theorem counts_of_load {text : String} {r : Report} (loaded : load text = .ok r) :
    ∀ n ∈ r.counts, n ≤ maxWord := by
  have filled : Yields (ε := Error) decoder maxRoom fun r => ∀ n ∈ r.counts, n ≤ maxWord := by
    refine yields_record (fun _ => by simp [counts]) fun room _ f hf r fits => ?_
    have count : Yields (ε := Error) (natural maxWord) room (· ≤ maxWord) :=
      yields_natural maxWord
    simp only [counts, List.forall_mem_cons] at fits
    simp only [List.mem_cons, List.not_mem_nil, or_false] at hf
    rcases hf with rfl | rfl | rfl | rfl | rfl | rfl
    · exact count.map fun n small => by simp [counts, fits, small]
    · exact count.map fun n small => by simp [counts, fits, small]
    · exact count.map fun n small => by simp [counts, fits, small]
    · exact count.map fun n small => by simp [counts, fits, small]
    · exact count.map fun n small => by simp [counts, fits, small]
    · exact yields_any.map fun _ _ => by simp [counts, fits]
  exact filled _ _ r le_rfl (decode_eq_ok.mp loaded).1

end Report

/-- **Libraries and reports read back from what is saved of them**, in either layout. A library does
whatever clauses it has, and a report does exactly if its counts are numbers of 64 bits. -/
theorem libraries_and_reports_read_back (layout : Layout) :
    (∀ lib : Library, Library.ofJson (lib.toJson.text layout) = .ok lib) ∧
    ∀ r : Report, Report.load (r.save layout) = .ok r ↔ ∀ n ∈ r.counts, n ≤ maxWord := by
  refine ⟨fun lib => lib.ofJson_text layout, fun r => ⟨Report.counts_of_load, ?_⟩⟩
  intro fits
  exact (Report.reads fits).decode_text (by decide) layout

end Agreement
