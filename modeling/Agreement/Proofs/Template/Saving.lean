/- # Agreement.Proofs.Template.Saving: libraries read back

A library is saved as the list of its clauses. Nothing of a clause can get lost on the way: a field
that is left out when it is empty is empty when it is missing, and no identity is looked at, so a
library with repeated ones is read back as well.
-/
import Agreement.Proofs.Json.Decoding
import Agreement.Template.Library

namespace Agreement

open Json Json.Decoder

variable {ε : Type}

theorem reads_strings (room : Nat) (l : List String) :
    Reads (ε := ε) (list string) (room + 1) l (.array (l.map .string)) :=
  reads_list fun s _ => reads_string room s

theorem FormField.reads (f : FormField) : Reads (ε := ε) FormField.decoder 2 f f.toJson := by
  rw [toJson, ← List.append_nil (Json.memberIfAny _ _ _)]
  exact reads_record (by simp [field, optionalField]) <|
    .field (reads_string 1 f.id) <|
    .field (reads_string 1 f.label) <|
    .optionalField (reads_choice 1 f.type.ofName?_name) <|
    .optionalField (reads_bool 1 f.required) <|
    .ifAny (fun s _ => reads_string 0 s) rfl <|
    .nil _

theorem Clause.reads (c : Clause) : Reads (ε := ε) Clause.decoder 4 c c.toJson := by
  rw [toJson, ← List.append_nil (Json.memberIfAny _ _ _)]
  exact reads_record (by simp [field, optionalField]) <|
    .field (reads_string 3 c.id) <|
    .field (reads_string 3 c.title) <|
    .field (reads_string 3 c.category) <|
    .field (reads_string 3 c.body) <|
    .optionalField (reads_strings 2 c.declaredVariables) <|
    .optionalField (reads_strings 2 c.documentTypes) <|
    .ifAny (fun f _ => f.reads) rfl <|
    .nil _

/-- **Every library is read back as it was saved**, its clauses in their order. -/
theorem Library.ofJson_text (lib : Library) (layout : Layout) :
    ofJson (lib.toJson.text layout) = .ok lib := by
  have reads : Reads (ε := Error) (list Clause.decoder) 5 lib.clauses lib.toJson :=
    reads_list fun c _ => c.reads
  rw [ofJson, reads.decode_text (by decide)]

end Agreement
