/- # Agreement.Review.Report: what a review found

A report lists the clauses in the order of their library, with the findings about each and the
counts of both. It can be saved and loaded, and it can be written for people.
-/
import Agreement.Review.Finding

namespace Agreement

open Json.Decoder

/-- What a review found about one clause. -/
structure ClauseReport where
  id : String
  title : String
  /-- Whether no finding is an error. -/
  passed : Bool
  /-- The findings in the order in which they were made. -/
  findings : List Finding
  deriving DecidableEq, Repr, Inhabited

namespace ClauseReport

/-- The report of the findings about a clause. -/
def ofFindings (id title : String) (findings : List Finding) : ClauseReport where
  id := id
  title := title
  passed := !findings.any Finding.isError
  findings := findings

/-- The number of findings of a severity. -/
def countSeverity (r : ClauseReport) (s : Severity) : Nat :=
  (r.findings.filter (·.severity == s)).length

/-- The number of findings with a code. -/
def countCode (r : ClauseReport) (code : String) : Nat :=
  (r.findings.filter (·.code == code)).length

/-- The word for the outcome. -/
def status (r : ClauseReport) : String := if r.passed then "PASS" else "FAIL"

/-- The lines of the findings for people. -/
def findingLines (r : ClauseReport) : List String :=
  r.findings.map fun f => "    " ++ f.severity.name ++ ": " ++ f.message

/-- A report on a clause in saved data. -/
def toJson (r : ClauseReport) : Json :=
  .object [("id", .string r.id), ("title", .string r.title), ("passed", .bool r.passed),
    ("diagnostics", .array (r.findings.map Finding.toJson))]

/-- Reads a report on a clause from saved data. -/
def decoder {ε : Type} : Json.Decoder ε ClauseReport :=
  record ⟨"", "", false, []⟩
    [ field "id" (fun x r => { r with id := x }) string,
      field "title" (fun x r => { r with title := x }) string,
      field "passed" (fun x r => { r with passed := x }) bool,
      field "diagnostics" (fun x r => { r with findings := x }) (list Finding.decoder) ]

end ClauseReport

/-- What a review found about a library. -/
structure Report where
  total : Nat
  passed : Nat
  failed : Nat
  errorCount : Nat
  warningCount : Nat
  clauses : List ClauseReport
  deriving DecidableEq, Repr, Inhabited

namespace Report

/-- The number of findings of a severity in several reports. -/
def countFindings (s : Severity) : List ClauseReport → Nat
  | [] => 0
  | c :: clauses => c.countSeverity s + countFindings s clauses

/-- The report that counts reports on clauses. -/
def ofClauses (clauses : List ClauseReport) : Report where
  total := clauses.length
  passed := clauses.countP (·.passed)
  failed := clauses.countP (!·.passed)
  errorCount := countFindings .error clauses
  warningCount := countFindings .warning clauses
  clauses := clauses

/-- Whether every clause passed. -/
def isSuccess (r : Report) : Bool := r.failed == 0

/-- The first report on a clause with an id. -/
def clause? (r : Report) (id : String) : Option ClauseReport := r.clauses.find? (·.id == id)

/-- The line of the counts. -/
def summary (r : Report) : String :=
  toString r.total ++ " templates: " ++ toString r.passed ++ " passed, " ++ toString r.failed ++
    " failed (" ++ toString r.errorCount ++ " errors, " ++ toString r.warningCount ++ " warnings)"

/-- The report for people, with a heading for each clause. -/
def textWith (heading : ClauseReport → String) (r : Report) : String :=
  String.join <| (r.clauses.flatMap (fun c => heading c :: c.findingLines) ++ ["", r.summary]).map
    (· ++ "\n")

/-- The report for people. -/
def text : Report → String :=
  textWith fun c => "[" ++ c.status ++ "] " ++ c.id ++ " (" ++ c.title ++ ")"

/-- A report in saved data. -/
def toJson (r : Report) : Json :=
  .object [("total", .count r.total), ("passed", .count r.passed), ("failed", .count r.failed),
    ("error_count", .count r.errorCount), ("warning_count", .count r.warningCount),
    ("templates", .array (r.clauses.map ClauseReport.toJson))]

/-- Reads a count. -/
def countDecoder {ε : Type} : Json.Decoder ε Nat := natural Json.maxWord

/-- Reads a report from saved data. -/
def decoder {ε : Type} : Json.Decoder ε Report :=
  record ⟨0, 0, 0, 0, 0, []⟩
    [ field "total" (fun x r => { r with total := x }) countDecoder,
      field "passed" (fun x r => { r with passed := x }) countDecoder,
      field "failed" (fun x r => { r with failed := x }) countDecoder,
      field "error_count" (fun x r => { r with errorCount := x }) countDecoder,
      field "warning_count" (fun x r => { r with warningCount := x }) countDecoder,
      field "templates" (fun x r => { r with clauses := x }) (list ClauseReport.decoder) ]

/-- The text of a saved report. -/
def save (layout : Json.Layout) (r : Report) : String := r.toJson.text layout

/-- The report of a saved text. -/
def load (text : String) : Except ReadFault Report := Json.decode decoder text

/-- Every clause passed or failed. -/
theorem passed_add_failed (clauses : List ClauseReport) :
    (ofClauses clauses).passed + (ofClauses clauses).failed = (ofClauses clauses).total := by
  simpa [ofClauses] using (List.length_eq_countP_add_countP (·.passed) (l := clauses)).symm

end Report

end Agreement
