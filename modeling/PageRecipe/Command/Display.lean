import PageRecipe.Command.Failure
import PageRecipe.Command.Style
import PageRecipe.Project.Checking
import PageRecipe.Text.Json

/-!
# What commands show

Reports of pages are shown as lines (`Display.reports`) or as JSON (`PageReport.toJson`),
failures as lines with their causes (`Display.failure`).
-/

namespace PageRecipe

/-! ## JSON -/

/-- A finding as JSON. -/
def Finding.toJson (finding : Finding) : JsonValue :=
  .record [
    ("node", .string finding.node),
    ("message", .string finding.message),
    ("code", .string finding.code),
    ("severity", .string finding.severity.display)]

/-- A report as JSON. -/
def PageReport.toJson (report : PageReport) : JsonValue :=
  .record [
    ("path", .string report.path.text),
    ("findings", .list (report.findings.map Finding.toJson))]

/-! ## Lines -/

/-- How things are shown : with colours or without. -/
structure Display where
  usesColour : Bool
  deriving DecidableEq, Repr

namespace Display

/-- A text in a style, if there are colours. -/
def paint (display : Display) (style : Style) (text : String) : String :=
  if display.usesColour then style.paint text else text

/-- A line. -/
def line (text : String) : String := text ++ "\n"

/-- The line of a heading. -/
def heading (display : Display) (text : String) : String :=
  line (display.paint .boldCyan text)

/-- The line of something that went well. -/
def success (display : Display) (text : String) : String :=
  line (display.paint .green "✓" ++ " " ++ text)

/-- The line of something that is there. -/
def present (display : Display) (text : String) : String := "  " ++ display.success text

/-- The line of something that is missing. -/
def absent (display : Display) (text : String) : String :=
  line ("  " ++ display.paint .red "✗" ++ " " ++ text ++ " (not found)")

/-- The line of something with a label. -/
def labelled (display : Display) (label text : String) : String :=
  line (display.paint .green label ++ ": " ++ text)

/-- The line of a finding. -/
def finding (display : Display) (finding : Finding) : String :=
  let mark :=
    match finding.severity with
    | .fail => display.paint .red "✗"
    | .expected => display.paint .yellow "?"
  line ("  " ++ " ".intercalate
    [mark, display.paint .dimmed finding.node, finding.message,
      display.paint .dimmed ("(" ++ finding.code ++ ")")])

/-- The lines of a report. -/
def report (display : Display) (root : FilePath) (report : PageReport) : String :=
  display.heading (report.path.shownFrom root).text ++
    String.join (report.findings.map display.finding)

/-- The line that sums reports up. -/
def summary (display : Display) (reports : List PageReport) : String :=
  let shown := reports.filter PageReport.hasFindings
  if shown.isEmpty then
    display.success (toString reports.length ++ " documents checked, no findings")
  else
    let total := (shown.flatMap (·.findings)).length
    line (toString shown.length ++ " of " ++ toString reports.length ++
      " documents have findings (" ++ toString total ++ " total)")

/-- The lines of reports, of which those without findings are only counted. -/
def reports (display : Display) (root : FilePath) (reports : List PageReport) : String :=
  String.join ((reports.filter PageReport.hasFindings).map (display.report root)) ++
    display.summary reports

/-- The lines of a failure. -/
def failure (display : Display) (failure : Failure) : String :=
  line (display.paint .boldRed "error" ++ ": " ++ failure.message) ++
    String.join (failure.shownCauses.map fun cause =>
      line ("  " ++ display.paint .yellow "caused by" ++ ": " ++ cause))

end Display

end PageRecipe
