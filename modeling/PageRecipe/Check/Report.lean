/-!
# Findings and reports

A finding is one outcome observed at a node, kept as text so that it outlives the tree.
A report collects the findings of one pass. Reporting only ever appends.
-/

namespace PageRecipe

/-- How a finding counts against a page. -/
inductive Severity where
  /-- A definite violation. -/
  | fail
  /-- A required part was searched for and not found. -/
  | expected
  deriving DecidableEq, Repr

/-- The name of a severity. -/
def Severity.display : Severity → String
  | fail => "fail"
  | expected => "expected"

/-- One outcome : the selector of the node it refers to, a message, a code and a severity. -/
structure Finding where
  node : String
  message : String
  code : String
  severity : Severity
  deriving DecidableEq, Repr

/-- A finding on one line. -/
def Finding.display (finding : Finding) : String :=
  "[" ++ finding.severity.display ++ "] " ++ finding.node ++ ": " ++ finding.message ++
    " (" ++ finding.code ++ ")"

/-- The findings of one pass, in the order in which they were reported. -/
structure Report where
  findings : List Finding
  deriving DecidableEq, Repr

namespace Report

/-- The report without findings. -/
def empty : Report := ⟨[]⟩

/-- Records a violation at a node. -/
def fail (report : Report) (node message code : String) : Report :=
  ⟨report.findings ++ [⟨node, message, code, .fail⟩]⟩

/-- Records that what `selector` selects was expected below a node and not found. -/
def expected (report : Report) (node selector code : String) : Report :=
  ⟨report.findings ++ [⟨node, "expected element not found: " ++ selector, code, .expected⟩]⟩

/-- Records a violation when `condition` holds. -/
def failIf (report : Report) (condition : Bool) (node message code : String) : Report :=
  if condition then report.fail node message code else report

/-- Appends findings collected elsewhere. -/
def extend (report : Report) (more : List Finding) : Report := ⟨report.findings ++ more⟩

/-- The findings, and the report left empty. -/
def drain (report : Report) : List Finding × Report := (report.findings, empty)

theorem findings_extend (report : Report) (more : List Finding) :
    (report.extend more).findings = report.findings ++ more := rfl

end Report

end PageRecipe
