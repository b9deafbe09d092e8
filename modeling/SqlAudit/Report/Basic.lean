import SqlAudit.Finding

/-!
What the reports have in common: the formats, the choice of the findings that are reported, and
places as people count them.
-/

namespace SqlAudit

inductive ReportFormat
  | human
  | json
  | sarif
  deriving DecidableEq, Repr, Inhabited

namespace ReportFormat

def name : ReportFormat → String
  | human => "human"
  | json => "json"
  | sarif => "sarif"

def all : List ReportFormat := [human, json, sarif]

end ReportFormat

namespace Finding

/-- The findings to report: the first `max` of those whose rule is not disabled, all of them when
`max` is zero. -/
def select (disabled : List Rule) (max : Nat) (findings : List Finding) : List Finding :=
  limit max (findings.filter fun f => !disabled.contains f.rule)

@[simp] theorem select_nil (max : Nat) (findings : List Finding) :
    select [] max findings = limit max findings := by
  have all : findings.filter (fun f => !([] : List Rule).contains f.rule) = findings :=
    List.filter_eq_self.2 fun _ _ => rfl
  rw [select, all]

def count (severity : Severity) (findings : List Finding) : Nat :=
  findings.countP (·.severity == severity)

end Finding

namespace Position

def lineNumber (p : Position) : Nat := p.line + 1

def columnNumber (p : Position) : Nat := p.column + 1

end Position

end SqlAudit
