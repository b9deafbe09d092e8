import SqlAudit.Json.Finding
import SqlAudit.Json.Print
import SqlAudit.Report.Basic

/-!
The reports for other programs, both in JSON with the keys of every object in order: the findings of
a file as they are, and the exchange format for the results of static analysis.
-/

namespace SqlAudit

namespace Report

def json (file : String) (findings : List Finding) : Json :=
  .sorted (.object [("file", .string file), ("diagnostics", .ofList Finding.toJson findings)])

def version : String := "0.1.0-alpha.1"

/-- The exchange format knows three levels. -/
def level : Severity → String
  | .error => "error"
  | .warning => "warning"
  | .info => "note"
  | .hint => "note"

def region (r : Range) : Json :=
  .object [("startLine", .ofNat r.start.lineNumber), ("startColumn", .ofNat r.start.columnNumber),
    ("endLine", .ofNat r.stop.lineNumber), ("endColumn", .ofNat r.stop.columnNumber)]

def result (file : String) (f : Finding) : Json :=
  let place := Json.object
    [("artifactLocation", .object [("uri", .string file)]), ("region", region f.range)]
  .object [("ruleId", .string f.rule.code), ("level", .string (level f.severity)),
    ("message", .object [("text", .string f.message)]),
    ("locations", .array [.object [("physicalLocation", place)]])]

def schemaAddress : String :=
  "https://raw.githubusercontent.com/oasis-tcs/sarif-spec/master/Schemata/sarif-schema-2.1.0.json"

def sarif (file : String) (findings : List Finding) : Json :=
  let tool := Json.object [("driver", .object
    [("name", .string Finding.auditSource), ("version", .string version)])]
  .sorted (.object [("$schema", .string schemaAddress), ("version", .string "2.1.0"),
    ("runs", .array [.object [("tool", tool), ("results", .ofList (result file) findings)]])])

end Report

end SqlAudit
