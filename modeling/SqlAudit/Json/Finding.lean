import SqlAudit.Finding
import SqlAudit.Json.Decode

/-!
Findings in JSON: their fields in order, the help left out where there is none.
-/

namespace SqlAudit

def Position.toJson (p : Position) : Json :=
  .object [("line", .ofNat p.line), ("character", .ofNat p.column)]

def Position.ofJson? (j : Json) : Option Position := do
  let fields ← j.record? ["line", "character"]
  let line ← Decoder.required fields "line" (Json.natBelow? (Position.limit + 1))
  let column ← Decoder.required fields "character" (Json.natBelow? (Position.limit + 1))
  return ⟨line, column⟩

def Range.toJson (r : Range) : Json :=
  .object [("start", r.start.toJson), ("end", r.stop.toJson)]

def Range.ofJson? (j : Json) : Option Range := do
  let fields ← j.record? ["start", "end"]
  let start ← Decoder.required fields "start" Position.ofJson?
  let stop ← Decoder.required fields "end" Position.ofJson?
  return ⟨start, stop⟩

namespace Finding

def toJson (f : Finding) : Json :=
  let help := match f.help with
    | some text => [("help", Json.string text)]
    | none => []
  .object ([("range", f.range.toJson), ("severity", .string f.severity.label),
    ("code", .string f.rule.code), ("source", .string f.source),
    ("message", .string f.message)] ++ help)

def ofJson? (j : Json) : Option Finding := do
  let fields ← j.record? ["range", "severity", "code", "source", "message", "help"]
  let range ← Decoder.required fields "range" Range.ofJson?
  let severity ← Decoder.required fields "severity" (Json.choice? Severity.all Severity.label)
  let rule ← Decoder.required fields "code" (Json.choice? Rule.all Rule.code)
  let source ← Decoder.required fields "source" Json.string?
  let message ← Decoder.required fields "message" Json.string?
  let help ← Decoder.defaulted fields "help" (Json.nullable Json.string?) none
  return ⟨range, severity, rule, source, message, help⟩

end Finding

end SqlAudit
