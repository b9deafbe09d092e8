import SqlAudit.Json.Finding
import SqlAudit.Json.Spelling
import SqlAudit.Proofs.Json.Settings

/-!
Settings and findings that are written in JSON are read back, on one line or over several, and the
code of a finding is written in the one spelling that the table of codes and the names of the rules
share.
-/

namespace SqlAudit

namespace Json

def printed (j : Json) : List String := [j.pretty, j.compact]

theorem parse?_printed {j : Json} (numerals : j.Numerals) {text : String} (h : text ∈ j.printed) :
    parse? text = some j := by
  simp only [printed, List.mem_cons, List.not_mem_nil, or_false] at h
  rcases h with rfl | rfl
  · exact parse?_pretty numerals
  · exact parse?_compact numerals

end Json

theorem Position.ofJson?_toJson {p : Position} (line : p.line ≤ limit) (column : p.column ≤ limit) :
    ofJson? p.toJson = some p := by
  have read : ofJson? p.toJson = do
      let line ← Json.natBelow? (limit + 1) (.ofNat p.line)
      let column ← Json.natBelow? (limit + 1) (.ofNat p.column)
      return ⟨line, column⟩ := rfl
  rw [read, Json.natBelow?_ofNat (Nat.lt_succ_of_le line),
    Json.natBelow?_ofNat (Nat.lt_succ_of_le column)]
  rfl

theorem Position.numerals_toJson (p : Position) : p.toJson.Numerals := by
  simp [toJson, Json.Numerals, Json.FieldNumerals, Json.numerals_ofNat]

theorem Range.ofJson?_toJson {r : Range} (stored : r.Stored) : ofJson? r.toJson = some r := by
  obtain ⟨startLine, startColumn, stopLine, stopColumn⟩ := stored
  have read : ofJson? r.toJson = do
      let start ← Position.ofJson? r.start.toJson
      let stop ← Position.ofJson? r.stop.toJson
      return ⟨start, stop⟩ := rfl
  rw [read, Position.ofJson?_toJson startLine startColumn, Position.ofJson?_toJson stopLine stopColumn]
  rfl

theorem Range.numerals_toJson (r : Range) : r.toJson.Numerals := by
  simp [toJson, Json.Numerals, Json.FieldNumerals, Position.numerals_toJson]

theorem Severity.choice?_label (s : Severity) : Json.choice? all label (.string s.label) = some s := by
  cases s <;> rfl

theorem Rule.choice?_code (r : Rule) : Json.choice? all code (.string r.code) = some r := by
  cases r <;> rfl

theorem Rule.ofCode?_code (r : Rule) : ofCode? r.code = some r := by
  cases r <;> rfl

namespace Finding

theorem ofJson?_toJson {f : Finding} (stored : f.range.Stored) : ofJson? f.toJson = some f := by
  obtain ⟨range, severity, rule, source, message, help⟩ := f
  have read : ofJson? (toJson ⟨range, severity, rule, source, message, help⟩) = do
      let range ← Range.ofJson? range.toJson
      let severity ← Json.choice? Severity.all Severity.label (.string severity.label)
      let rule ← Json.choice? Rule.all Rule.code (.string rule.code)
      return ⟨range, severity, rule, source, message, help⟩ := by
    cases help <;> rfl
  rw [read, Range.ofJson?_toJson stored, severity.choice?_label, rule.choice?_code]
  rfl

theorem numerals_toJson (f : Finding) : f.toJson.Numerals := by
  obtain ⟨range, severity, rule, source, message, help⟩ := f
  cases help <;>
    simp [toJson, Json.Numerals, Json.FieldNumerals, Range.numerals_toJson]

theorem get?_code_toJson (f : Finding) : f.toJson.get? "code" = some (.string f.rule.code) := by
  obtain ⟨range, severity, rule, source, message, help⟩ := f
  cases help <;> rfl

end Finding

/-! ### Settings and findings -/

/-- Settings are read back from what they are written as; an object that names some of their fields,
in any order and among keys of other names, replaces just these fields of the default settings; and
findings are read back with the code that the table gives to their rule, which is also the one that
is derived from its name and which leads back to the rule. -/
theorem settings_and_findings_survive :
    (∀ s : Settings, s.maxDiagnostics < UInt64.size →
      ∀ text ∈ s.toJson.printed, (Json.parse? text).bind Settings.ofJson? = some s) ∧
    (∀ fields, Settings.WellTyped fields →
      ∃ s, Settings.ofJson? (.object fields) = some s ∧ Settings.Replaces {} s fields) ∧
    ∀ f : Finding, f.range.Stored →
      (∀ text ∈ f.toJson.printed, (Json.parse? text).bind Finding.ofJson? = some f) ∧
      f.toJson.get? "code" = some (.string f.rule.code) ∧
      Json.kebabCase f.rule.name = f.rule.code ∧
      Rule.ofCode? f.rule.code = some f.rule := by
  refine ⟨fun s fits text printed => ?_, fun fields typed => typed.exists_replaces {},
    fun f stored => ⟨fun text printed => ?_, f.get?_code_toJson, f.rule.kebabCase_name,
      f.rule.ofCode?_code⟩⟩
  · rw [Json.parse?_printed s.numerals_toJson printed, Option.bind_some,
      Settings.ofJson?_toJson fits]
  · rw [Json.parse?_printed f.numerals_toJson printed, Option.bind_some,
      Finding.ofJson?_toJson stored]

/-- The largest limit, and a driver with a quote, a line end and letters beyond ASCII. -/
def oddSettings : Settings :=
  { warnOnUnusedAlias := true, checkMissingSemicolon := .on .hint,
    maxDiagnostics := UInt64.size - 1, driver := "größe \"8\\\n" }

/-- Three fields out of order, one of them in the longer form of a case, and a key of another name
that occurs twice. -/
def threeFields : List (String × Json) :=
  [("colour", .null), ("driver", .string "mysql8"),
   ("checkMissingSemicolon", .object [("hint", .null)]), ("colour", .array [.number "-1e9"]),
   ("warnOnSelectStar", .bool false)]

/-- A range that runs backwards from the last place there is, and a help text. -/
def oddFinding : Finding :=
  .withHelp (.error .columnNotFound ⟨⟨Position.limit, Position.limit⟩, .origin⟩ "no 'a\tb'") "Did you?"

theorem wellTyped_threeFields : Settings.WellTyped threeFields where
  once := by decide
  typed := by
    intro kind f v mem
    cases f <;> simp [threeFields, Settings.Field.key] at mem <;> subst mem
    · exact ⟨false, .flag false⟩
    · exact ⟨.on .hint, .severityCase (.on .hint)⟩
    · exact ⟨"mysql8", .text "mysql8"⟩

theorem odd_records_survive :
    (oddSettings.maxDiagnostics < UInt64.size ∧
      (Json.parse? oddSettings.toJson.compact).bind Settings.ofJson? = some oddSettings) ∧
    (Settings.WellTyped threeFields ∧
      ∃ s, Settings.ofJson? (.object threeFields) = some s ∧ Settings.Replaces {} s threeFields) ∧
    (oddFinding.range.Stored ∧
      (Json.parse? oddFinding.toJson.pretty).bind Finding.ofJson? = some oddFinding) :=
  ⟨⟨by decide, settings_and_findings_survive.1 oddSettings (by decide) _ (by simp [Json.printed])⟩,
    ⟨wellTyped_threeFields, settings_and_findings_survive.2.1 threeFields wellTyped_threeFields⟩,
    ⟨by decide, (settings_and_findings_survive.2.2 oddFinding (by decide)).1 _
      (by simp [Json.printed])⟩⟩

end SqlAudit
