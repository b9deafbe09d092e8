import SqlAudit.Report.Basic
import SqlAudit.Settings.Decode
import SqlAudit.Toml.Parse

/-!
What is checked and against what, as a project file says it and as options of the command line change
it. An option that is given takes the place of what the file says.
-/

namespace SqlAudit

structure Project where
  schema : List String := []
  schemaFolder : Option String := none
  catalog : Option String := none
  files : List String := []
  format : Option ReportFormat := none
  disable : List String := []
  settings : Settings := {}
  deriving DecidableEq, Repr, Inhabited

structure CatalogOptions where
  schema : List String := []
  schemaFolder : Option String := none
  catalog : Option String := none
  driver : Option String := none
  deriving DecidableEq, Repr, Inhabited

structure CheckOptions where
  files : List String := []
  source : CatalogOptions := {}
  config : Option String := none
  format : Option ReportFormat := none
  maxDiagnostics : Option Nat := none
  disable : List String := []
  deriving DecidableEq, Repr, Inhabited

namespace Project

def fileName : String := "sqllint.toml"

def fieldNames : List String :=
  ["schema", "schema_dir", "catalog", "files", "format", "disable", "lint"]

def ofToml? (v : Toml) : Option Project := do
  let fields ← v.record? fieldNames
  let text (name : String) :=
    Decoder.defaulted fields name (fun v => v.string?.map some) (none : Option String)
  let texts (name : String) := Decoder.defaulted fields name Toml.strings? []
  let schema ← texts "schema"
  let schemaFolder ← text "schema_dir"
  let catalog ← text "catalog"
  let files ← texts "files"
  let format ← Decoder.defaulted fields "format"
    (fun v => (Toml.decoder.choice? ReportFormat.all ReportFormat.name v).map some) none
  let disable ← texts "disable"
  let settings ← Decoder.defaulted fields "lint" (Settings.decode? Toml.decoder {}) {}
  return { schema, schemaFolder, catalog, files, format, disable, settings }

def ofText? (text : String) : Option Project := (Toml.parse? text).bind ofToml?

def orElse {α : Type} (given kept : List α) : List α := if given.isEmpty then kept else given

def withSource (p : Project) (o : CatalogOptions) : Project :=
  { p with
    schema := orElse o.schema p.schema
    schemaFolder := o.schemaFolder.or p.schemaFolder
    catalog := o.catalog.or p.catalog
    settings := { p.settings with driver := o.driver.getD p.settings.driver } }

def withOptions (p : Project) (o : CheckOptions) : Project :=
  let p := p.withSource o.source
  { p with
    files := orElse o.files p.files
    format := o.format.or p.format
    disable := orElse o.disable p.disable
    settings :=
      { p.settings with maxDiagnostics := o.maxDiagnostics.getD p.settings.maxDiagnostics } }

/-- The settings of the audit, which keeps all findings: those to report are selected later. -/
def auditSettings (p : Project) : Settings := { p.settings with maxDiagnostics := 0 }

def unknownCode? (p : Project) : Option String :=
  p.disable.find? fun code => (Rule.ofCode? (Text.trimBlanks code)).isNone

def disabledRules (p : Project) : List Rule :=
  p.disable.filterMap fun code => Rule.ofCode? (Text.trimBlanks code)

end Project

end SqlAudit
