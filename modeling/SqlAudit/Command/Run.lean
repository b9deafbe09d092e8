import SqlAudit.Audit
import SqlAudit.Command.Arguments
import SqlAudit.Command.Listing
import SqlAudit.Command.Outcome
import SqlAudit.Files.Search
import SqlAudit.Json.Catalog
import SqlAudit.Json.Parse
import SqlAudit.Report.Human
import SqlAudit.Report.Json

/-!
Running the commands. A check ends with 1 if it reports an error and with 0 otherwise; so does
reading a file that cannot be read as SQL. Whatever keeps a command from its work ends it with 2.
-/

namespace SqlAudit

open Sql

def logChar (c : Char) : String :=
  if c = '"' then "\\\""
  else if c = '\\' then "\\\\"
  else if c = '\n' then "\\n"
  else if c = '\r' then "\\r"
  else if c = '\t' then "\\t"
  else if c.toNat = 0 then "\\0"
  else if c.toNat < 0x20 || (0x7F ≤ c.toNat && c.toNat < 0xA0) then
    "\\u\x7b" ++ String.ofList (Nat.toDigits 16 c.toNat) ++ "\x7d"
  else String.singleton c

def logQuoted (text : String) : String :=
  "\"" ++ String.join (text.toList.map logChar) ++ "\""

/-- What is said of a driver that stands for no dialect; nothing is said where none is given. -/
def driverWarning? (driver : String) : Option String :=
  if !driver.isEmpty && (Dialect.ofName? driver).isNone then
    some ("unknown driver, using the generic dialect driver=" ++ logQuoted driver)
  else none

namespace Report

def print (format : ReportFormat) (file text : String) (findings : List Finding) : Printed :=
  match format with
  | .human => .message (human file text findings)
  | .json => .output ((json file findings).pretty ++ "\n")
  | .sarif => .output ((sarif file findings).pretty ++ "\n")

def summary (errors warnings files : Nat) : String :=
  if errors = 0 ∧ warnings = 0 then
    "All " ++ toString files ++ " file(s) passed validation\n"
  else
    "\nFound " ++ toString errors ++ " error(s), " ++ toString warnings ++ " warning(s) in " ++
      toString files ++ " file(s)\n"

def exitCode (findings : List Finding) : Nat := if findings.any Finding.isError then 1 else 0

end Report

namespace Project

def findings (p : Project) (c : Option Catalog) (text : String) : List Finding :=
  Finding.select p.disabledRules p.settings.maxDiagnostics
    (audit (c.map Catalog.provider) p.auditSettings text)

end Project

namespace Command

variable {m : Type → Type} [Monad m]

def readFile (f : Files m) (path : String) : Task m String := do
  Task.ofExcept .file (← Task.ask (f.read path))

def expand (f : Files m) (paths : List String) : Task m (List String) := do
  Task.ofExcept (fun e => .pattern e.1 e.2) (← Task.ask (f.expand paths))

def readProject (f : Files m) (path : String) : Task m Project := do
  match Project.ofText? (← readFile f path) with
  | some p => return p
  | none => throw .project

def nearestProject (f : Files m) : List String → Task m Project
  | [] => return {}
  | folder :: folders => do
    let path := pathIn folder Project.fileName
    if ← Task.ask (f.present path) then readProject f path else nearestProject f folders

def findProject (f : Files m) : Task m Project := do
  nearestProject f (← Task.ask f.folders)

def warnOfDriver (p : Project) : Task m Unit :=
  match driverWarning? p.settings.driver with
  | some text => Task.print (.warning text)
  | none => pure ()

def schemaFiles (f : Files m) (p : Project) : Task m (List String) := do
  let named ← expand f p.schema
  let found ← match p.schemaFolder with
    | some folder =>
      Task.ofExcept (fun e => .pattern e.1 e.2) (← Task.ask (f.matching (folder ++ "/**/*.sql")))
    | none => pure []
  return named ++ found

def loadSnapshot (f : Files m) (path : String) : Task m Catalog := do
  match (Json.parse? (← readFile f path)).bind Catalog.ofJson? with
  | some c => return c
  | none => throw .snapshot

def loadScript (f : Files m) (l : Loader) (path : String) : Task m Loader := do
  let text ← readFile f path
  Task.ofExcept (fun e => .script path (.script e)) (l.load text)

def loadScripts (f : Files m) (p : Project) (paths : List String) : Task m Catalog := do
  let l ← paths.foldlM (loadScript f) (.start p.settings.dialect)
  l.warnings.forM fun w => Task.print (.warning ("schema definition skipped " ++ w.message))
  return l.catalog

def loadCatalog (f : Files m) (p : Project) : Task m (Option Catalog) := do
  let paths ← schemaFiles f p
  match p.catalog with
  | some path =>
    if paths.isEmpty then return some (← loadSnapshot f path) else throw .twoSources
  | none =>
    if paths.isEmpty then return none else return some (← loadScripts f p paths)

def checkFile (f : Files m) (p : Project) (c : Option Catalog) (path : String) :
    Task m (List Finding) := do
  let text ← readFile f path
  let findings := p.findings c text
  if !findings.isEmpty then
    Task.print (Report.print (p.format.getD .human) path text findings)
  return findings

def runCheck (f : Files m) (quiet : Bool) (o : CheckOptions) : Task m Nat := do
  let base ← match o.config with
    | some path => readProject f path
    | none => findProject f
  let p := base.withOptions o
  warnOfDriver p
  if let some code := p.unknownCode? then throw (.unknownCode code)
  let paths ← expand f p.files
  if paths.isEmpty then throw .noFiles
  let c ← loadCatalog f p
  let findings ← paths.flatMapM (checkFile f p c)
  if !quiet then
    Task.print (.message (Report.summary (Finding.count .error findings)
      (Finding.count .warning findings) paths.length))
  return Report.exitCode findings

def runSchema (f : Files m) (source : CatalogOptions) (json : Bool) : Task m Nat := do
  let p := (← findProject f).withSource source
  warnOfDriver p
  match ← loadCatalog f p with
  | none => throw .noSchema
  | some c =>
    Task.print (.output (if json then c.toJson.pretty ++ "\n" else Listing.catalog c))
    return 0

def statementLines (statements : List Statement) : String :=
  String.join (statements.zipIdx.map fun s => "Statement " ++ toString (s.2 + 1) ++ ":\n" ++
    s.1.kind ++ "\n\n")

def runParse (f : Files m) (path : String) : Task m Nat := do
  match Sql.parse .generic (← readFile f path) with
  | .ok statements =>
    Task.print (.output (statementLines statements))
    return 0
  | .error e =>
    Task.print (.message ("Parse error: " ++ e.message ++ "\n"))
    return 1

def runInvocation (f : Files m) (i : Invocation) : Task m Nat :=
  match i.command with
  | .check options => runCheck f i.quiet options
  | .schema source json => runSchema f source json
  | .parse file => runParse f file

def run (f : Files m) (args : List String) : m Outcome :=
  match Arguments.read args with
  | .run i => (runInvocation f i).outcome
  | .page text => return ⟨[.output text], .exit 0⟩
  | .misuse => return ⟨[], .misuse⟩

end Command

end SqlAudit
