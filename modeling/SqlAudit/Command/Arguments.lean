import SqlAudit.Command.Help
import SqlAudit.Command.Options
import SqlAudit.Command.Project

/-!
The commands and their arguments. Some options may stand before the command as well as after it.
-/

namespace SqlAudit

inductive Command
  | check (options : CheckOptions)
  | schema (source : CatalogOptions) (json : Bool)
  | parse (file : String)
  deriving DecidableEq, Repr

structure Invocation where
  command : Command
  quiet : Bool
  deriving DecidableEq, Repr

inductive Wanted
  | run (invocation : Invocation)
  | page (text : String)
  | misuse
  deriving DecidableEq, Repr

namespace Arguments

def isFilled (value : String) : Bool := !value.isEmpty

/-- A whole number of 64 bits; a plus sign may stand before it. -/
def count? (value : String) : Option Nat :=
  let digits := match value.toList with
    | '+' :: digits => digits
    | digits => digits
  let n := digits.foldl (fun n c => n * 10 + (c.toNat - '0'.toNat)) 0
  if !digits.isEmpty && digits.all Char.isDigit && n < UInt64.size then some n else none

def format? (value : String) : Option ReportFormat := ReportFormat.all.find? (·.name == value)

def commonSpecs : List OptionSpec :=
  [{ name := "verbose", short := some 'v', usage := .counted },
   { name := "quiet", short := some 'q', usage := .switch }]

def catalogSpecs : List OptionSpec :=
  [{ name := "schema", short := some 's', usage := .repeated, accepts := isFilled },
   { name := "schema-dir", short := none, usage := .single, accepts := isFilled },
   { name := "catalog", short := none, usage := .single, accepts := isFilled },
   { name := "driver", short := some 'd', usage := .single }] ++ commonSpecs

def checkSpecs : List OptionSpec :=
  [{ name := "config", short := some 'c', usage := .single, accepts := isFilled },
   { name := "format", short := some 'f', usage := .single, accepts := (format? · |>.isSome) },
   { name := "max-diagnostics", short := none, usage := .single,
     accepts := (count? · |>.isSome) },
   { name := "disable", short := none, usage := .repeated }] ++ catalogSpecs

def schemaSpecs : List OptionSpec :=
  { name := "json", short := none, usage := .switch } :: catalogSpecs

def commaParts (value : String) : List String := value.splitOn ","

def catalogOptions (g : Given) : CatalogOptions where
  schema := g.values "schema"
  schemaFolder := g.value? "schema-dir"
  catalog := g.value? "catalog"
  driver := g.value? "driver"

def checkOptions (g : Given) : CheckOptions where
  files := g.operands
  source := catalogOptions g
  config := g.value? "config"
  format := (g.value? "format").bind format?
  maxDiagnostics := (g.value? "max-diagnostics").bind count?
  disable := (g.values "disable").flatMap commaParts

def command? (page : HelpPage) (g : Given) : Option Command :=
  if !g.operands.all isFilled then none
  else
    match page, g.operands with
    | .check, _ => some (.check (checkOptions g))
    | .schema, [] => some (.schema (catalogOptions g) (g.has "json"))
    | .parse, [file] => some (.parse file)
    | _, _ => none

def specs : HelpPage → List OptionSpec
  | .check => checkSpecs
  | .schema => schemaSpecs
  | _ => commonSpecs

def stopped (page : HelpPage) : Request → Wanted
  | .help long => .page (page.text long)
  | .version => .page page.versionText
  | .misuse => .misuse

def helpPage? : List String → Option HelpPage
  | [] => some .program
  | [name] => HelpPage.ofCommand? name
  | _ => none

def readCommand (quiet : Bool) (name : String) (args : List String) : Wanted :=
  match HelpPage.ofCommand? name with
  | none => .misuse
  | some .help =>
    match helpPage? args with
    | some page => .page (page.text true)
    | none => .misuse
  | some page =>
    match Options.read (specs page) false none args {} with
    | .error request => stopped page request
    | .ok (given, _) =>
      match command? page given with
      | some command => .run ⟨command, quiet || given.has "quiet"⟩
      | none => .misuse

def read (args : List String) : Wanted :=
  match Options.read commonSpecs true none args {} with
  | .error request => stopped .program request
  | .ok (_, []) => .misuse
  | .ok (given, name :: rest) => readCommand (given.has "quiet") name rest

end Arguments

end SqlAudit
