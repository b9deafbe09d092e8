import SqlAudit.Report.Json

/-!
The help pages. A page in few words has an option on a line; the page in many words of a command
whose options have named values explains those values too.
-/

namespace SqlAudit

inductive HelpPage
  | program
  | check
  | schema
  | parse
  | help
  deriving DecidableEq, Repr

namespace HelpPage

def lines (ls : List String) : String := String.join (ls.map (· ++ "\n"))

def commandLines : List String :=
  ["Commands:",
   "  check   Lint SQL files, optionally against a schema catalog",
   "  schema  Display the catalog built from schema files or a snapshot",
   "  parse   Parse SQL and display AST (for debugging)",
   "  help    Print this message or the help of the given subcommand(s)"]

def programText : String := lines <|
  ["Schema-aware SQL linter",
   "",
   "Usage: sqllint [OPTIONS] <COMMAND>",
   ""] ++ commandLines ++
  ["",
   "Options:",
   "  -v, --verbose...  Enable verbose output (-v debug, -vv trace)",
   "  -q, --quiet       Suppress the summary line",
   "  -h, --help        Print help",
   "  -V, --version     Print version"]

def helpText : String := lines <|
  ["Print this message or the help of the given subcommand(s)",
   "",
   "Usage: sqllint help [COMMAND]",
   ""] ++ commandLines

def checkText : String := lines
  ["Lint SQL files, optionally against a schema catalog",
   "",
   "Usage: sqllint check [OPTIONS] [FILES]...",
   "",
   "Arguments:",
   "  [FILES]...  SQL files to check (supports glob patterns)",
   "",
   "Options:",
   "  -s, --schema <FILE>        Schema definition (DDL) files",
   "      --schema-dir <DIR>     Directory searched recursively for \x60*.sql\x60 schema files",
   "      --catalog <FILE>       JSON catalog snapshot",
   "  -d, --driver <DRIVER>      Database driver, e.g. postgresql, mysql8, mariadb",
   "  -c, --config <FILE>        Configuration file (defaults to the nearest sqllint.toml)",
   "  -f, --format <FORMAT>      Output format [possible values: human, json, sarif]",
   "      --max-diagnostics <N>  Maximum number of diagnostics per file (0 = unlimited)",
   "      --disable <CODE>       Diagnostic codes to suppress, e.g. select-star",
   "  -v, --verbose...           Enable verbose output (-v debug, -vv trace)",
   "  -q, --quiet                Suppress the summary line",
   "  -h, --help                 Print help (see more with '--help')",
   "  -V, --version              Print version"]

def longCheckText : String := lines
  ["Lint SQL files, optionally against a schema catalog",
   "",
   "Usage: sqllint check [OPTIONS] [FILES]...",
   "",
   "Arguments:",
   "  [FILES]...",
   "          SQL files to check (supports glob patterns)",
   "",
   "Options:",
   "  -s, --schema <FILE>",
   "          Schema definition (DDL) files",
   "",
   "      --schema-dir <DIR>",
   "          Directory searched recursively for \x60*.sql\x60 schema files",
   "",
   "      --catalog <FILE>",
   "          JSON catalog snapshot",
   "",
   "  -d, --driver <DRIVER>",
   "          Database driver, e.g. postgresql, mysql8, mariadb",
   "",
   "  -c, --config <FILE>",
   "          Configuration file (defaults to the nearest sqllint.toml)",
   "",
   "  -f, --format <FORMAT>",
   "          Output format",
   "",
   "          Possible values:",
   "          - human: Human-readable output with colors",
   "          - json:  JSON output",
   "          - sarif: SARIF output (for GitHub Code Scanning)",
   "",
   "      --max-diagnostics <N>",
   "          Maximum number of diagnostics per file (0 = unlimited)",
   "",
   "      --disable <CODE>",
   "          Diagnostic codes to suppress, e.g. select-star",
   "",
   "  -v, --verbose...",
   "          Enable verbose output (-v debug, -vv trace)",
   "",
   "  -q, --quiet",
   "          Suppress the summary line",
   "",
   "  -h, --help",
   "          Print help (see a summary with '-h')",
   "",
   "  -V, --version",
   "          Print version"]

def schemaText : String := lines
  ["Display the catalog built from schema files or a snapshot",
   "",
   "Usage: sqllint schema [OPTIONS]",
   "",
   "Options:",
   "  -s, --schema <FILE>     Schema definition (DDL) files",
   "      --schema-dir <DIR>  Directory searched recursively for \x60*.sql\x60 schema files",
   "      --catalog <FILE>    JSON catalog snapshot",
   "  -d, --driver <DRIVER>   Database driver, e.g. postgresql, mysql8, mariadb",
   "      --json              Print the catalog as a JSON snapshot instead of a listing",
   "  -v, --verbose...        Enable verbose output (-v debug, -vv trace)",
   "  -q, --quiet             Suppress the summary line",
   "  -h, --help              Print help",
   "  -V, --version           Print version"]

def parseText : String := lines
  ["Parse SQL and display AST (for debugging)",
   "",
   "Usage: sqllint parse [OPTIONS] <FILE>",
   "",
   "Arguments:",
   "  <FILE>  SQL file to parse",
   "",
   "Options:",
   "  -v, --verbose...  Enable verbose output (-v debug, -vv trace)",
   "  -q, --quiet       Suppress the summary line",
   "  -h, --help        Print help",
   "  -V, --version     Print version"]

def text (page : HelpPage) (long : Bool) : String :=
  match page with
  | program => programText
  | check => if long then longCheckText else checkText
  | schema => schemaText
  | parse => parseText
  | help => helpText

def programName : HelpPage → String
  | program => "sqllint"
  | check => "sqllint-check"
  | schema => "sqllint-schema"
  | parse => "sqllint-parse"
  | help => "sqllint-help"

def versionText (page : HelpPage) : String := page.programName ++ " " ++ Report.version ++ "\n"

def ofCommand? (name : String) : Option HelpPage :=
  match name with
  | "check" => some check
  | "schema" => some schema
  | "parse" => some parse
  | "help" => some help
  | _ => none

end HelpPage

end SqlAudit
