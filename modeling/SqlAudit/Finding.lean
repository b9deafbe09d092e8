import SqlAudit.Position

/-!
Findings: what an audit reports. Each one names the rule it comes from, its severity, the place it
is about and a message, and may carry a help text.
-/

namespace SqlAudit

inductive Severity
  | error
  | warning
  | info
  | hint
  deriving DecidableEq, Repr, Inhabited

namespace Severity

def label : Severity → String
  | error => "error"
  | warning => "warning"
  | info => "info"
  | hint => "hint"

def all : List Severity := [error, warning, info, hint]

def rank : Severity → Nat
  | error => 1
  | warning => 2
  | info => 3
  | hint => 4

end Severity

inductive Rule
  | syntaxError
  | invalidSchema
  | tableNotFound
  | columnNotFound
  | ambiguousColumn
  | implicitJoin
  | unusedAlias
  | selectStar
  | nullComparison
  | reservedWordCase
  | missingSemicolon
  deriving DecidableEq, Repr, Inhabited

namespace Rule

def code : Rule → String
  | syntaxError => "syntax-error"
  | invalidSchema => "invalid-schema"
  | tableNotFound => "table-not-found"
  | columnNotFound => "column-not-found"
  | ambiguousColumn => "ambiguous-column"
  | implicitJoin => "implicit-join"
  | unusedAlias => "unused-alias"
  | selectStar => "select-star"
  | nullComparison => "null-comparison"
  | reservedWordCase => "reserved-word-case"
  | missingSemicolon => "missing-semicolon"

def all : List Rule :=
  [syntaxError, invalidSchema, tableNotFound, columnNotFound, ambiguousColumn, implicitJoin,
   unusedAlias, selectStar, nullComparison, reservedWordCase, missingSemicolon]

def ofCode? (code : String) : Option Rule := all.find? (·.code == code)

end Rule

structure Finding where
  range : Range
  severity : Severity
  rule : Rule
  source : String
  message : String
  help : Option String
  deriving DecidableEq, Repr, Inhabited

namespace Finding

def auditSource : String := "sqllint"

def of (rule : Rule) (severity : Severity) (range : Range) (message : String) : Finding :=
  ⟨range, severity, rule, auditSource, message, none⟩

def error (rule : Rule) (range : Range) (message : String) : Finding :=
  of rule .error range message

def warning (rule : Rule) (range : Range) (message : String) : Finding :=
  of rule .warning range message

def withHelp (f : Finding) (help : String) : Finding := { f with help := some help }

def isError (f : Finding) : Bool := f.severity == .error

/-- The first `max` findings, all of them when `max` is zero. -/
def limit (max : Nat) (findings : List Finding) : List Finding :=
  if max = 0 then findings else findings.take max

@[simp] theorem limit_zero (findings : List Finding) : limit 0 findings = findings := rfl

end Finding

end SqlAudit
