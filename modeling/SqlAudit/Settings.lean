import SqlAudit.Dialect
import SqlAudit.Finding

/-!
The settings of an audit: which rules run, how severe the optional ones are, and how many findings
are kept.
-/

namespace SqlAudit

open Text

inductive RuleSeverity
  | on (severity : Severity)
  | off
  deriving DecidableEq, Repr, Inhabited

namespace RuleSeverity

def label : RuleSeverity → String
  | on s => s.label
  | off => "off"

def all : List RuleSeverity := Severity.all.map on ++ [off]

def severity? : RuleSeverity → Option Severity
  | on s => some s
  | off => none

def isEnabled (s : RuleSeverity) : Bool := s != off

def ofName? (name : String) : Option RuleSeverity := all.find? (·.label == lower name)

def unknownMessage (name : String) : String :=
  "unknown rule severity '" ++ name ++ "' (expected error, warning, info, hint or off)"

end RuleSeverity

inductive KeywordCase
  | upper
  | lower
  deriving DecidableEq, Repr, Inhabited

namespace KeywordCase

def name : KeywordCase → String
  | upper => "upper"
  | lower => "lower"

def all : List KeywordCase := [upper, lower]

def label : KeywordCase → String
  | upper => "uppercase"
  | lower => "lowercase"

def apply : KeywordCase → String → String
  | upper, word => Text.upper word
  | lower, word => Text.lower word

def ofName? (text : String) : Option KeywordCase := all.find? (·.name == Text.lower text)

def unknownMessage (text : String) : String :=
  "unknown keyword case '" ++ text ++ "' (expected upper or lower)"

end KeywordCase

structure Settings where
  enabled : Bool := true
  checkSyntax : Bool := true
  checkTableReferences : Bool := true
  checkColumnReferences : Bool := true
  checkSchemaReferences : Bool := true
  warnOnSelectStar : Bool := true
  warnOnNullComparison : Bool := true
  warnOnUnusedAlias : Bool := false
  warnOnImplicitJoin : Bool := true
  warnOnAmbiguousColumn : Bool := true
  checkReservedWordCase : RuleSeverity := .off
  preferredKeywordCase : KeywordCase := .upper
  checkMissingSemicolon : RuleSeverity := .off
  /-- The number of findings kept; zero keeps all. -/
  maxDiagnostics : Nat := 100
  driver : String := ""
  deriving DecidableEq, Repr, Inhabited

namespace Settings

def dialect (s : Settings) : Dialect := .ofDriver s.driver

def semanticOnly : Settings :=
  { warnOnSelectStar := false
    warnOnNullComparison := false
    warnOnUnusedAlias := false
    warnOnImplicitJoin := false }

end Settings

end SqlAudit
