import SqlAudit.Lint.ImplicitJoin
import SqlAudit.Lint.NullComparison
import SqlAudit.Lint.SelectStar
import SqlAudit.Lint.Semicolon
import SqlAudit.Lint.WordCase
import SqlAudit.Names.Columns
import SqlAudit.Names.UnusedAlias
import SqlAudit.Settings
import SqlAudit.Sql.Read.Script

/-!
The audit of a document: the findings of every rule that is switched on, rule by rule, within a rule
statement by statement. A document that cannot be read has a single finding. Rules on tables and
columns need a provider.
-/

namespace SqlAudit

open Sql

namespace Audit

structure Document where
  lexemes : List Lexeme
  statements : List Statement

namespace Document

/-- Reads a document. Statements of every dialect are read alike. -/
def ofText (text : String) : Except ReadError Document :=
  (parse .generic text).map fun statements =>
    match scan .generic text with
    | .ok lexemes => ⟨lexemes, statements⟩
    | .error _ => ⟨[], statements⟩

def slices (d : Document) : List (List Lexeme) := Lint.statementSlices d.lexemes

def named (d : Document) : List (Statement × Names.Symbols) :=
  d.statements.map fun s => (s, .collect s)

end Document

def rule (on : Bool) (findings : List Finding) : List Finding := if on then findings else []

def gradedRule (severity : RuleSeverity) (findings : Severity → List Finding) : List Finding :=
  match severity.severity? with
  | some s => findings s
  | none => []

def catalogFindings (p : Provider) (s : Settings) (d : Document) : List Finding :=
  rule s.checkTableReferences
    (d.named.flatMap fun n => Names.tableFindings p s.checkSchemaReferences n.2) ++
  rule s.checkColumnReferences
    (d.named.flatMap fun n =>
      Names.columnFindings p s.dialect s.warnOnAmbiguousColumn n.2 n.1)

def documentFindings (p : Option Provider) (s : Settings) (d : Document) : List Finding :=
  rule (s.checkSyntax && s.warnOnNullComparison) (d.slices.flatMap Lint.nullComparisons) ++
  gradedRule s.checkReservedWordCase
    (fun severity => d.slices.flatMap (Lint.wordCases s.preferredKeywordCase severity)) ++
  gradedRule s.checkMissingSemicolon
    (fun severity => d.slices.flatMap (Lint.missingSemicolon severity)) ++
  (match p with
    | some p => catalogFindings p s d
    | none => []) ++
  rule s.warnOnSelectStar (d.slices.flatMap Lint.selectStars) ++
  rule s.warnOnUnusedAlias (d.named.flatMap fun n => Names.unusedAliases n.2 n.1) ++
  rule s.warnOnImplicitJoin (d.slices.flatMap Lint.implicitJoins)

def unreadable (e : ReadError) : Finding :=
  .error .syntaxError (.point .origin) ("Failed to parse SQL: " ++ e.message)

end Audit

def audit (p : Option Provider) (s : Settings) (text : String) : List Finding :=
  if s.enabled then
    Finding.limit s.maxDiagnostics <|
      match Audit.Document.ofText text with
      | .ok d => Audit.documentFindings p s d
      | .error e => [Audit.unreadable e]
  else []

end SqlAudit
