import SqlAudit.Sql.Token
import SqlAudit.Finding

/-!
Statements that do not end with a semicolon, reported just after their last significant token.
-/

namespace SqlAudit.Lint

open Sql

def missingSemicolon (severity : Severity) (slice : List Lexeme) : List Finding :=
  match (significant slice).getLast? with
  | some l =>
    if l.token = .semicolon then []
    else [.of .missingSemicolon severity (.point l.range.stop)
      "Missing semicolon at end of statement"]
  | none => []

end SqlAudit.Lint
