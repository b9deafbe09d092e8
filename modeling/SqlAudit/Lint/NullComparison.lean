import SqlAudit.Sql.Token
import SqlAudit.Finding

/-!
Comparisons with NULL by `=` or `<>`, reported at the operator. The assignments of a SET list are
no comparisons.
-/

namespace SqlAudit.Lint

open Sql

def nullComparisonMessage : String :=
  "Comparing with NULL using '=' or '!=', use 'IS NULL' or 'IS NOT NULL'"

def setClosers : List String := ["WHERE", "FROM", "RETURNING"]

def isNull (t : Option Token) : Bool := t.any (·.isKeyword "NULL")

def isComparison : Token → Bool
  | .equal | .notEqual => true
  | _ => false

def setOpenAfter (inSet : Bool) (t : Token) : Bool :=
  if t.isKeyword "SET" then true
  else if t.isAnyKeyword setClosers || t == .semicolon then false
  else inSet

/-- The operators of NULL comparisons among significant lexemes; `before` is the token in front of
them. -/
def nullComparisonRanges (inSet : Bool) (before : Option Token) : List Lexeme → List Range
  | [] => []
  | l :: rest =>
    let after := (rest.head?).map (·.token)
    let here :=
      if isComparison l.token && !inSet && (isNull before || isNull after) then [l.range] else []
    here ++ nullComparisonRanges (setOpenAfter inSet l.token) (some l.token) rest

def nullComparisons (slice : List Lexeme) : List Finding :=
  (nullComparisonRanges false none (significant slice)).map fun r =>
    .warning .nullComparison r nullComparisonMessage

end SqlAudit.Lint
