import SqlAudit.Lint.Words
import SqlAudit.Sql.Token
import SqlAudit.Settings

/-!
Reserved words that are not written in the preferred letter case. Quoted words are names.
-/

namespace SqlAudit.Lint

open Sql

def wordCase? (wanted : KeywordCase) (severity : Severity) (l : Lexeme) : Option Finding :=
  match l.token with
  | .word w =>
    if w.quote.isNone && isReservedWord w.value && w.value != wanted.apply w.value then
      some (.of .reservedWordCase severity l.range
        ("Reserved word '" ++ w.value ++ "' should be " ++ wanted.label))
    else none
  | _ => none

def wordCases (wanted : KeywordCase) (severity : Severity) (slice : List Lexeme) : List Finding :=
  slice.filterMap (wordCase? wanted severity)

end SqlAudit.Lint
