import SqlAudit.Lint.Slices
import SqlAudit.Finding

/-!
Joins written as a list: the last comma of a FROM list. A comma within parentheses belongs to the
list of its own depth.
-/

namespace SqlAudit.Lint

open Sql

def fromClosers : List String :=
  ["JOIN", "WHERE", "ON", "GROUP", "ORDER", "HAVING", "LIMIT", "UNION", "INTERSECT", "EXCEPT"]

/-- The depths at which a FROM list is open after a token, the innermost one first. -/
def fromsAfter (depth : Nat) (froms : List Nat) (t : Token) : List Nat :=
  match t with
  | .rightParen => froms.filter (· < depth)
  | .semicolon => []
  | _ =>
    if t.isKeyword "FROM" then if froms.head? = some depth then froms else depth :: froms
    else if t.isAnyKeyword fromClosers && froms.head? = some depth then froms.tail
    else froms

/-- The last comma of a FROM list among lexemes, `last` being the one found before. -/
def lastFromComma (depth : Nat) (froms : List Nat) (last : Option Range) :
    List Lexeme → Option Range
  | [] => last
  | l :: rest =>
    let last := if l.token = .comma && froms.head? = some depth then some l.range else last
    lastFromComma (depthAfter depth l.token) (fromsAfter depth froms l.token) last rest

def implicitJoin? (slice : List Lexeme) : Option Range := lastFromComma 0 [] none slice

def implicitJoins (slice : List Lexeme) : List Finding :=
  match implicitJoin? slice with
  | some r => [.warning .implicitJoin r
      "Implicit join detected, consider using explicit JOIN syntax"]
  | none => []

end SqlAudit.Lint
