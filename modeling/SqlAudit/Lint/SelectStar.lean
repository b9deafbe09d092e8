import SqlAudit.Lint.Slices
import SqlAudit.Finding

/-!
The star as an item of a SELECT list, reported once for each SELECT. A star that counts rows, that
multiplies or that follows a qualifier is none.
-/

namespace SqlAudit.Lint

open Sql

def selectStarMessage : String := "Use of SELECT * is discouraged, specify columns explicitly"

structure OpenSelect where
  depth : Nat
  inItems : Bool
  reported : Bool
  deriving DecidableEq, Repr

def startsItem : Option Token → Bool
  | some t => t == .comma || t.isAnyKeyword ["SELECT", "DISTINCT", "ALL"]
  | none => false

/-- The SELECTs left open by a parenthesis or a SELECT at a depth. -/
def closeAt (depth : Nat) (selects : List OpenSelect) : List OpenSelect :=
  selects.filter (·.depth < depth)

/-- The open SELECTs after a token, the innermost one first, and whether the token is a star to
report. -/
def selectsAfter (depth : Nat) (selects : List OpenSelect) (before : Option Token) (t : Token) :
    List OpenSelect × Bool :=
  if t = .rightParen then (closeAt depth selects, false)
  else if t.isKeyword "SELECT" then (⟨depth, true, false⟩ :: closeAt depth selects, false)
  else
    match selects with
    | [] => ([], false)
    | s :: outer =>
      if s.depth ≠ depth then (selects, false)
      else if t.isKeyword "FROM" then ({ s with inItems := false } :: outer, false)
      else if t = .star && s.inItems && !s.reported && startsItem before then
        ({ s with reported := true } :: outer, true)
      else (selects, false)

def selectStarRanges (depth : Nat) (selects : List OpenSelect) (before : Option Token) :
    List Lexeme → List Range
  | [] => []
  | l :: rest =>
    let r := selectsAfter depth selects before l.token
    let here := if r.2 then [l.range] else []
    here ++ selectStarRanges (depthAfter depth l.token) r.1 (some l.token) rest

def selectStars (slice : List Lexeme) : List Finding :=
  (selectStarRanges 0 [] none (significant slice)).map fun r =>
    .warning .selectStar r selectStarMessage

end SqlAudit.Lint
