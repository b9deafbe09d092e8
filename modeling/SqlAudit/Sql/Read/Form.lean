import SqlAudit.Sql.Render

/-!
Building expressions from the parts of their text. Operands are numbered in the order in which the
parts name them; where an expression visits its operands in another order than it prints them, its
segments are given in the order of the visits and printed in another one.
-/

namespace SqlAudit.Sql

inductive Part
  | text (s : String)
  | expr (e : Expr)

namespace Part

/-- The pieces and operands of parts, operands being numbered from `first`. -/
def assemble (first : Nat) : List Part → List Piece × List Expr
  | [] => ([], [])
  | text s :: parts =>
    let r := assemble first parts
    (.text s :: r.1, r.2)
  | expr e :: parts =>
    let r := assemble (first + 1) parts
    (.operand first :: r.1, e :: r.2)

def assembleAll (first : Nat) : List (List Part) → List (List Piece) × List Expr
  | [] => ([], [])
  | segment :: segments =>
    let r := assemble first segment
    let rs := assembleAll (first + r.2.length) segments
    (r.1 :: rs.1, r.2 ++ rs.2)

def operands (parts : List Part) : List Expr :=
  parts.filterMap fun
    | expr e => some e
    | text _ => none

def separated (separator : String) : List (List Part) → List Part
  | [] => []
  | [parts] => parts
  | parts :: rest => parts ++ text separator :: separated separator rest

def list (es : List Expr) : List Part := separated ", " (es.map ([expr ·]))

end Part

namespace Expr

def ofParts (parts : List Part) : Expr :=
  let r := Part.assemble 0 parts
  .operation r.1 r.2

/-- An expression of segments in the order of the visits, printed in the order `printed`. -/
def ofSegments (segments : List (List Part)) (printed : List Nat) : Expr :=
  let r := Part.assembleAll 0 segments
  .operation (printed.flatMap fun i => (r.1[i]?).getD []) r.2

def ofQuery (parts : List Part) (opening text closing : String) (q : Query) : Expr :=
  let r := Part.assemble 0 (parts ++ [.text (opening ++ text ++ closing)])
  .subquery r.1 r.2 q

def binary (left : Expr) (op : String) (right : Expr) : Expr :=
  ofParts [.expr left, .text (" " ++ op ++ " "), .expr right]

def prefixed (text : String) (e : Expr) : Expr := ofParts [.text text, .expr e]

def suffixed (e : Expr) (text : String) : Expr := ofParts [.expr e, .text text]

end Expr

end SqlAudit.Sql
