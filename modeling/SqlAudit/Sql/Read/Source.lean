import SqlAudit.Sql.Read.Expr

/-!
Reading what a query draws its rows from: tables, functions, queries and joins between them.
-/

namespace SqlAudit.Sql

open Reader

def aliasColumn : Reader Ident := do
  let column ← ident
  let _ ← attempt typeName
  return column

def optionalTableAlias : Reader (Option TableAlias) := do
  match ← optionalAlias reservedForTableAlias with
  | none => return none
  | some name =>
    if ← take .leftParen then
      let columns ← commaList aliasColumn
      close
      return some ⟨name, columns⟩
    else return some ⟨name, []⟩

def callOperands (n : Nested) : Reader (List Expr) := do
  if ← take .rightParen then return []
  else
    let arguments ← commaList (argument n)
    close
    return Part.operands arguments.flatten

def settings : Reader Unit := do
  if ← genericKeyword "SETTINGS" then
    let _ ← commaList do
      let _ ← ident
      expectToken .equal
      value

def tableArguments (n : Nested) : Reader (List Expr) := do
  if ← take .rightParen then return []
  else
    let arguments ← repeatWhile (do
      if ← take .comma then return !(← keywordAhead "SETTINGS") else return false)
      (argument n) ((← ahead).length + 1)
    settings
    close
    return Part.operands arguments.flatten

def pivotCall (n : Nested) : Reader Expr := do
  let l ← next
  match l.map Lexeme.token with
  | some (.word w) =>
    let e ← call n (intervalExpr n) [⟨w.value, none, none⟩]
    let _ ← afterKeyword "AS" ident
    return e
  | _ => expected "a function identifier"

def aliasedExpr (n : Nested) : Reader Expr := do
  let e ← anyExpr n
  let _ ← afterKeyword "AS" ident
  return e

/-- The rest of PIVOT. A query among the values is an operand of its own. -/
def pivot (n : Nested) (base : Factor) : Reader Factor := do
  open_
  let calls ← commaList (pivotCall n)
  expectKeyword "FOR"
  let _ ← path
  expectKeyword "IN"
  open_
  let values ←
    if ← keyword "ANY" then
      return .pivot base (calls ++ Part.operands ((← afterKeywords ["ORDER", "BY"] (orderKeys n)).getD []))
    else if ← queryAhead then do
      let (q, text) ← queryWithText n
      pure [Expr.ofQuery [] "" text "" q]
    else commaList (aliasedExpr n)
  close
  let missing ← afterKeywords ["DEFAULT", "ON", "NULL"] (parenthesized (anyExpr n))
  close
  let _ ← optionalTableAlias
  return .pivot base (calls ++ values ++ missing.toList)

def unpivot (base : Factor) : Reader Factor := do
  open_
  let _ ← ident
  expectKeyword "FOR"
  let _ ← ident
  expectKeyword "IN"
  let _ ← columnNames
  close
  let _ ← optionalTableAlias
  return .pivot base []

def pivots (n : Nested) : Nat → Factor → Reader Factor
  | 0, base => return base
  | fuel + 1, base => do
    match ← oneOf ["PIVOT", "UNPIVOT"] with
    | some "PIVOT" => pivots n fuel (← pivot n base)
    | some _ => pivots n fuel (← unpivot base)
    | none => return base

def derivedTable (n : Nested) : Reader Factor := do
  let q ← n.query
  close
  return .derived q (← optionalTableAlias)

def documentColumns : Nat → Reader Unit
  | 0 => return ()
  | fuel + 1 => do
    let _ ← commaList do
      if ← keyword "NESTED" then
        let _ ← keyword "PATH"
        let _ ← value
        expectKeyword "COLUMNS"
        open_
        documentColumns fuel
        close
      else
        let _ ← ident
        if ← keyword "FOR" then expectKeyword "ORDINALITY"
        else
          let _ ← typeName
          let _ ← keyword "EXISTS"
          expectKeyword "PATH"
          let _ ← value
          reaction
          reaction
where
  reaction : Reader Unit := do
    let start ← ahead
    let known ←
      if ← keyword "NULL" then pure true
      else if ← keyword "ERROR" then pure true
      else if ← keyword "DEFAULT" then do
        let _ ← value
        pure true
      else pure false
    if known then
      expectKeyword "ON"
      let _ ← expectOneOf ["EMPTY", "ERROR"]
    else set start

def documentTable (n : Nested) : Reader Factor := do
  let document ← anyExpr n
  expectToken .comma
  let _ ← value
  expectKeyword "COLUMNS"
  open_
  documentColumns ((← ahead).length + 1)
  close
  close
  let _ ← optionalTableAlias
  return .document [document]

def valueRows (n : Nested) (allowEmpty : Bool) : Reader (List Expr) := do
  let rows ← commaList do
    let _ ← keyword "ROW"
    open_
    if ← pure allowEmpty <&&> take .rightParen then return []
    let es ← exprList n
    close
    return es
  return rows.flatten

def namedTable (n : Nested) : Reader Factor := do
  let name ← path
  if ← keywordIn [.mysql, .generic] "PARTITION" then
    let _ ← columnNames
  let called ← take .leftParen
  let arguments ← if called then tableArguments n else pure []
  let _ ← keywords ["WITH", "ORDINALITY"]
  let named ← optionalTableAlias
  let hints ←
    if (← keywordAhead "WITH") && (← peekTokenAt 1) == some .leftParen then do
      let _ ← next
      parenthesized (exprList n)
    else pure []
  let table := Factor.table name named called (arguments ++ hints)
  pivots n (← ahead).length table

def Factor.withAlias (f : Factor) (a : TableAlias) : Factor :=
  match f with
  | .table name _ called es => .table name (some a) called es
  | .derived q _ => .derived q (some a)
  | .nested s _ => .nested s (some a)
  | .function es _ => .function es (some a)
  | f => f

def TableAlias.render (a : TableAlias) : String :=
  a.name.render ++
    if a.columns.isEmpty then ""
    else " (" ++ ", ".intercalate (a.columns.map Ident.render) ++ ")"

/-- What follows the source within parentheses that are no derived table: a join keeps them, and
the generic dialect drops them around a lone table. -/
def closeSource (s : Source) : Reader Factor := do
  let isNested := match s.factor with
    | .nested .. => true
    | _ => false
  if !s.joins.isEmpty || isNested then
    close
    return .nested s (← optionalTableAlias)
  else if ← isGeneric then
    close
    match ← optionalTableAlias with
    | none => return s.factor
    | some outer =>
      match s.factor.alias? with
      | some inner => fail (.text ("duplicate alias " ++ inner.render))
      | none => return s.factor.withAlias outer
  else expected "joined table"

def joinCondition (n : Nested) : Reader (List Expr) := do
  if ← keyword "ON" then return [← anyExpr n]
  else if ← keyword "USING" then
    let _ ← columnNames
    return []
  else return []

def joinKind (natural : Bool) : Reader Bool := do
  match ← oneOf ["INNER", "JOIN", "LEFT", "RIGHT", "ANTI", "SEMI", "FULL"] with
  | some "JOIN" => return true
  | some "FULL" =>
    let _ ← keyword "OUTER"
    expectKeyword "JOIN"
    return true
  | some side =>
    if side == "LEFT" || side == "RIGHT" then
      match ← oneOf ["OUTER", "SEMI", "ANTI", "JOIN"] with
      | some "JOIN" => return true
      | some _ =>
        expectKeyword "JOIN"
        return true
      | none => fail (.text ("expected OUTER, SEMI, ANTI or JOIN after " ++ side))
    else
      expectKeyword "JOIN"
      return true
  | none =>
    if natural then expected "a join type after NATURAL" else return false

mutual

def source (n : Nested) : Nat → Reader Source
  | 0 => fail .tooDeep
  | fuel + 1 => do
    let first ← factor n fuel
    let joins ← manyAhead do
      let _ ← keyword "GLOBAL"
      if ← keyword "CROSS" then
        if ← anyOf ["JOIN", "APPLY"] then
          return some (Join.mk (← factor n fuel) [])
        else expected "JOIN or APPLY after CROSS"
      else if ← keyword "OUTER" then
        expectKeyword "APPLY"
        return some (Join.mk (← factor n fuel) [])
      else if ← keyword "ASOF" then
        expectKeyword "JOIN"
        let joined ← factor n fuel
        expectKeyword "MATCH_CONDITION"
        let condition ← parenthesized (anyExpr n)
        return some (Join.mk joined (condition :: (← joinCondition n)))
      else
        let natural ← keyword "NATURAL"
        if ← joinKind natural then
          let joined ← factor n fuel
          return some (Join.mk joined (← if natural then pure [] else joinCondition n))
        else return none
    return .mk first joins

def factor (n : Nested) : Nat → Reader Factor
  | 0 => fail .tooDeep
  | fuel + 1 => do
    if ← keyword "LATERAL" then
      if ← take .leftParen then derivedTable n
      else
        let _ ← path
        open_
        let arguments ← callOperands n
        return .function arguments (← optionalTableAlias)
    else if ← keyword "TABLE" then
      let e ← parenthesized (anyExpr n)
      return .function [e] (← optionalTableAlias)
    else if ← take .leftParen then
      match ← attempt (derivedTable n) with
      | some table => pivots n (← ahead).length table
      | none => closeSource (← source n fuel)
    else if (← isGeneric) && (← keywordAhead "VALUES") && (← peekTokenAt 1) == some .leftParen then
      let _ ← next
      let rows ← valueRows n false
      return .derived (.mk [] (.rows rows) []) (← optionalTableAlias)
    else if ← keywordIn [.postgresql, .generic] "UNNEST" then
      let arrays ← parenthesized (exprList n)
      let _ ← keywords ["WITH", "ORDINALITY"]
      let named ← optionalTableAlias
      if ← keywords ["WITH", "OFFSET"] then
        let _ ← optionalAlias reservedForColumnAlias
      return .function arrays named
    else if (← keywordAhead "JSON_TABLE") && (← peekTokenAt 1) == some .leftParen then
      let _ ← next
      let _ ← next
      documentTable n
    else namedTable n

end

def tableSource (n : Nested) : Reader Source := do source n (2 * (← ahead).length + 2)

def tableFactor (n : Nested) : Reader Factor := do factor n (2 * (← ahead).length + 2)

def sourceList (n : Nested) : Reader (List Source) := commaList (tableSource n)

end SqlAudit.Sql
