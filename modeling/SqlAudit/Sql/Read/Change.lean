import SqlAudit.Sql.Read.Select

/-!
Reading the statements that change rows: INSERT, UPDATE, DELETE and MERGE, after their first word.
-/

namespace SqlAudit.Sql

open Reader

/-! ### Parts in common -/

def assignment (n : Nested) : Reader (List Path × Expr) := do
  let names ←
    if ← take .leftParen then do
      let names ← commaList path
      close
      pure names
    else pure [← path]
  expectToken .equal
  return (names, ← anyExpr n)

def assignments (n : Nested) : Reader (List (List Path × Expr)) := commaList (assignment n)

def conflictClause : Reader Unit := do
  let ways := ["REPLACE", "ROLLBACK", "ABORT", "FAIL", "IGNORE"]
  if (← keywordAhead "OR") && (← peekTokenAt 1).any (·.isAnyKeyword ways) then
    let _ ← next
    let _ ← next
  else
    let _ ← keyword "REPLACE"

def rowLimit (n : Nested) : Reader (Option Expr) := do
  if ← keyword "ALL" then return none else return some (← anyExpr n)

/-- Names between parentheses, which may be left out and in MySQL be empty. -/
def targetColumns : Reader (List Ident) := do
  if (← isDialect [.mysql]) && (← tokenAhead .leftParen) &&
      (← peekTokenAt 1) == some .rightParen then
    parenthesized (return [])
  else optionalColumnNames

/-! ### INSERT -/

def onConflict (n : Nested) : Reader (List Expr) := do
  if ← keyword "CONFLICT" then
    if ← keywords ["ON", "CONSTRAINT"] then
      let _ ← path
    else
      let _ ← optionalColumnNames
    expectKeyword "DO"
    if ← keyword "NOTHING" then return []
    else
      expectKeywords ["UPDATE", "SET"]
      let values ← assignments n
      let filter ← afterKeyword "WHERE" (anyExpr n)
      return values.map (·.2) ++ filter.toList
  else
    expectKeywords ["DUPLICATE", "KEY", "UPDATE"]
    return (← assignments n).map (·.2)

def fileFormat : Reader Unit := do
  let formats :=
    ["AVRO", "JSONFILE", "ORC", "PARQUET", "RCFILE", "SEQUENCEFILE", "TEXTFILE"]
  match ← oneOf formats with
  | some _ => return ()
  | none => expected "fileformat"

def insertDirectory (n : Nested) : Reader Statement := do
  let _ ← literalString
  if ← keywords ["STORED", "AS"] then fileFormat
  return .other [] [] (some (← n.query))

def insert (n : Nested) : Reader Statement := do
  conflictClause
  if ← isDialect [.mysql, .generic] then
    let _ ← oneOf ["LOW_PRIORITY", "DELAYED", "HIGH_PRIORITY"]
    let _ ← keyword "IGNORE"
  let _ ← keyword "OVERWRITE"
  let _ ← keyword "INTO"
  let _ ← keyword "LOCAL"
  if ← keyword "DIRECTORY" then insertDirectory n
  else
    let _ ← keyword "TABLE"
    let target ← path
    let named ←
      if ← isDialect [.postgresql] then afterKeyword "AS" ident else pure none
    let (columns, partition, rows) ←
      if ← keywords ["DEFAULT", "VALUES"] then pure ([], [], none)
      else if (← tokenAhead .leftParen) && (← keywordAheadAt 1 "SELECT") then
        pure ([], [], some (← n.query))
      else do
        let columns ← targetColumns
        let partition ← afterKeyword "PARTITION" (parenthesized (exprList n))
        pure (columns, partition.getD [], some (← n.query))
    if ← keywordIn [.mysql, .generic] "AS" then
      let _ ← path
      let _ ← optionalColumnNames
    let conflict ← afterKeyword "ON" (onConflict n)
    let returned ← returning n
    return .insert target named columns rows (partition ++ conflict.getD [] ++ returned)

def replace (n : Nested) : Reader Statement := do
  if ← isDialect [.mysql, .generic] then insert n
  else fail (.textAt "Unsupported statement REPLACE" (← peek))

/-! ### UPDATE and DELETE -/

def update (n : Nested) : Reader Statement := do
  conflictClause
  let target ← tableSource n
  expectKeyword "SET"
  let values ← assignments n
  let sources ←
    if (← keyword "FROM") && (← isDialect [.generic, .postgresql]) then pure [← tableSource n]
    else pure []
  let filter ← afterKeyword "WHERE" (anyExpr n)
  let returned ← returning n
  return .update target (values.flatMap (·.1)) (values.map (·.2)) sources filter returned

def delete (n : Nested) : Reader Statement := do
  if !(← keyword "FROM") && !(← isGeneric) then
    let _ ← commaList path
    expectKeyword "FROM"
  let sources ← sourceList n
  let using_ ← listAfter ["USING"] (tableSource n)
  let filter ← afterKeyword "WHERE" (anyExpr n)
  let returned ← returning n
  let order ← afterKeywords ["ORDER", "BY"] (orderKeys n)
  let limit ← afterKeyword "LIMIT" (rowLimit n)
  return .delete sources using_ filter
    (returned ++ Part.operands (order.getD []) ++ (limit.bind id).toList)

/-! ### MERGE -/

inductive Match
  | matched
  | notMatched
  | notMatchedByTarget
  | notMatchedBySource
  deriving DecidableEq

namespace Match

def render : Match → String
  | matched => "MATCHED"
  | notMatched => "NOT MATCHED"
  | notMatchedByTarget => "NOT MATCHED BY TARGET"
  | notMatchedBySource => "NOT MATCHED BY SOURCE"

/-- Rows that are not in the target yet are inserted, the others are updated or deleted. -/
def isNew (m : Match) : Bool := m == notMatched || m == notMatchedByTarget

end Match

def mergeMatch : Reader Match := do
  let negated ← keyword "NOT"
  expectKeyword "MATCHED"
  if negated then
    if ← keywords ["BY", "SOURCE"] then return .notMatchedBySource
    else if ← keywords ["BY", "TARGET"] then return .notMatchedByTarget
    else return .notMatched
  else return .matched

def mergeAction (n : Nested) (m : Match) : Reader (List Expr) := do
  let refuse (action : String) : Reader (List Expr) :=
    fail (.text (action ++ " is not allowed in a " ++ m.render ++ " merge clause"))
  match ← oneOf ["UPDATE", "INSERT", "DELETE"] with
  | some "UPDATE" =>
    if m.isNew then refuse "UPDATE"
    else
      expectKeyword "SET"
      return (← assignments n).map (·.2)
  | some "DELETE" => if m.isNew then refuse "DELETE" else return []
  | some _ =>
    if !m.isNew then refuse "INSERT"
    else
      let _ ← targetColumns
      if ← genericKeyword "ROW" then return []
      else
        expectKeyword "VALUES"
        valueRows n (← isDialect [.mysql])
  | none => fail (.text "expected UPDATE, DELETE or INSERT in merge clause")

def mergeClause (n : Nested) : Reader (Option (List Expr)) := do
  match ← peekToken with
  | none | some .semicolon => return none
  | some _ =>
    expectKeyword "WHEN"
    let m ← mergeMatch
    let condition ← afterKeyword "AND" (anyExpr n)
    expectKeyword "THEN"
    return some (condition.toList ++ (← mergeAction n m))

def merge (n : Nested) : Reader Statement := do
  let _ ← keyword "INTO"
  let target ← tableFactor n
  expectKeyword "USING"
  let rows ← tableFactor n
  expectKeyword "ON"
  let condition ← anyExpr n
  let clauses ← manyAhead (mergeClause n)
  return .other [.mk target [], .mk rows []] (condition :: clauses.flatten) none

end SqlAudit.Sql
