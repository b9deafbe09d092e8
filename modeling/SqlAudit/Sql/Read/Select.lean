import SqlAudit.Sql.Read.Source

/-!
Reading a SELECT: its items, its sources, and the clauses that filter, group and order its rows.
-/

namespace SqlAudit.Sql

open Reader

/-! ### Items -/

def renames : Reader Unit := do
  let _ ← ident
  let _ ← keyword "AS"
  let _ ← ident

/-- What a star leaves out, replaces and renames; the replacements are expressions. -/
def starOptions (n : Nested) : Reader (List Expr) := do
  if !(← isGeneric) then return []
  let matching ← keyword "ILIKE"
  if matching then
    let l ← next
    match l.map Lexeme.token with
    | some (.string .single _) => pure ()
    | _ => failExpected "ilike pattern" l
  if ← pure !matching <&&> keyword "EXCLUDE" then
    if ← take .leftParen then
      let _ ← commaList ident
      close
    else
      let _ ← ident
  if ← keyword "EXCEPT" then
    if ← tokenAhead .leftParen then
      let _ ← columnNames
    else
      let _ ← ident
  let replacements ←
    if ← keyword "REPLACE" then
      if ← take .leftParen then
        let es ← commaList do
          let e ← anyExpr n
          let _ ← keyword "AS"
          let _ ← ident
          return e
        close
        pure es
      else failExpected "( after REPLACE but" (← next)
    else pure []
  if ← keyword "RENAME" then
    if ← take .leftParen then
      let _ ← commaList renames
      close
    else renames
  return replacements

/-- An item of a SELECT list. A lone FROM is no column. -/
def selectItem (n : Nested) : Reader SelectItem := do
  match ← item n with
  | .star => return .star (← starOptions n)
  | .qualifiedStar qualifier => return .qualifiedStar qualifier (← starOptions n)
  | .expr e =>
    match e with
    | .name id =>
      if id.quote.isNone && Text.lower id.value == "from" then
        fail (.textAt ("Expected an expression, found: " ++ id.render) (← peek))
    | _ => pure ()
    match ← optionalAlias reservedForColumnAlias with
    | some name => return .aliased e name
    | none => return .plain e

def selectItems (n : Nested) : Reader (List SelectItem) := commaList (selectItem n)

def SelectItem.exprs : SelectItem → List Expr
  | plain e => [e]
  | aliased e _ => [e]
  | star es => es
  | qualifiedStar _ es => es

def returning (n : Nested) : Reader (List Expr) := do
  return ((← afterKeyword "RETURNING" (selectItems n)).getD []).flatMap SelectItem.exprs

/-! ### Clauses -/

def distinctness (n : Nested) : Reader (List Expr) := do
  let quantifier ← peek
  let all ← keyword "ALL"
  if ← keyword "DISTINCT" then
    if all then fail (.textAt "Cannot specify both ALL and DISTINCT" quantifier)
    if ← keyword "ON" then
      open_
      let es ← if ← tokenAhead .rightParen then pure [] else exprList n
      close
      return es
    else return []
  else return []

def topRows (n : Nested) : Reader (List Expr) := do
  if ← keyword "TOP" then
    let es ←
      if ← take .leftParen then do
        let e ← anyExpr n
        close
        pure [e]
      else do
        let _ ← literalNat
        pure []
    let _ ← keyword "PERCENT"
    let _ ← keywords ["WITH", "TIES"]
    return es
  else return []

def selectInto : Reader Unit := do
  if ← keyword "INTO" then
    let _ ← oneOf ["TEMP", "TEMPORARY"]
    let _ ← keyword "UNLOGGED"
    let _ ← keyword "TABLE"
    let _ ← path

def lateralViews (n : Nested) : Reader (List Expr) := manyAhead do
  if ← keywords ["LATERAL", "VIEW"] then
    let _ ← keyword "OUTER"
    let e ← anyExpr n
    let _ ← path
    let _ ← commaList (optionalAlias ["WHERE", "GROUP", "CLUSTER", "HAVING", "LATERAL"])
    return some e
  else return none

/-- Expressions between parentheses, or one without them where `bare` allows it. -/
def group (n : Nested) (bare : Bool) : Reader (List Expr) := do
  if bare && !(← tokenAhead .leftParen) then return [← anyExpr n]
  else
    open_
    if ← take .rightParen then return []
    else
      let es ← exprList n
      close
      return es

def groups (n : Nested) (name : String) (bare : Bool) : Reader Expr := do
  let gs ← parenthesized (commaList (group n bare))
  return .ofParts
    ([.text (name ++ " (")] ++
      Part.separated ", " (gs.map fun g => [Part.text "("] ++ Part.list g ++ [.text ")"]) ++
      [.text ")"])

def groupKey (n : Nested) : Reader Expr := do
  if ← isDialect [.mysql] then anyExpr n
  else if ← keywords ["GROUPING", "SETS"] then groups n "GROUPING SETS" false
  else if ← keyword "CUBE" then groups n "CUBE" true
  else if ← keyword "ROLLUP" then groups n "ROLLUP" true
  else if (← tokenAhead .leftParen) && (← peekTokenAt 1) == some .rightParen then
    parenthesized (return .ofParts [.text "()"])
  else anyExpr n

def groupKeys (n : Nested) : Reader (List Expr) := do
  if ← keywords ["GROUP", "BY"] then
    let keys ← if ← keyword "ALL" then pure [] else commaList (groupKey n)
    if ← isGeneric then
      let _ ← manyAhead do
        afterKeyword "WITH" (expectOneOf ["ROLLUP", "CUBE", "TOTALS"])
    return keys
  else return []

def namedWindows (n : Nested) : Reader (List Expr) := do
  let windows ← commaList do
    let _ ← ident
    expectKeyword "AS"
    if ← take .leftParen then return Part.operands (← windowSpec n (intervalExpr n))
    else if ← isGeneric then
      let _ ← ident
      return []
    else expected "("
  return windows.flatten

def windowClauses (n : Nested) : Reader (List Expr) := do
  if ← keyword "WINDOW" then
    let windows ← namedWindows n
    let filter ← afterKeyword "QUALIFY" (anyExpr n)
    return windows ++ filter.toList
  else
    match ← afterKeyword "QUALIFY" (anyExpr n) with
    | some filter =>
      let windows ← afterKeyword "WINDOW" (namedWindows n)
      return windows.getD [] ++ [filter]
    | none => return []

def connection (n : Nested) : Reader (List Expr) := do
  let links : Reader (List Expr) := do
    expectKeywords ["CONNECT", "BY"]
    withReader (fun setting => { setting with connecting := true }) (exprList n)
  let roots : Reader Expr := do
    expectKeywords ["START", "WITH"]
    anyExpr n
  if !(← isGeneric) then return []
  else if (← keywordAhead "CONNECT") && (← keywordAheadAt 1 "BY") then
    let es ← links
    return (← roots) :: es
  else if (← keywordAhead "START") || (← keywordAhead "CONNECT") then
    let root ← roots
    let es ← links
    return root :: es
  else return []

/-! ### The whole -/

def select (n : Nested) : Reader Select := do
  expectKeyword "SELECT"
  let distinct ← distinctness n
  let top ← topRows n
  let items ← selectItems n
  selectInto
  let sources ← listAfter ["FROM"] (tableSource n)
  let views ← lateralViews n
  let early ← if ← isGeneric then afterKeyword "PREWHERE" (anyExpr n) else pure none
  let filter ← afterKeyword "WHERE" (anyExpr n)
  let keys ← groupKeys n
  let clustered ← listAfter ["CLUSTER", "BY"] (anyExpr n)
  let distributed ← listAfter ["DISTRIBUTE", "BY"] (anyExpr n)
  let sorted ← listAfter ["SORT", "BY"] (anyExpr n)
  let having ← afterKeyword "HAVING" (anyExpr n)
  let windows ← windowClauses n
  let connected ← connection n
  return .mk (distinct ++ top) items sources (views ++ early.toList) filter
    (keys ++ clustered ++ distributed ++ sorted ++ having.toList ++ windows ++ connected)

end SqlAudit.Sql
