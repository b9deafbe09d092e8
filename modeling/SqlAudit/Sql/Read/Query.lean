import SqlAudit.Sql.Read.Change

/-!
Reading queries: the tables a query defines for itself, its body of SELECTs joined by set operators,
and the clauses that order, limit and lock its rows.
-/

namespace SqlAudit.Sql

open Reader

/-! ### Common tables -/

def materialization : Reader Unit := do
  if ← isDialect [.postgresql] then
    if !(← keyword "MATERIALIZED") then
      let _ ← keywords ["NOT", "MATERIALIZED"]

def cte (n : Nested) : Reader Cte := do
  let name ← ident
  let columns ←
    if ← keyword "AS" then pure []
    else do
      let columns ←
        if ← take .leftParen then do
          let columns ← commaList aliasColumn
          close
          pure columns
        else pure []
      expectKeyword "AS"
      pure columns
  materialization
  let query ← parenthesized n.query
  let _ ← afterKeyword "FROM" ident
  return .mk ⟨name, columns⟩ query

def ctes (n : Nested) : Reader (List Cte) := do
  if ← keyword "WITH" then
    let _ ← keyword "RECURSIVE"
    commaList (cte n)
  else return []

/-! ### Bodies -/

def setStrength : Reader (Option Nat) := do
  match ← peekToken with
  | some (.word w) =>
    if w.quote.isSome then return none
    else if w.keyword == "UNION" || w.keyword == "EXCEPT" then return some 10
    else if w.keyword == "INTERSECT" then return some 20
    else return none
  | _ => return none

def setQuantifier : Reader Unit := do
  if ← keywords ["DISTINCT", "BY", "NAME"] then return ()
  else if ← keywords ["BY", "NAME"] then return ()
  else if ← keyword "ALL" then
    let _ ← keywords ["BY", "NAME"]
  else
    let _ ← keyword "DISTINCT"

/-- A whole table as the body of a query. Three lexemes are taken, whatever they are. -/
def wholeTable : Reader SetExpr := do
  let first ← next
  let second ← next
  let third ← next
  let isWord (l : Option Lexeme) : Bool := match l.map Lexeme.token with
    | some (.word _) => true
    | _ => false
  if second.map Lexeme.token == some .period then
    if !isWord first then failExpected "Schema name" first
    else if !isWord third then failExpected "Table name" third
    else return .table
  else if isWord first then return .table
  else failExpected "Table name" first

def bodyOperand (n : Nested) : Reader SetExpr := do
  if ← keywordAhead "SELECT" then return .select (← select n)
  else if ← take .leftParen then
    let q ← n.query
    close
    return .nested q
  else if ← keyword "VALUES" then return .rows (← valueRows n (← isDialect [.mysql]))
  else if ← keyword "TABLE" then wholeTable
  else expected "SELECT, VALUES, or a subquery in the query body"

/-- Joins operands to a body as long as set operators stand ahead that bind more strongly than
`strength`; `right` reads what an operator takes on its right. -/
def setOperators (right : Nat → Reader SetExpr) (strength : Nat) (left : SetExpr) :
    Nat → Reader SetExpr
  | 0 => return left
  | count + 1 => do
    match ← setStrength with
    | some s =>
      if strength < s then
        let _ ← next
        setQuantifier
        setOperators right strength (.operation left (← right s)) count
      else return left
    | none => return left

/-- A body down to a strength. `fuel` bounds the number of set operators. -/
def bodyAt (n : Nested) (strength : Nat) : Nat → Reader SetExpr
  | 0 => fail .tooDeep
  | fuel + 1 => do
    let first ← bodyOperand n
    setOperators (bodyAt n · fuel) strength first (← ahead).length

/-! ### Order and limits -/

def interpolation (n : Nested) : Reader (List Expr) := do
  if ← genericKeyword "INTERPOLATE" <&&> take .leftParen then
    if ← take .rightParen then return []
    else
      let es ← commaList do
        let _ ← ident
        return (← afterKeyword "AS" (anyExpr n)).toList
      close
      return es.flatten
  else return []

def orderClause (n : Nested) : Reader (List Expr) := do
  match ← afterKeywords ["ORDER", "BY"] (orderKeys n) with
  | some keys => return Part.operands keys ++ (← interpolation n)
  | none => return []

structure Bounds where
  limit : Option Expr
  offset : Option Expr

def offsetRows (n : Nested) : Reader Expr := do
  let e ← anyExpr n
  let _ ← oneOf ["ROW", "ROWS"]
  return e

def moreBounds (n : Nested) (b : Bounds) : Reader Bounds := do
  let limit ←
    if b.limit.isNone then pure ((← afterKeyword "LIMIT" (rowLimit n)).bind id) else pure b.limit
  let offset ←
    if b.offset.isNone then afterKeyword "OFFSET" (offsetRows n) else pure b.offset
  if ← pure (limit.isSome && offset.isNone) <&&> isDialect [.generic, .mysql] <&&> take .comma then
    return ⟨some (← anyExpr n), limit⟩
  else return ⟨limit, offset⟩

def bounds (n : Nested) : Reader Bounds := do moreBounds n (← moreBounds n ⟨none, none⟩)

def fetch : Reader Unit := do
  let _ ← expectOneOf ["FIRST", "NEXT"]
  match ← oneOf ["ROW", "ROWS"] with
  | some _ => pure ()
  | none =>
    let _ ← value
    let _ ← keyword "PERCENT"
    let _ ← expectOneOf ["ROW", "ROWS"]
  if ← keyword "ONLY" <||> keywords ["WITH", "TIES"] then return ()
  else expected "one of ONLY or WITH TIES"

def namedRoot : Reader Unit := do
  let _ ← parenthesized literalString

/-- Options that stand after commas, unknown ones being passed over. -/
def formOptions (option : Reader Unit) : Reader Unit := do
  let _ ← manyAhead do
    if ← take .comma then
      option
      return some ()
    else return none

def xmlForm : Reader Unit := do
  match ← oneOf ["RAW", "AUTO", "EXPLICIT", "PATH"] with
  | some k =>
    if (k == "RAW" || k == "PATH") && (← tokenAhead .leftParen) then namedRoot
  | none => fail (.text "Expected FOR XML [RAW | AUTO | EXPLICIT | PATH ]")
  formOptions do
    match ← oneOf ["ELEMENTS", "BINARY", "ROOT", "TYPE"] with
    | some "BINARY" => expectKeyword "BASE64"
    | some "ROOT" => namedRoot
    | _ => return ()

def jsonForm : Reader Unit := do
  if !(← anyOf ["AUTO", "PATH"]) then fail (.text "Expected FOR JSON [AUTO | PATH ]")
  formOptions do
    match ← oneOf ["ROOT", "INCLUDE_NULL_VALUES", "WITHOUT_ARRAY_WRAPPER"] with
    | some "ROOT" => namedRoot
    | _ => return ()

def lock : Reader Unit := do
  let _ ← expectOneOf ["UPDATE", "SHARE"]
  let _ ← afterKeyword "OF" path
  if !(← keyword "NOWAIT") then
    let _ ← keywords ["SKIP", "LOCKED"]

def forClauses : Nat → Reader Unit
  | 0 => return ()
  | fuel + 1 => do
    if ← keyword "FOR" then
      if ← keyword "XML" then xmlForm
      else if ← keyword "JSON" then jsonForm
      else if ← keyword "BROWSE" then return ()
      else
        lock
        forClauses fuel
    else return ()

def queryTail (n : Nested) : Reader (List Expr) := do
  let order ← orderClause n
  let b ← bounds n
  let limitKeys ← if ← isGeneric then listAfter ["BY"] (anyExpr n) else pure []
  settings
  let _ ← afterKeyword "FETCH" fetch
  forClauses ((← ahead).length + 1)
  if ← genericKeyword "FORMAT" then
    if !(← keyword "NULL") then
      let _ ← ident
  return order ++ b.limit.toList ++ limitKeys ++ b.offset.toList

def query (n : Nested) : Reader Query := do
  let tables ← ctes n
  if ← keyword "INSERT" then return .mk tables (.statement (← insert n)) []
  else if ← keyword "UPDATE" then return .mk tables (.statement (← update n)) []
  else
    let body ← bodyAt n 0 ((← ahead).length + 1)
    return .mk tables body (← queryTail n)

end SqlAudit.Sql
