import SqlAudit.Sql.Read.Access

/-!
Reading the statements that control a session: transactions, variables, prepared statements, cursors,
and what a database shows of itself.
-/

namespace SqlAudit.Sql

open Reader

/-! ### Transactions -/

def isolationLevel : Reader Unit := do
  if ← keywords ["READ", "UNCOMMITTED"] <||> keywords ["READ", "COMMITTED"] <||>
      keywords ["REPEATABLE", "READ"] <||> keyword "SERIALIZABLE" <||> keyword "SNAPSHOT" then
    return ()
  else expected "isolation level"

def transactionModes : Nat → (required : Bool) → Reader Unit
  | 0, _ => return ()
  | fuel + 1, required => do
    if ← keywords ["ISOLATION", "LEVEL"] then
      isolationLevel
      transactionModes fuel (← take .comma)
    else if ← keywords ["READ", "ONLY"] <||> keywords ["READ", "WRITE"] then
      transactionModes fuel (← take .comma)
    else if required then expected "transaction mode"
    else return ()

def modes : Reader Unit := do transactionModes ((← ahead).length + 1) false

def begin_ : Reader Statement := do
  if ← isGeneric then
    let _ ← oneOf ["DEFERRED", "IMMEDIATE", "EXCLUSIVE", "TRY", "CATCH"]
  let _ ← oneOf ["TRANSACTION", "WORK"]
  modes
  plainStatement []

def transactionChain : Reader Unit := do
  let _ ← oneOf ["TRANSACTION", "WORK"]
  if ← keyword "AND" then
    let _ ← keyword "NO"
    expectKeyword "CHAIN"

def commit : Reader Statement := do
  transactionChain
  plainStatement []

def end_ : Reader Statement := do
  if ← isGeneric then
    let _ ← oneOf ["TRY", "CATCH"]
  commit

def rollback : Reader Statement := do
  transactionChain
  if ← keyword "TO" then
    let _ ← keyword "SAVEPOINT"
    let _ ← ident
  plainStatement []

/-! ### Variables -/

/-- A value of a variable. Where none can be read the error is about what follows. -/
def variableValue (n : Nested) : Reader Expr := do
  if ← queryAhead then
    let (q, text) ← queryWithText n
    return .ofQuery [] "(" text ")" q
  else
    match ← attempt (anyExpr n) with
    | some e => return e
    | none =>
      let _ ← next
      expected "variable value"

def variableValues (n : Nested) (grouped : Bool) : Reader Statement := do
  if grouped then open_
  let es ← commaList (variableValue n)
  if grouped then close
  plainStatement es

def sessionRole : Reader Unit := do
  expectKeyword "ROLE"
  if !(← keyword "NONE") then
    let _ ← ident

def setVariable (n : Nested) (name : Path) (modified : Bool) : Reader Statement := do
  let text := renderPath name
  if ← take .equal <||> keyword "TO" then variableValues n false
  else if Text.lower text == "timezone" then
    match ← attempt (anyExpr n) with
    | some e => plainStatement [e]
    | none =>
      let _ ← next
      expected "timezone value"
  else if text == "CHARACTERISTICS" then
    expectKeywords ["AS", "TRANSACTION"]
    modes
    plainStatement []
  else if text == "TRANSACTION" && !modified then
    if ← keyword "SNAPSHOT" then
      let _ ← value
    else modes
    plainStatement []
  else expected "equals sign or TO"

def characterSet : Reader Statement := do
  if !(← keyword "DEFAULT") then
    let _ ← literalString
    let _ ← afterKeyword "COLLATE" literalString
  plainStatement []

def set (n : Nested) : Reader Statement := do
  let modifier ← oneOf ["SESSION", "LOCAL", "HIVEVAR"]
  if modifier == some "HIVEVAR" then expectToken (.operator ":")
  let role ← if modifier == some "HIVEVAR" then pure none else attempt sessionRole
  if role.isSome then plainStatement []
  else if ← keywords ["TIME", "ZONE"] then
    setVariable n [⟨"TIMEZONE", none, none⟩] modifier.isSome
  else if ← isGeneric <&&> take .leftParen then
    let _ ← commaList ident
    close
    if ← take .equal <||> keyword "TO" then variableValues n true else expected "set variable"
  else
    let name ← path
    if ← pure (Text.lower (renderPath name) == "names") <&&> isDialect [.mysql, .generic] then
      characterSet
    else setVariable n name modifier.isSome

/-! ### SHOW -/

def showFilter (n : Nested) : Reader (List Expr) := do
  if ← anyOf ["LIKE", "ILIKE"] then
    let _ ← literalString
    return []
  else if ← keyword "WHERE" then return [← anyExpr n]
  else
    let _ ← attempt literalString
    return []

def showWithin : Reader Unit := do
  if ← anyOf ["FROM", "IN"] then
    if ← anyOf ["ACCOUNT", "DATABASE", "SCHEMA", "TABLE", "VIEW"] then
      let _ ← attempt path
    else
      let _ ← path
      if ← anyOf ["FROM", "IN"] then
        let _ ← ident

def showOptions (n : Nested) : Reader Statement := do
  showWithin
  let filter ← showFilter n
  let _ ← afterKeywords ["STARTS", "WITH"] value
  let limit ← afterKeyword "LIMIT" (rowLimit n)
  let _ ← afterKeyword "FROM" value
  plainStatement (filter ++ (limit.bind id).toList)

def passOver : Nat → Reader Unit
  | 0 => return ()
  | fuel + 1 => do
    match ← peekToken with
    | none | some .equal => return ()
    | _ =>
      let _ ← next
      passOver fuel

def show_ (n : Nested) : Reader Statement := do
  let _ ← keyword "TERSE"
  let extended ← keyword "EXTENDED"
  let full ← keyword "FULL"
  let _ ← keyword "SESSION"
  let _ ← keyword "GLOBAL"
  let _ ← keyword "EXTERNAL"
  if ← anyOf ["COLUMNS", "FIELDS"] <||> keyword "TABLES" <||> keywords ["MATERIALIZED", "VIEWS"] <||>
      keyword "VIEWS" then showOptions n
  else if ← keyword "FUNCTIONS" then plainStatement (← showFilter n)
  else if extended || full then
    fail (.text "EXTENDED/FULL are not supported with this type of SHOW query")
  else if ← keyword "CREATE" then
    let _ ← expectOneOf ["TABLE", "TRIGGER", "FUNCTION", "PROCEDURE", "EVENT", "VIEW"]
    let _ ← path
    plainStatement []
  else if ← keyword "COLLATION" then plainStatement (← showFilter n)
  else if ← keyword "VARIABLES" <&&> isDialect [.mysql, .generic] then
    plainStatement (← showFilter n)
  else if ← keyword "STATUS" <&&> isDialect [.mysql, .generic] then
    plainStatement (← showFilter n)
  else if ← keyword "DATABASES" <||> keyword "SCHEMAS" then
    let _ ← keyword "HISTORY"
    showOptions n
  else
    passOver ((← ahead).length + 1)
    plainStatement []

/-! ### Prepared statements and calls -/

def prepare (n : Nested) : Reader Statement := do
  let _ ← ident
  if ← take .leftParen then
    let _ ← commaList typeName
    close
  expectKeyword "AS"
  return .prepare (← n.statement)

def execute (n : Nested) : Reader Statement := do
  let _ ← path
  let grouped ← take .leftParen
  let isEnd : Option Token → Bool
    | none => !grouped
    | some .rightParen => grouped
    | some .semicolon => !grouped
    | some t => !grouped && t.isKeyword "USING"
  let arguments ← if isEnd (← peekToken) then pure [] else exprList n
  if grouped then close
  let bound ← listAfter ["USING"] (anyExpr n)
  plainStatement (arguments ++ bound)

def callStatement (n : Nested) : Reader Statement := do
  let name ← path
  if ← tokenAhead .leftParen then plainStatement [← call n (intervalExpr n) name]
  else plainStatement []

/-! ### Rows and caches -/

def truncate (n : Nested) : Reader Statement := do
  let _ ← keyword "TABLE"
  let _ ← keyword "ONLY"
  let _ ← commaList path
  let partitions ← afterKeyword "PARTITION" (exprGroup n)
  if ← isDialect [.postgresql, .generic] then
    let _ ← keywords ["RESTART", "IDENTITY"] <||> keywords ["CONTINUE", "IDENTITY"]
    dropBehavior
  onCluster
  plainStatement (partitions.getD [])

def analyze (n : Nested) : Reader Statement := do
  let _ ← keyword "TABLE"
  let _ ← path
  let clauses ← manyAhead do
    match ← oneOf ["PARTITION", "FOR", "CACHE", "NOSCAN", "COMPUTE"] with
    | some "PARTITION" => return some (← exprGroup n)
    | some "FOR" =>
      expectKeyword "COLUMNS"
      let _ ← attempt (commaList ident)
      return some []
    | some "CACHE" =>
      expectKeyword "METADATA"
      return some []
    | some "COMPUTE" =>
      expectKeyword "STATISTICS"
      return some []
    | some _ => return some []
    | none => return none
  plainStatement clauses.flatten

def commentOn : Reader Statement := do
  let _ ← ifExists
  expectKeyword "ON"
  let l ← peek
  if ← anyOf ["COLUMN", "TABLE", "EXTENSION", "SCHEMA", "DATABASE", "USER", "ROLE"] then
    let _ ← path
    expectKeyword "IS"
    if !(← keyword "NULL") then
      let _ ← literalString
    plainStatement []
  else failExpected "comment object_type" l

/-! ### EXPLAIN -/

def explainOption (n : Nested) : Reader (List Expr) := do
  let _ ← ident
  if ← tokenAhead .comma <||> tokenAhead .rightParen then return [] else return [← anyExpr n]

def explainFormat : Reader Unit := do
  let l ← peek
  if ← anyOf ["TEXT", "GRAPHVIZ", "JSON"] then return () else failExpected "fileformat" l

/-- The rest of EXPLAIN, or of DESCRIBE where `utility` is false. What is no statement is the name of
a table. -/
def explain (n : Nested) (utility : Bool) : Reader Statement := do
  let options ←
    if ← pure utility <&&> isDialect [.generic, .postgresql] <&&> tokenAhead .leftParen then
      pure (← parenthesized (commaList (explainOption n))).flatten
    else if ← keywords ["QUERY", "PLAN"] <||> keyword "ESTIMATE" then pure []
    else do
      let _ ← keyword "ANALYZE"
      let _ ← keyword "VERBOSE"
      let _ ← afterKeyword "FORMAT" explainFormat
      pure []
  match ← attempt n.statement with
  | some (.explain ..) => fail (.text "Explain must be root of the plan")
  | some s => return .explain s options
  | none =>
    let _ ← oneOf ["EXTENDED", "FORMATTED"]
    let _ ← path
    return .explain (.other [] [] none) []

end SqlAudit.Sql
