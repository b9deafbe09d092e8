import SqlAudit.Sql.Read.Column

/-!
Reading the statements that create a table and change it.
-/

namespace SqlAudit.Sql

open Reader

/-! ### CREATE TABLE -/

def anyWord : Reader Unit := do
  let l ← next
  match l.map Lexeme.token with
  | some (.word _) => return ()
  | _ => failExpected "identifier" l

def onCluster : Reader Unit := do
  if ← keywords ["ON", "CLUSTER"] then
    let _ ← ident

/-- The name of a table after LIKE or CLONE. What is no name there is passed over. -/
def loosePath : Nat → Reader Unit
  | 0 => return ()
  | fuel + 1 => do
    let l ← next
    if ← pure (l.bind Lexeme.ident?).isSome <&&> take .period then loosePath fuel

def clusteredBy (n : Nested) : Reader (List Expr) := do
  if ← isGeneric <&&> keywords ["CLUSTERED", "BY"] then
    let _ ← columnNames
    let sorted ← afterKeywords ["SORTED", "BY"] (parenthesized (orderKeys n))
    expectKeyword "INTO"
    signedNumber
    expectKeyword "BUCKETS"
    return Part.operands (sorted.getD [])
  else return []

def storage (n : Nested) : Reader (List Expr) := do
  let clauses ← manyAhead do
    if ← keyword "STORED" then
      expectKeyword "AS"
      if ← keyword "INPUTFORMAT" then
        let input ← anyExpr n
        expectKeyword "OUTPUTFORMAT"
        return some [input, ← anyExpr n]
      else
        fileFormat
        return some []
    else if ← keyword "LOCATION" then
      let _ ← literalString
      return some []
    else afterKeywords ["WITH", "SERDEPROPERTIES"] (optionList n)
  return clauses.flatten

def wordOption (ks : List String) : Reader Unit := do
  let _ ← afterKeywords ks do
    expectToken .equal
    anyWord

def engine : Reader Unit := do
  if ← keyword "ENGINE" then
    expectToken .equal
    anyWord
    let _ ← optionalColumnNames

def countFrom : Reader Unit := do
  if ← keyword "AUTO_INCREMENT" then
    let _ ← take .equal
    let _ ← natBelow "u32" UInt32.size

def rowOrder (n : Nested) : Reader (List Expr) := do
  if ← keywords ["ORDER", "BY"] then
    if ← take .leftParen then
      let es ← if ← tokenAhead .rightParen then pure [] else exprList n
      close
      return es
    else return [← anyExpr n]
  else return []

def partitioning (n : Nested) : Reader (List Expr) := do
  let partition ←
    if ← isDialect [.postgresql, .generic] then afterKeywords ["PARTITION", "BY"] (anyExpr n)
    else pure none
  let options ←
    if ← isGeneric then do
      let _ ← listAfter ["CLUSTER", "BY"] ident
      optionsAfter n ["OPTIONS"]
    else pure []
  return partition.toList ++ options

def onCommit : Reader Unit := do
  if ← keywords ["ON", "COMMIT"] then
    if ← keywords ["DELETE", "ROWS"] <||> keywords ["PRESERVE", "ROWS"] <||> keyword "DROP" then
      return ()
    else
      let found := ((← peekToken).map Token.render).getD "EOF"
      fail (.text ("Expecting DELETE ROWS, PRESERVE ROWS or DROP" ++ found))

def tableComment : Reader Unit := do
  if ← keyword "COMMENT" then
    let _ ← take .equal
    let l ← next
    match l.map Lexeme.token with
    | some (.string .single _) => return ()
    | _ => failExpected "comment" l

def tableQuery (n : Nested) : Reader (Option Query) := do
  if ← keyword "AS" then return some (← n.query)
  else if ← isDialect [.mysql] <&&> keywordAhead "SELECT" then return some (← n.query)
  else return none

def createTable (n : Nested) : Reader Statement := do
  let kept ← ifNotExists
  let name ← path
  onCluster
  if ← anyOf ["LIKE", "ILIKE"] then loosePath ((← ahead).length + 1)
  if ← keyword "CLONE" then loosePath ((← ahead).length + 1)
  let parts ← tableParts n
  let _ ← keywords ["WITHOUT", "ROWID"]
  let divided ← afterKeywords ["PARTITIONED", "BY"] (parenthesized (commaList (columnSpec n)))
  let clustered ← clusteredBy n
  let stored ← storage n
  let options ← optionsAfter n ["WITH"]
  let properties ← optionsAfter n ["TBLPROPERTIES"]
  engine
  countFrom
  let key ← if ← isGeneric then afterKeywords ["PRIMARY", "KEY"] (anyExpr n) else pure none
  let order ← rowOrder n
  let partition ← partitioning n
  wordOption ["DEFAULT", "CHARSET"]
  wordOption ["COLLATE"]
  onCommit
  let _ ← keyword "STRICT"
  tableComment
  let query ← tableQuery n
  return .define (.table name parts.columns parts.keys kept)
    (parts.columnExprs ++ parts.checks ++ (divided.getD []).flatMap (·.2) ++ stored ++
      properties ++ options)
    query (clustered ++ key.toList ++ order ++ partition)

/-! ### ALTER TABLE -/

def columnPosition : Reader Unit := do
  if ← isDialect [.mysql, .generic] then
    if !(← keyword "FIRST") then
      let _ ← afterKeyword "AFTER" ident

def tablePortion (n : Nested) : Reader Expr := do
  let _ ← expectOneOf ["PART", "PARTITION"]
  anyExpr n

abbrev ChangeReader := Reader (TableChange × List Expr)

def otherChange (es : List Expr) : ChangeReader := return (.other, es)

def addChange (n : Nested) : ChangeReader := do
  match ← constraint n with
  | some c => otherChange c.checks
  | none =>
    if ← genericKeyword "PROJECTION" then
      let _ ← ifNotExists
      let _ ← ident
      let selected ← parenthesized do
        expectKeyword "SELECT"
        let items ← selectItems n
        let keys ← groupKeys n
        let order ← orderClause n
        return items.flatMap SelectItem.exprs ++ keys ++ order
      otherChange selected
    else
      let kept ← ifNotExists
      let partitions ← manyAhead (afterKeyword "PARTITION" (exprGroup n))
      if !partitions.isEmpty then otherChange partitions.flatten
      else
        let _ ← keyword "COLUMN"
        let keptColumn ← isDialect [.postgresql, .generic] <&&> ifNotExists
        let (column, es) ← columnSpec n
        columnPosition
        return (.addColumn column (kept || keptColumn), es)

def renameChange : ChangeReader := do
  if ← keywordIn [.postgresql] "CONSTRAINT" then
    let _ ← ident
    expectKeyword "TO"
    let _ ← ident
    otherChange []
  else if ← keyword "TO" then return (.renameTable (← path), [])
  else
    let _ ← keyword "COLUMN"
    let old ← ident
    expectKeyword "TO"
    return (.renameColumn old (← ident), [])

def dropChange (n : Nested) : ChangeReader := do
  if ← keywords ["IF", "EXISTS", "PARTITION"] <||> keyword "PARTITION" then
    otherChange (← exprGroup n)
  else if ← keyword "CONSTRAINT" then
    let _ ← ifExists
    let _ ← ident
    let _ ← keyword "CASCADE"
    otherChange []
  else if ← keywords ["PRIMARY", "KEY"] <&&> isDialect [.mysql, .generic] then otherChange []
  else if ← keyword "PROJECTION" <&&> isGeneric then
    let _ ← ifExists
    let _ ← ident
    otherChange []
  else if ← keywords ["CLUSTERING", "KEY"] then otherChange []
  else
    let _ ← keyword "COLUMN"
    let _ ← ifExists
    let name ← ident
    let _ ← keyword "CASCADE"
    return (.dropColumn name, [])

def changedColumn (n : Nested) : ChangeReader := do
  let _ ← typeName
  let options ← manyAhead (columnOption n)
  columnPosition
  otherChange (options.flatMap (·.2))

def alterColumn (n : Nested) : ChangeReader := do
  let _ ← keyword "COLUMN"
  let _ ← ident
  let postgres ← isDialect [.postgresql]
  if ← keywords ["SET", "NOT", "NULL"] <||> keywords ["DROP", "NOT", "NULL"] then otherChange []
  else if ← keywords ["SET", "DEFAULT"] then otherChange [← anyExpr n]
  else if ← keywords ["DROP", "DEFAULT"] then otherChange []
  else if ← keywords ["SET", "DATA", "TYPE"] <||> keywordIn [.postgresql] "TYPE" then
    let _ ← typeName
    let using_ ← if postgres then afterKeyword "USING" (anyExpr n) else pure none
    otherChange using_.toList
  else if ← keywords ["ADD", "GENERATED"] then
    let _ ← keyword "ALWAYS" <||> keywords ["BY", "DEFAULT"]
    expectKeywords ["AS", "IDENTITY"]
    if ← take .leftParen then
      sequenceOptions
      close
    otherChange []
  else if postgres then
    expected "SET/DROP NOT NULL, SET DEFAULT, SET DATA TYPE, or ADD GENERATED after ALTER COLUMN"
  else expected "SET/DROP NOT NULL, SET DEFAULT, or SET DATA TYPE after ALTER COLUMN"

def switchable (words : List (List String)) : Reader Bool := do
  match words with
  | [] => return false
  | ks :: rest =>
    if ← keywords ks then
      let _ ← ident
      return true
    else switchable rest

def enableChange : ChangeReader := do
  let words :=
    [["ALWAYS", "RULE"], ["ALWAYS", "TRIGGER"], ["REPLICA", "RULE"], ["REPLICA", "TRIGGER"],
     ["RULE"], ["TRIGGER"]]
  if ← keywords ["ROW", "LEVEL", "SECURITY"] <||> switchable words then otherChange []
  else expected "ALWAYS, REPLICA, ROW LEVEL SECURITY, RULE, or TRIGGER after ENABLE"

def disableChange : ChangeReader := do
  if ← keywords ["ROW", "LEVEL", "SECURITY"] <||> switchable [["RULE"], ["TRIGGER"]] then
    otherChange []
  else expected "ROW LEVEL SECURITY, RULE, or TRIGGER after DISABLE"

def projectionChange : ChangeReader := do
  let _ ← ifExists
  let _ ← ident
  let _ ← afterKeywords ["IN", "PARTITION"] ident
  otherChange []

def owner : Reader Unit := do
  if !(← anyOf ["CURRENT_USER", "CURRENT_ROLE", "SESSION_USER"]) then
    let l ← next
    if (l.bind Lexeme.ident?).isNone then
      fail (.text
        ("Expected: CURRENT_USER, CURRENT_ROLE, SESSION_USER or identifier after OWNER TO. " ++
          (ReadError.expected "identifier" l).message))

def portionChange (n : Nested) : Reader (Option (TableChange × List Expr)) := do
  if !(← isGeneric) then return none
  else if ← anyOf ["ATTACH", "DETACH"] then return some (.other, [← tablePortion n])
  else if ← anyOf ["FREEZE", "UNFREEZE"] then
    let e ← tablePortion n
    if ← keyword "WITH" then
      expectKeyword "NAME"
      let _ ← ident
    return some (.other, [e])
  else return none

def tableChange (n : Nested) : ChangeReader := do
  if ← keyword "ADD" then addChange n
  else if ← keyword "RENAME" then renameChange
  else if ← keyword "DISABLE" then disableChange
  else if ← keyword "ENABLE" then enableChange
  else if ← keywords ["CLEAR", "PROJECTION"] <&&> isGeneric then projectionChange
  else if ← keywords ["MATERIALIZE", "PROJECTION"] <&&> isGeneric then projectionChange
  else if ← keyword "DROP" then dropChange n
  else if ← keyword "PARTITION" then
    let before ← exprGroup n
    expectKeywords ["RENAME", "TO", "PARTITION"]
    otherChange (before ++ (← exprGroup n))
  else if ← keyword "CHANGE" then
    let _ ← keyword "COLUMN"
    let _ ← ident
    let _ ← ident
    changedColumn n
  else if ← keyword "MODIFY" then
    let _ ← keyword "COLUMN"
    let _ ← ident
    changedColumn n
  else if ← keyword "ALTER" then alterColumn n
  else if ← keyword "SWAP" then
    expectKeyword "WITH"
    let _ ← path
    otherChange []
  else if ← isDialect [.postgresql, .generic] <&&> keywords ["OWNER", "TO"] then
    owner
    otherChange []
  else
    match ← portionChange n with
    | some change => return change
    | none =>
      if ← keywords ["CLUSTER", "BY"] then otherChange (← exprGroup n)
      else if ← keywords ["SUSPEND", "RECLUSTER"] <||> keywords ["RESUME", "RECLUSTER"] then
        otherChange []
      else
        let properties ← optionsAfter n ["SET", "TBLPROPERTIES"]
        if properties.isEmpty then
          expected "ADD, RENAME, PARTITION, SWAP, DROP, or SET TBLPROPERTIES after ALTER TABLE"
        else otherChange properties

def alterTable (n : Nested) : Reader Statement := do
  let _ ← ifExists
  let _ ← keyword "ONLY"
  let name ← path
  onCluster
  let changes ← commaList (tableChange n)
  let _ ← afterKeyword "LOCATION" ident <||> afterKeywords ["SET", "LOCATION"] ident
  return .define (.alter name (changes.map (·.1))) (changes.flatMap (·.2)) none []

end SqlAudit.Sql
