import SqlAudit.Sql.Read.Control

/-!
Reading a single statement, told apart by its first words.
-/

namespace SqlAudit.Sql

open Reader

/-! ### CREATE, ALTER and DROP -/

def create (n : Nested) : Reader Statement := do
  let replacing ← keywords ["OR", "REPLACE"]
  let _ ← keywords ["OR", "ALTER"]
  let _ ← keyword "LOCAL"
  let _ ← keyword "GLOBAL"
  let _ ← keyword "TRANSIENT"
  let _ ← oneOf ["TEMP", "TEMPORARY"]
  let start ← peek
  if ← keyword "TABLE" then createTable n
  else if ← keywordAhead "MATERIALIZED" <||> keywordAhead "VIEW" then createView n
  else if ← keyword "FUNCTION" then
    if ← isDialect [.mysql] then failExpected "an object type after CREATE" start
    else createFunction n
  else if ← keyword "TRIGGER" <||> keywords ["CONSTRAINT", "TRIGGER"] then createTrigger n
  else if ← keyword "POLICY" then createPolicy n
  else if replacing then
    expected "[EXTERNAL] TABLE or [MATERIALIZED] VIEW or FUNCTION after CREATE OR REPLACE"
  else if ← keyword "EXTENSION" then createExtension
  else if ← keyword "INDEX" <||> keywords ["UNIQUE", "INDEX"] then createIndex n
  else if ← keyword "SCHEMA" then createSchema
  else if ← keyword "DATABASE" then createDatabase
  else if ← keyword "ROLE" then createRole n
  else if ← keyword "SEQUENCE" then createSequence
  else if ← keyword "TYPE" then createType
  else expected "an object type after CREATE"

def alter (n : Nested) : Reader Statement := do
  match ← expectOneOf ["VIEW", "TABLE", "INDEX", "ROLE", "POLICY"] with
  | "VIEW" => alterView n
  | "TABLE" => alterTable n
  | "INDEX" => alterIndex
  | "ROLE" => alterRole n
  | _ => alterPolicy n

def drop (n : Nested) : Reader Statement := do
  let _ ← keywordIn [.mysql, .generic] "TEMPORARY"
  let kinds :=
    ["TABLE", "VIEW", "INDEX", "ROLE", "SCHEMA", "DATABASE", "SEQUENCE", "STAGE", "TYPE"]
  match ← oneOf kinds with
  | some kind => dropNamed kind
  | none =>
    match ← oneOf ["FUNCTION", "POLICY", "PROCEDURE", "TRIGGER"] with
    | some "POLICY" => dropFromTable (do let _ ← ident)
    | some "TRIGGER" => dropFromTable (do let _ ← path)
    | some _ => dropFunction n
    | none =>
      expected ("TABLE, VIEW, INDEX, ROLE, SCHEMA, DATABASE, FUNCTION, PROCEDURE, STAGE, " ++
        "TRIGGER, SECRET, SEQUENCE, or TYPE after DROP")

/-! ### Cursors -/

def declareCursor (n : Nested) : Reader Statement := do
  let _ ← ident
  let _ ← keyword "BINARY"
  let _ ← oneOf ["INSENSITIVE", "ASENSITIVE"]
  let _ ← keyword "SCROLL" <||> keywords ["NO", "SCROLL"]
  expectKeyword "CURSOR"
  if ← anyOf ["WITH", "WITHOUT"] then expectKeyword "HOLD"
  expectKeyword "FOR"
  return .other [] [] (some (← n.query))

def fetchRows : Reader Statement := do
  if ← anyOf ["NEXT", "PRIOR", "FIRST", "LAST", "ALL"] then pure ()
  else if ← anyOf ["FORWARD", "BACKWARD"] then
    if !(← keyword "ALL") then signedNumber
  else
    let _ ← oneOf ["ABSOLUTE", "RELATIVE"]
    signedNumber
  let _ ← expectOneOf ["FROM", "IN"]
  let _ ← ident
  let _ ← afterKeyword "INTO" path
  plainStatement []

/-! ### Locks -/

def tableLock : Reader Unit := do
  let _ ← ident
  let _ ← optionalAlias ["READ", "WRITE", "LOW_PRIORITY"]
  if ← keyword "READ" then
    let _ ← keyword "LOCAL"
  else if ← keyword "WRITE" <||> keywords ["LOW_PRIORITY", "WRITE"] then return ()
  else expected "an lock type in LOCK TABLES"

def lockStatement : Reader (Option Statement) := do
  if ← keywords ["LOCK", "TABLES"] then
    let _ ← commaList tableLock
    return some (← plainStatement [])
  else if ← keywords ["UNLOCK", "TABLES"] then return some (← plainStatement [])
  else return none

/-! ### The statement -/

def kill : Reader Statement := do
  let kind ← oneOf ["CONNECTION", "QUERY", "MUTATION"]
  let _ ← literalNat
  if kind == some "MUTATION" && !(← isGeneric) then
    expected "Unsupported type for KILL, allowed: CONNECTION | QUERY"
  else plainStatement []

def discard : Reader Statement := do
  if ← anyOf ["ALL", "PLANS", "SEQUENCES", "TEMP", "TEMPORARY"] then plainStatement []
  else expected "ALL, PLANS, SEQUENCES, TEMP or TEMPORARY after DISCARD"

def load : Reader Statement := do
  if ← isGeneric then
    let _ ← ident
    plainStatement []
  else
    let _ ← keyword "DATA"
    expected "\x60DATA\x60 or an extension name after \x60LOAD\x60"

def assert (n : Nested) : Reader Statement := do
  let condition ← anyExpr n
  let message ← afterKeyword "AS" (anyExpr n)
  plainStatement (condition :: message.toList)

/-- A statement after the word it starts with, `none` where no statement starts with that word. -/
def statementOf (n : Nested) (word : String) : Reader (Option Statement) := do
  match word with
  | "EXPLAIN" => return some (← explain n true)
  | "DESC" | "DESCRIBE" => return some (← explain n false)
  | "INSERT" => return some (← insert n)
  | "REPLACE" => return some (← replace n)
  | "UPDATE" => return some (← update n)
  | "DELETE" => return some (← delete n)
  | "MERGE" => return some (← merge n)
  | "CREATE" => return some (← create n)
  | "ALTER" => return some (← alter n)
  | "DROP" => return some (← drop n)
  | "TRUNCATE" => return some (← truncate n)
  | "ANALYZE" => return some (← analyze n)
  | "COMMENT" => if ← isDialect [.mysql] then return none else return some (← commentOn)
  | "SET" => return some (← set n)
  | "SHOW" => return some (← show_ n)
  | "USE" =>
    let _ ← path
    return some (← plainStatement [])
  | "GRANT" => return some (← grant)
  | "REVOKE" => return some (← revoke)
  | "START" =>
    expectKeyword "TRANSACTION"
    modes
    return some (← plainStatement [])
  | "BEGIN" => return some (← begin_)
  | "END" => return some (← end_)
  | "COMMIT" => return some (← commit)
  | "ROLLBACK" => return some (← rollback)
  | "SAVEPOINT" =>
    let _ ← ident
    return some (← plainStatement [])
  | "RELEASE" =>
    let _ ← keyword "SAVEPOINT"
    let _ ← ident
    return some (← plainStatement [])
  | "CALL" => return some (← callStatement n)
  | "EXECUTE" | "EXEC" => return some (← execute n)
  | "PREPARE" => return some (← prepare n)
  | "DEALLOCATE" =>
    let _ ← keyword "PREPARE"
    let _ ← ident
    return some (← plainStatement [])
  | "DECLARE" => return some (← declareCursor n)
  | "FETCH" => return some (← fetchRows)
  | "CLOSE" =>
    if !(← keyword "ALL") then
      let _ ← ident
    return some (← plainStatement [])
  | "KILL" => return some (← kill)
  | "DISCARD" => return some (← discard)
  | "ASSERT" => return some (← assert n)
  | "LOAD" => return some (← load)
  | "INSTALL" =>
    if ← isGeneric then
      let _ ← ident
      return some (← plainStatement [])
    else return none
  | _ => return none

def statement (n : Nested) : Reader Statement := do
  let locking ← if ← isDialect [.mysql] then lockStatement else pure none
  match locking with
  | some s => return s
  | none =>
    if ← queryAhead <||> keywordAhead "VALUES" <||> tokenAhead .leftParen then
      return .query (← n.query)
    else
      let l ← next
      match l.map Lexeme.token with
      | some (.word w) =>
        match ← statementOf n (if w.quote.isSome then "" else w.keyword) with
        | some s => return s
        | none => failExpected "an SQL statement" l
      | _ => failExpected "an SQL statement" l

end SqlAudit.Sql
