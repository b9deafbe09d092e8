import SqlAudit.Sql.Read.Definition

/-!
Reading the statements on roles, policies and privileges.
-/

namespace SqlAudit.Sql

open Reader

/-! ### Policies -/

def conditionAfter (n : Nested) (ks : List String) : Reader (List Expr) := do
  return (← afterKeywords ks (parenthesized (anyExpr n))).toList

def policyConditions (n : Nested) : Reader (List Expr) := do
  let _ ← afterKeyword "TO" (commaList owner)
  let shown ← conditionAfter n ["USING"]
  return shown ++ (← conditionAfter n ["WITH", "CHECK"])

def createPolicy (n : Nested) : Reader Statement := do
  let _ ← ident
  expectKeyword "ON"
  let _ ← path
  let _ ← afterKeyword "AS" (expectOneOf ["PERMISSIVE", "RESTRICTIVE"])
  let _ ← afterKeyword "FOR" (expectOneOf ["ALL", "SELECT", "INSERT", "UPDATE", "DELETE"])
  plainStatement (← policyConditions n)

def alterPolicy (n : Nested) : Reader Statement := do
  let _ ← ident
  expectKeyword "ON"
  let _ ← path
  if ← keyword "RENAME" then
    expectKeyword "TO"
    let _ ← ident
    plainStatement []
  else plainStatement (← policyConditions n)

/-! ### Roles -/

def roleRights : List String :=
  ["LOGIN", "NOLOGIN", "INHERIT", "NOINHERIT", "BYPASSRLS", "NOBYPASSRLS", "CREATEDB",
   "NOCREATEDB", "CREATEROLE", "NOCREATEROLE", "SUPERUSER", "NOSUPERUSER", "REPLICATION",
   "NOREPLICATION"]

def rolePassword (n : Nested) : Reader (List Expr) := do
  if ← keyword "NULL" then return [] else return [← anyExpr n]

def roleOption (n : Nested) : Reader (Option (List Expr)) := do
  if ← anyOf roleRights then return some []
  else if ← keyword "PASSWORD" then return some (← rolePassword n)
  else if ← keyword "CONNECTION" then
    expectKeyword "LIMIT"
    signedNumber
    return some []
  else if ← keyword "VALID" then
    expectKeyword "UNTIL"
    let _ ← value
    return some []
  else return none

def roleMembers : Reader (Option (List Expr)) := do
  if ← keyword "IN" then
    if !(← anyOf ["ROLE", "GROUP"]) then expected "ROLE or GROUP after IN"
    let _ ← commaList ident
    return some []
  else if ← anyOf ["ROLE", "USER", "ADMIN"] then
    let _ ← commaList ident
    return some []
  else return none

def createRole (n : Nested) : Reader Statement := do
  let _ ← ifNotExists
  let _ ← commaList path
  let _ ← keyword "WITH"
  if ← isDialect [.postgresql] then
    let options ← manyAhead do
      match ← roleOption n with
      | some es => return some es
      | none => roleMembers
    plainStatement options.flatten
  else plainStatement []

def alterRole (n : Nested) : Reader Statement := do
  if !(← isDialect [.postgresql]) then
    fail (.text "ALTER ROLE is only support for PostgreSqlDialect and MsSqlDialect")
  let _ ← ident
  let within ← afterKeywords ["IN", "DATABASE"] path
  if ← keyword "RENAME" then
    if ← keyword "TO" then
      let _ ← ident
      plainStatement []
    else expected "TO after RENAME"
  else if ← keyword "SET" then
    let _ ← path
    if ← keywords ["FROM", "CURRENT"] then plainStatement []
    else if ← take .equal <||> keyword "TO" then
      if ← keyword "DEFAULT" then plainStatement [] else plainStatement [← anyExpr n]
    else expected "'TO' or '=' or 'FROM CURRENT'"
  else if ← keyword "RESET" then
    if !(← keyword "ALL") then
      let _ ← path
    plainStatement []
  else if within.isSome then expected "'SET' or 'RESET'"
  else
    let _ ← keyword "WITH"
    let options ← manyAhead (roleOption n)
    if options.isEmpty then expected "option"
    plainStatement options.flatten

/-! ### Privileges -/

def privilege : Reader Unit := do
  let l ← peek
  if ← anyOf ["INSERT", "REFERENCES", "SELECT", "UPDATE"] then
    let _ ← optionalColumnNames
  else if ← anyOf ["CONNECT", "CREATE", "DELETE", "EXECUTE", "TEMPORARY", "TRIGGER", "TRUNCATE",
      "USAGE"] then return ()
  else failExpected "a privilege keyword" l

def privilegesOn : Reader Unit := do
  if ← keyword "ALL" then
    let _ ← keyword "PRIVILEGES"
  else
    let _ ← commaList privilege
  expectKeyword "ON"
  if ← keywords ["ALL", "TABLES", "IN", "SCHEMA"] <||>
      keywords ["ALL", "SEQUENCES", "IN", "SCHEMA"] then
    let _ ← commaList path
  else
    let _ ← oneOf ["SEQUENCE", "SCHEMA", "TABLE"]
    let _ ← commaList path

def grant : Reader Statement := do
  privilegesOn
  expectKeyword "TO"
  let _ ← commaList ident
  let _ ← keywords ["WITH", "GRANT", "OPTION"]
  let _ ← afterKeywords ["GRANTED", "BY"] ident
  plainStatement []

def revoke : Reader Statement := do
  privilegesOn
  expectKeyword "FROM"
  let _ ← commaList ident
  let _ ← afterKeywords ["GRANTED", "BY"] ident
  dropBehavior
  plainStatement []

end SqlAudit.Sql
