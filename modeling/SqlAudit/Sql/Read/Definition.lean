import SqlAudit.Sql.Read.Table

/-!
Reading the statements that create, change and drop what a database holds besides rows.
-/

namespace SqlAudit.Sql

open Reader

/-- A statement that says nothing about tables, with the expressions in it. -/
def plainStatement (es : List Expr) : Reader Statement := return .other [] es none

/-! ### Views -/

def viewColumn (n : Nested) : Reader Ident := do
  let name ← ident
  if ← isGeneric <&&> (keywordAhead "OPTIONS" <||> keywordAhead "COMMENT") then
    let _ ← columnOption n
  return name

def viewColumns (n : Nested) : Reader (List Ident) := do
  if ← take .leftParen then
    if ← take .rightParen then return []
    else
      let columns ← commaList (viewColumn n)
      close
      return columns
  else return []

def viewComment : Reader Unit := do
  expectToken .equal
  let l ← next
  match l.map Lexeme.token with
  | some (.string .single _) => return ()
  | _ => failExpected "string literal" l

def createView (n : Nested) : Reader Statement := do
  let _ ← keyword "MATERIALIZED"
  expectKeyword "VIEW"
  let kept ← isGeneric <&&> ifNotExists
  let name ← path
  let columns ← viewColumns n
  let options ← optionsAfter n ["WITH"]
  if ← keyword "CLUSTER" then
    expectKeyword "BY"
    let _ ← optionalColumnNames
  let more ← if ← isGeneric then optionsAfter n ["OPTIONS"] else pure []
  if ← isGeneric then
    let _ ← afterKeyword "TO" path
    let _ ← afterKeyword "COMMENT" viewComment
  expectKeyword "AS"
  let query ← n.query
  let _ ← isGeneric <&&> keywords ["WITH", "NO", "SCHEMA", "BINDING"]
  return .define (.view name columns kept) [] (some query)
    (if more.isEmpty then options else more)

def alterView (n : Nested) : Reader Statement := do
  let _ ← path
  let _ ← optionalColumnNames
  let options ← optionsAfter n ["WITH"]
  expectKeyword "AS"
  let query ← n.query
  return .other [] options (some query)

/-! ### Schemas, indexes, sequences and types -/

def createSchema : Reader Statement := do
  let _ ← ifNotExists
  if ← keyword "AUTHORIZATION" then
    return .define (.schema (some (← ident))) [] none []
  else
    let name ← path
    let _ ← afterKeyword "AUTHORIZATION" ident
    return .define (.schema name.getLast?) [] none []

def createDatabase : Reader Statement := do
  let _ ← ifNotExists
  let _ ← path
  let _ ← manyAhead do
    match ← oneOf ["LOCATION", "MANAGEDLOCATION"] with
    | some _ => return some (← literalString)
    | none => return none
  plainStatement []

def createIndex (n : Nested) : Reader Statement := do
  let _ ← keyword "CONCURRENTLY"
  let kept ← ifNotExists
  let unnamed ← pure !kept <&&> keyword "ON"
  if !unnamed then
    let _ ← path
    expectKeyword "ON"
  let _ ← path
  let _ ← afterKeyword "USING" ident
  let keys ← parenthesized (orderKeys n)
  let _ ← afterKeyword "INCLUDE" (parenthesized (commaList ident))
  nullsDistinct
  let options ←
    if ← keywordIn [.generic, .postgresql] "WITH" then exprGroup n else pure []
  let filter ← afterKeyword "WHERE" (anyExpr n)
  plainStatement (Part.operands keys ++ options ++ filter.toList)

def alterIndex : Reader Statement := do
  let _ ← path
  if ← keyword "RENAME" then
    if ← keyword "TO" then
      let _ ← path
      plainStatement []
    else expected "TO after RENAME"
  else expected "RENAME after ALTER INDEX"

def createExtension : Reader Statement := do
  let _ ← ifNotExists
  let _ ← ident
  if ← keyword "WITH" then
    let _ ← afterKeyword "SCHEMA" ident
    let _ ← afterKeyword "VERSION" ident
    let _ ← keyword "CASCADE"
  plainStatement []

def createSequence : Reader Statement := do
  let _ ← ifNotExists
  let _ ← path
  let _ ← afterKeyword "AS" typeName
  sequenceOptions
  if ← keywords ["OWNED", "BY"] then
    if !(← keyword "NONE") then
      let _ ← path
  plainStatement []

/-- The attributes of a type; a comma may follow the last one. -/
def typeAttributes : Nat → Reader Unit
  | 0 => return ()
  | fuel + 1 => do
    let _ ← ident
    let _ ← typeName
    let _ ← afterKeyword "COLLATE" path
    let comma ← take .comma
    if ← take .rightParen then return ()
    else if comma then typeAttributes fuel
    else expected "',' or ')' after attribute definition"

def typeLabels : Reader Unit := do
  if !(← take .leftParen) then expected "'(' after CREATE TYPE AS ENUM"
  if !(← tokenAhead .rightParen) then
    let _ ← commaList ident
  if !(← take .rightParen) then expected "')' after CREATE TYPE AS ENUM"

def createType : Reader Statement := do
  let _ ← path
  expectKeyword "AS"
  if ← keywordIn [.postgresql] "ENUM" then typeLabels
  else if ← take .leftParen then
    if !(← take .rightParen) then typeAttributes ((← ahead).length + 1)
  plainStatement []

/-! ### Functions and triggers -/

def functionArgument (n : Nested) : Reader (List Expr) := do
  let _ ← oneOf ["IN", "OUT", "INOUT"]
  let first ← typeName
  if first.kind == .custom then
    let _ ← typeName
  if ← keyword "DEFAULT" <||> take .equal then return [← anyExpr n] else return []

def functionArguments (n : Nested) : Reader (List Expr) := parenthesized do
  if ← tokenAhead .rightParen then return []
  else return (← commaList (functionArgument n)).flatten

def functionText : Reader Unit := do
  match ← peekToken with
  | some (.dollarString _ _) =>
    let _ ← next
  | _ =>
    let _ ← literalString

structure FunctionClauses where
  body : Bool
  language : Bool
  behavior : Bool
  onNull : Bool
  parallel : Bool

def functionClauses (n : Nested) (c : FunctionClauses) : Nat → Reader (List Expr)
  | 0 => return []
  | fuel + 1 => do
    let once (seen : Bool) (name : String) : Reader Unit :=
      if seen then fail (.text (name ++ " specified more than once")) else return ()
    let behaviors := ["IMMUTABLE", "STABLE", "VOLATILE"]
    if ← keyword "AS" then
      once c.body "AS"
      functionText
      functionClauses n { c with body := true } fuel
    else if ← keyword "LANGUAGE" then
      once c.language "LANGUAGE"
      let _ ← ident
      functionClauses n { c with language := true } fuel
    else if ← anyOf behaviors then
      once c.behavior "IMMUTABLE | STABLE | VOLATILE"
      functionClauses n { c with behavior := true } fuel
    else if ← keywords ["CALLED", "ON", "NULL", "INPUT"] <||>
        keywords ["RETURNS", "NULL", "ON", "NULL", "INPUT"] <||> keyword "STRICT" then
      once c.onNull "CALLED ON NULL INPUT | RETURNS NULL ON NULL INPUT | STRICT"
      functionClauses n { c with onNull := true } fuel
    else if ← keyword "PARALLEL" then
      once c.parallel "PARALLEL \x7b UNSAFE | RESTRICTED | SAFE \x7d"
      if !(← anyOf ["UNSAFE", "RESTRICTED", "SAFE"]) then
        expected "one of UNSAFE | RESTRICTED | SAFE"
      functionClauses n { c with parallel := true } fuel
    else if ← keyword "RETURN" then
      once c.body "RETURN"
      let e ← anyExpr n
      return e :: (← functionClauses n { c with body := true } fuel)
    else return []

def createFunction (n : Nested) : Reader Statement := do
  let _ ← path
  let arguments ← functionArguments n
  let _ ← afterKeyword "RETURNS" typeName
  let body ← functionClauses n ⟨false, false, false, false, false⟩ ((← ahead).length + 1)
  plainStatement (arguments ++ body)

def functionName (n : Nested) : Reader (List Expr) := do
  let _ ← path
  if ← tokenAhead .leftParen then functionArguments n else return []

def triggerEvent : Reader Unit := do
  let k ← expectOneOf ["INSERT", "UPDATE", "DELETE", "TRUNCATE"]
  if ← pure (k == "UPDATE") <&&> keyword "OF" then
    let _ ← commaList ident

def triggerTable : Reader (Option Path) := do
  if ← anyOf ["OLD", "NEW"] <&&> keyword "TABLE" then
    let _ ← keyword "AS"
    return some (← path)
  else return none

def createTrigger (n : Nested) : Reader Statement := do
  let _ ← path
  if (← expectOneOf ["BEFORE", "AFTER", "INSTEAD"]) == "INSTEAD" then expectKeyword "OF"
  let _ ← repeatWhile (keyword "OR") triggerEvent ((← ahead).length + 1)
  expectKeyword "ON"
  let _ ← path
  if ← keyword "FROM" then loosePath ((← ahead).length + 1)
  constraintCharacteristics
  if ← keyword "REFERENCING" then
    let _ ← manyAhead triggerTable
  expectKeyword "FOR"
  let _ ← keyword "EACH"
  let _ ← expectOneOf ["ROW", "STATEMENT"]
  let condition ← afterKeyword "WHEN" (anyExpr n)
  expectKeyword "EXECUTE"
  let _ ← expectOneOf ["FUNCTION", "PROCEDURE"]
  plainStatement (condition.toList ++ (← functionName n))

/-! ### DROP -/

def dropBehavior : Reader Unit := do
  let _ ← oneOf ["CASCADE", "RESTRICT"]

def dropFunction (n : Nested) : Reader Statement := do
  let _ ← ifExists
  let arguments ← commaList (functionName n)
  dropBehavior
  plainStatement arguments.flatten

def dropFromTable (name : Reader Unit) : Reader Statement := do
  let _ ← ifExists
  name
  expectKeyword "ON"
  let _ ← path
  dropBehavior
  plainStatement []

/-- The rest of DROP for what has a name of its own; only tables and views matter to a catalog. -/
def dropNamed (kind : String) : Reader Statement := do
  let _ ← ifExists
  let names ← commaList path
  let start ← peek
  let cascade ← keyword "CASCADE"
  let restrict ← keyword "RESTRICT"
  let purge ← keyword "PURGE"
  if cascade && restrict then
    fail (.textAt "Cannot specify both CASCADE and RESTRICT in DROP" start)
  else if kind == "ROLE" && (cascade || restrict || purge) then
    fail (.textAt "Cannot specify CASCADE, RESTRICT, or PURGE in DROP ROLE" start)
  else if kind == "TABLE" || kind == "VIEW" then return .define (.drop names) [] none []
  else plainStatement []

end SqlAudit.Sql
