import SqlAudit.Sql.Read.Query

/-!
Reading what a table consists of: its columns with their types and options, and its constraints.
-/

namespace SqlAudit.Sql

open Reader

/-! ### Parts in common -/

def ifNotExists : Reader Bool := keywords ["IF", "NOT", "EXISTS"]

def ifExists : Reader Bool := keywords ["IF", "EXISTS"]

def optionalIdent : Reader (Option Ident) := attempt ident

def exprGroup (n : Nested) : Reader (List Expr) := parenthesized (exprList n)

def optionList (n : Nested) : Reader (List Expr) := parenthesized do
  if ← tokenAhead .rightParen then return []
  else commaList do
    let _ ← ident
    expectToken .equal
    anyExpr n

def optionsAfter (n : Nested) (ks : List String) : Reader (List Expr) := do
  return (← afterKeywords ks (optionList n)).getD []

def signedNumber : Reader Unit := do
  let _ ← takeIf fun t => t == .operator "+" || t == .operator "-"
  let l ← peek
  let _ ← value
  match l.map Lexeme.token with
  | some (.number _ _) | some (.placeholder _) | some (.operator _) => return ()
  | _ => failExpected "literal number" l

def characteristics : Nat → (deferral moment enforcement : Bool) → Reader Unit
  | 0, _, _, _ => return ()
  | fuel + 1, deferral, moment, enforcement => do
    if ← pure !deferral <&&> (keywords ["NOT", "DEFERRABLE"] <||> keyword "DEFERRABLE") then
      characteristics fuel true moment enforcement
    else if ← pure !moment <&&> keyword "INITIALLY" then
      match ← oneOf ["DEFERRED", "IMMEDIATE"] with
      | some _ => characteristics fuel deferral true enforcement
      | none => expected "one of DEFERRED or IMMEDIATE"
    else if ← pure !enforcement <&&> (keyword "ENFORCED" <||> keywords ["NOT", "ENFORCED"]) then
      characteristics fuel deferral moment true
    else return ()

def constraintCharacteristics : Reader Unit := characteristics 4 false false false

def referenceAction : Reader Unit := do
  if ← anyOf ["RESTRICT", "CASCADE"] then return ()
  else if ← keywords ["SET", "NULL"] <||> keywords ["NO", "ACTION"] <||> keywords ["SET", "DEFAULT"]
  then return ()
  else expected "one of RESTRICT, CASCADE, SET NULL, NO ACTION or SET DEFAULT"

def referenceActions : Nat → (onDelete onUpdate : Bool) → Reader Unit
  | 0, _, _ => return ()
  | fuel + 1, onDelete, onUpdate => do
    if ← pure !onDelete <&&> keywords ["ON", "DELETE"] then
      referenceAction
      referenceActions fuel true onUpdate
    else if ← pure !onUpdate <&&> keywords ["ON", "UPDATE"] then
      referenceAction
      referenceActions fuel onDelete true
    else return ()

def referenceTail : Reader Unit := do
  referenceActions 3 false false
  constraintCharacteristics

/-! ### Generated columns -/

def sequenceOptions : Reader Unit := do
  if ← keyword "INCREMENT" then
    let _ ← keyword "BY"
    signedNumber
  bound "MINVALUE"
  bound "MAXVALUE"
  if ← keyword "START" then
    let _ ← keyword "WITH"
    signedNumber
  if ← keyword "CACHE" then signedNumber
  let _ ← keywords ["NO", "CYCLE"] <||> keyword "CYCLE"
where
  bound (word : String) : Reader Unit := do
    if ← keyword word then signedNumber
    else
      let _ ← keywords ["NO", word]

def computedColumn (n : Nested) : Reader Expr := do
  let e ← parenthesized (anyExpr n)
  let _ ← oneOf ["STORED", "VIRTUAL"]
  return e

def generatedColumn (n : Nested) : Reader (Option (List Expr)) := do
  if ← keywords ["ALWAYS", "AS", "IDENTITY"] <||> keywords ["BY", "DEFAULT", "AS", "IDENTITY"] then
    if ← take .leftParen then
      sequenceOptions
      close
    return some []
  else if ← keywords ["ALWAYS", "AS"] <&&> tokenAhead .leftParen then
    if ← isDialect [.postgresql] then
      let e ← parenthesized (anyExpr n)
      if ← keyword "STORED" then return some [e] else expected "STORED"
    else return some [← computedColumn n]
  else return none

/-! ### Options of columns -/

/-- An option of a column with the expressions in it. Words of other dialects are passed over where
they stand for an option. -/
def columnOption (n : Nested) : Reader (Option (ColumnOption × List Expr)) := do
  let other (es : List Expr) : Reader (Option (ColumnOption × List Expr)) :=
    return some (.other, es)
  if ← keywords ["CHARACTER", "SET"] then
    let _ ← path
    other []
  else if ← keywords ["NOT", "NULL"] then return some (.notNull, [])
  else if ← keyword "COMMENT" then
    let l ← next
    match l.map Lexeme.token with
    | some (.string .single _) => other []
    | _ => failExpected "string" l
  else if ← keyword "NULL" then return some (.null, [])
  else if ← keyword "DEFAULT" then
    let e ← anyExpr n
    return some (.default e.render, [e])
  else if ← genericKeyword "MATERIALIZED" <||> genericKeyword "ALIAS" then other [← anyExpr n]
  else if ← genericKeyword "EPHEMERAL" then
    if ← tokenAhead .comma <||> tokenAhead .rightParen then other [] else other [← anyExpr n]
  else if ← keywords ["PRIMARY", "KEY"] then
    constraintCharacteristics
    return some (.primaryKey, [])
  else if ← keyword "UNIQUE" then
    constraintCharacteristics
    other []
  else if ← keyword "REFERENCES" then
    let _ ← path
    let _ ← optionalColumnNames
    referenceTail
    other []
  else if ← keyword "CHECK" then other [← parenthesized (anyExpr n)]
  else if ← keyword "AUTO_INCREMENT" <&&> isDialect [.mysql, .generic] then other []
  else if ← keyword "AUTOINCREMENT" <&&> isGeneric then other []
  else if ← keyword "ASC" <&&> isGeneric then other []
  else if ← keyword "DESC" <&&> isGeneric then other []
  else if ← keywords ["ON", "UPDATE"] <&&> isDialect [.mysql, .generic] then other [← anyExpr n]
  else if ← keyword "GENERATED" then
    return (← generatedColumn n).map fun es => (.other, es)
  else if ← genericKeyword "OPTIONS" then other (← optionList n)
  else if ← keyword "AS" <&&> isDialect [.mysql, .generic] then other [← computedColumn n]
  else if ← keyword "IDENTITY" <&&> isGeneric then
    if ← take .leftParen then
      signedNumber
      expectToken .comma
      signedNumber
      close
    other []
  else if ← isGeneric <&&> keywords ["ON", "CONFLICT"] then
    let _ ← expectOneOf ["ROLLBACK", "ABORT", "FAIL", "IGNORE", "REPLACE"]
    other []
  else return none

def columnOptions (n : Nested) : Reader (List (ColumnOption × List Expr)) := do
  let options ← manyAhead do
    if ← keyword "CONSTRAINT" then
      let _ ← ident
      match ← columnOption n with
      | some option => return some [option]
      | none => expected "constraint details after CONSTRAINT <name>"
    else
      match ← columnOption n with
      | some option => return some [option]
      | none =>
        if ← keywordIn [.mysql, .generic] "COLLATE" then
          let _ ← path
          return some []
        else return none
  return options.flatten

def columnSpec (n : Nested) : Reader (ColumnSpec × List Expr) := do
  let name ← ident
  let type ← typeName
  let _ ← afterKeyword "COLLATE" path
  let options ← columnOptions n
  return (⟨name, type.text, options.map (·.1)⟩, options.flatMap (·.2))

/-! ### Constraints -/

structure Constraint where
  keys : List Ident
  checks : List Expr

def indexMethod : Reader Unit := do
  if ← keyword "USING" then
    if !(← anyOf ["BTREE", "HASH"]) then expected "index type \x7bBTREE | HASH\x7d"

def indexOptions : Reader Unit := do
  let _ ← manyAhead do
    if ← keywordAhead "USING" then
      indexMethod
      return some ()
    else if ← keyword "COMMENT" then
      let _ ← literalString
      return some ()
    else return none

def keyColumns : Reader (List Ident) := do
  let _ ← optionalIdent
  indexMethod
  let names ← columnNames
  indexOptions
  constraintCharacteristics
  return names

def nullsDistinct : Reader Unit := do
  if ← keyword "NULLS" then
    let _ ← keyword "NOT"
    expectKeyword "DISTINCT"

def constraint (n : Nested) : Reader (Option Constraint) := do
  let name ← afterKeyword "CONSTRAINT" ident
  let mysqlLike ← isDialect [.generic, .mysql]
  let start ← peek
  if ← keyword "UNIQUE" then
    let display ← oneOf ["KEY", "INDEX"]
    if !mysqlLike && display.isSome then
      expected "\x60index_name\x60 or \x60(column_name [, ...])\x60"
    nullsDistinct
    let _ ← keyColumns
    return some ⟨[], []⟩
  else if ← keyword "PRIMARY" then
    expectKeyword "KEY"
    return some ⟨← keyColumns, []⟩
  else if ← keyword "FOREIGN" then
    expectKeyword "KEY"
    let _ ← columnNames
    expectKeyword "REFERENCES"
    let _ ← path
    let _ ← columnNames
    referenceTail
    return some ⟨[], []⟩
  else if ← keyword "CHECK" then return some ⟨[], [← parenthesized (anyExpr n)]⟩
  else if ← pure (mysqlLike && name.isNone) <&&> anyOf ["INDEX", "KEY"] then
    if !(← keywordAhead "USING") then
      let _ ← optionalIdent
    indexMethod
    let _ ← columnNames
    return some ⟨[], []⟩
  else if ← pure mysqlLike <&&> anyOf ["FULLTEXT", "SPATIAL"] then
    match name with
    | some name =>
      failExpected "FULLTEXT or SPATIAL option without constraint name"
        (start.map fun l => { l with token := .word (.bare name.render) })
    | none =>
      let _ ← oneOf ["KEY", "INDEX"]
      let _ ← optionalIdent
      let _ ← columnNames
      return some ⟨[], []⟩
  else if name.isSome then expected "PRIMARY, UNIQUE, FOREIGN, or CHECK"
  else return none

/-! ### The columns of a table -/

structure TableParts where
  columns : List ColumnSpec
  keys : List Ident
  columnExprs : List Expr
  checks : List Expr

namespace TableParts

def empty : TableParts := ⟨[], [], [], []⟩

def append (a b : TableParts) : TableParts :=
  ⟨a.columns ++ b.columns, a.keys ++ b.keys, a.columnExprs ++ b.columnExprs, a.checks ++ b.checks⟩

end TableParts

def tablePart (n : Nested) : Reader TableParts := do
  match ← constraint n with
  | some c => return ⟨[], c.keys, [], c.checks⟩
  | none =>
    match ← peekToken with
    | some (.word _) =>
      let (column, es) ← columnSpec n
      return ⟨[column], [], es, []⟩
    | _ => expected "column name or constraint definition"

def tableParts (n : Nested) : Reader TableParts := do
  if ← take .leftParen then
    if ← take .rightParen then return .empty
    else
      let parts ← repeatWhile (do
        if ← take .comma then return true
        else if ← take .rightParen then return false
        else expected "',' or ')' after column definition") (tablePart n) ((← ahead).length + 1)
      return parts.foldl TableParts.append .empty
  else return .empty

end SqlAudit.Sql
