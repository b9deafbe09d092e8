import SqlAudit.Sql.Read.Basic
import SqlAudit.Sql.Render

/-!
The types of columns. A type of the standard or of a dialect is printed in upper case with its
arguments; any other name is a type of the user and is printed as written.
-/

namespace SqlAudit.Sql

open Reader

inductive TypeKind
  | builtin
  | custom
  | interval
  deriving DecidableEq, Repr

structure TypeName where
  text : String
  kind : TypeKind
  deriving DecidableEq, Repr

namespace TypeName

def plainTypes : List String :=
  ["BOOLEAN", "BOOL", "REAL", "FLOAT4", "FLOAT8", "FLOAT64", "UUID", "DATE", "JSON", "JSONB",
   "REGCLASS", "TEXT", "TINYTEXT", "MEDIUMTEXT", "LONGTEXT", "BYTEA", "TINYBLOB", "MEDIUMBLOB",
   "LONGBLOB", "TRIGGER", "INT64"]

def mixedTypes : List (String × String) :=
  [("FLOAT32", "Float32"), ("DATE32", "Date32"), ("INT16", "Int16"), ("INT32", "Int32"),
   ("INT128", "Int128"), ("INT256", "Int256"), ("UINT8", "UInt8"), ("UINT16", "UInt16"),
   ("UINT32", "UInt32"), ("UINT64", "UInt64"), ("UINT128", "UInt128"), ("UINT256", "UInt256")]

def sizedTypes : List String :=
  ["FLOAT", "CLOB", "BINARY", "VARBINARY", "BLOB", "BYTES", "DATETIME", "STRING"]

def integerTypes : List String :=
  ["TINYINT", "INT2", "SMALLINT", "MEDIUMINT", "INT", "INT4", "INT8", "INTEGER", "BIGINT"]

def lengthTypes : List String := ["VARCHAR", "NVARCHAR"]

def exactTypes : List String := ["NUMERIC", "DECIMAL", "DEC", "BIGNUMERIC", "BIGDECIMAL"]

def arguments (text : String) : String := "(" ++ text ++ ")"

def optionalPrecision : Reader String := do
  if ← take .leftParen then
    let n ← literalNat
    close
    return arguments (toString n)
  else return ""

def optionalScale : Reader String := do
  if ← take .leftParen then
    let n ← literalNat
    let scale ← when' (← take .comma) literalNat
    close
    return arguments (toString n ++ (scale.map fun s => "," ++ toString s).getD "")
  else return ""

def optionalLength : Reader String := do
  if ← take .leftParen then
    let text ←
      if ← keyword "MAX" then pure "MAX"
      else do
        let n ← literalNat
        match ← oneOf ["CHARACTERS", "OCTETS"] with
        | some unit => pure (toString n ++ " " ++ unit)
        | none => pure (toString n)
    close
    return arguments text
  else return ""

def stringList : Reader String := do
  open_
  let values ← commaList do
    let l ← next
    match l.map Lexeme.token with
    | some (.string .single s) => return quoteText '\x27' s
    | _ => failExpected "a string" l
  close
  return arguments (", ".intercalate values)

def enumMembers : Reader String := do
  open_
  let values ← commaList do
    let name := quoteText '\x27' (← literalString)
    if ← take .equal then
      let l ← next
      match l.map Lexeme.token with
      | some (.number n _) => return name ++ " = " ++ n
      | _ => failExpected "a value" l
    else return name
  close
  return arguments (", ".intercalate values)

def precisionWithZone : Reader String := do
  open_
  let n ← literalNat
  let zone ← when' (← take .comma) literalString
  close
  return arguments (toString n ++ (zone.map fun z => ", " ++ quoteText '\x27' z).getD "")

def optionalZone : Reader String := do
  if ← keyword "WITH" then
    expectKeywords ["TIME", "ZONE"]
    return " WITH TIME ZONE"
  else if ← keyword "WITHOUT" then
    expectKeywords ["TIME", "ZONE"]
    return " WITHOUT TIME ZONE"
  else return ""

def characterType (name : String) : Reader String := do
  if ← keyword "VARYING" then return name ++ " VARYING" ++ (← optionalLength)
  else if ← keywords ["LARGE", "OBJECT"] then
    return name ++ " LARGE OBJECT" ++ (← optionalPrecision)
  else return name ++ (← optionalLength)

def modifierList : Nat → Reader (List String)
  | 0 => return []
  | fuel + 1 => do
    let l ← next
    match l.map Lexeme.token with
    | some (.word w) => return w.render :: (← modifierList fuel)
    | some (.number n _) => return n :: (← modifierList fuel)
    | some (.string .single s) => return s :: (← modifierList fuel)
    | some .comma => modifierList fuel
    | some .rightParen => return []
    | _ => failExpected "type modifiers" l

def customType : Reader TypeName := do
  let name ← path
  let modifiers ←
    if ← take .leftParen then modifierList ((← ahead).length + 1) else pure []
  let text := renderPath name ++
    if modifiers.isEmpty then "" else arguments (", ".intercalate modifiers)
  return ⟨text, .custom⟩

/-- The rest of a type whose name `keyword` has been read, `none` where it is no built-in type. -/
def builtinType (keyword : String) : Reader (Option String) := do
  if plainTypes.contains keyword then return some keyword
  match mixedTypes.find? (·.1 == keyword) with
  | some (_, name) => return some name
  | none => pure ()
  if sizedTypes.contains keyword then return some (keyword ++ (← optionalPrecision))
  if integerTypes.contains keyword then
    let width ← optionalPrecision
    let unsigned ← Reader.keyword "UNSIGNED"
    return some (keyword ++ width ++ if unsigned then " UNSIGNED" else "")
  if lengthTypes.contains keyword then return some (keyword ++ (← optionalLength))
  if exactTypes.contains keyword then return some (keyword ++ (← optionalScale))
  match keyword with
  | "DOUBLE" =>
    return some (if ← Reader.keyword "PRECISION" then "DOUBLE PRECISION" else "DOUBLE")
  | "CHARACTER" => return some (← characterType keyword)
  | "CHAR" => return some (← characterType keyword)
  | "BIT" =>
    let name := if ← Reader.keyword "VARYING" then "BIT VARYING" else "BIT"
    return some (name ++ (← optionalPrecision))
  | "TIMESTAMP" => return some (keyword ++ (← optionalPrecision) ++ (← optionalZone))
  | "TIME" => return some (keyword ++ (← optionalPrecision) ++ (← optionalZone))
  | "TIMESTAMPTZ" => return some (keyword ++ (← optionalPrecision))
  | "TIMETZ" => return some (keyword ++ (← optionalPrecision))
  | "ENUM" | "ENUM8" | "ENUM16" => return some (keyword ++ (← enumMembers))
  | "SET" => return some (keyword ++ (← stringList))
  | "DATETIME64" => return some ("DateTime64" ++ (← precisionWithZone))
  | "FIXEDSTRING" =>
    open_
    let n ← literalNat
    close
    return some ("FixedString" ++ arguments (toString n))
  | _ => return none

def arraySuffix (text : String) : Nat → Reader String
  | 0 => return text
  | fuel + 1 => do
    if ← takeOperator "[" then
      let size ← if ← isDialect [.generic, .postgresql] then attempt literalNat else pure none
      expectToken (.operator "]")
      arraySuffix (text ++ "[" ++ (size.map toString).getD "" ++ "]") fuel
    else return text

/-- The text of a type within another one, and whether the sign that closed it, two of them written
as one, closes the type around it too. -/
abbrev Inner := String × Bool

/-- The sign that closes the types within angle brackets; the answer says whether it closes the
type around them too. -/
def closeAngle (closed : Bool) : Reader Bool := do
  if closed then return false
  else if ← takeOperator ">" then return false
  else if ← takeOperator ">>" then return true
  else expected ">"

def fieldType (inner : Reader Inner) : Reader Inner := do
  let isWord (t : Option Token) : Bool := match t with
    | some (.word _) => true
    | _ => false
  if isWord (← peekToken) && isWord (← peekTokenAt 1) then
    let name ← ident
    let (text, closed) ← inner
    return (name.render ++ " " ++ text, closed)
  else inner

/-- The types of fields of the type that begins at `start`; only the last one may close it. -/
def fieldTypes (start : Option Lexeme) (field : Reader Inner) : Nat → Reader (List String × Bool)
  | 0 => return ([], false)
  | fuel + 1 => do
    let (text, closed) ← field
    if ← take .comma then
      if closed then fail (.textAt "unmatched > in STRUCT definition" start)
      let (texts, closed) ← fieldTypes start field fuel
      return (text :: texts, closed)
    else return ([text], closed)

def closedType (inner : Reader Inner) : Reader String := do
  let (text, closed) ← inner
  if closed then fail (.text ("unmatched > after parsing data type " ++ text))
  return text

def typeArguments (r : Reader (List String)) : Reader String := do
  open_
  let texts ← r
  close
  return arguments (", ".intercalate texts)

/-- The rest of a type made of other types, `none` where the keyword at `start`, which has been
read, begins no such type. -/
def compositeType (inner : Reader Inner) (start : Option Lexeme) (keyword : String) :
    Reader (Option Inner) := do
  let whole := closedType inner
  if keyword == "ARRAY" then
    expectToken (.operator "<")
    let (text, closed) ← inner
    return some ("ARRAY<" ++ text ++ ">", ← closeAngle closed)
  if !(← isGeneric) then return none
  match keyword with
  | "STRUCT" =>
    if ← takeOperator "<" then
      let (texts, closed) ← fieldTypes start (fieldType inner) (← ahead).length
      return some ("STRUCT<" ++ ", ".intercalate texts ++ ">", ← closeAngle closed)
    else return some ("STRUCT", false)
  | "UNION" =>
    let texts ← typeArguments (commaList do return (← ident).render ++ " " ++ (← whole))
    return some ("UNION" ++ texts, false)
  | "NULLABLE" => return some ("Nullable" ++ (← typeArguments (return [← whole])), false)
  | "LOWCARDINALITY" =>
    return some ("LowCardinality" ++ (← typeArguments (return [← whole])), false)
  | "MAP" =>
    let texts ← typeArguments do
      let key ← whole
      expectToken .comma
      return [key, ← whole]
    return some ("Map" ++ texts, false)
  | "TUPLE" =>
    let texts ← typeArguments (commaList do return (← fieldType inner).1)
    return some ("Tuple" ++ texts, false)
  | _ => return none

def nested : Nat → Reader (TypeName × Bool)
  | 0 => fail .tooDeep
  | fuel + 1 => do
    let l ← peek
    let (base, closed) ←
      match l.map Lexeme.token with
      | some (.word w) =>
        if w.quote.isSome then pure (← customType, false)
        else do
          let start ← ahead
          let _ ← next
          if w.keyword == "INTERVAL" then pure (⟨"INTERVAL", .interval⟩, false)
          else
            match ← builtinType w.keyword with
            | some text => pure (⟨text, .builtin⟩, false)
            | none =>
              let inner : Reader Inner := do
                let (type, closed) ← nested fuel
                return (type.text, closed)
              match ← compositeType inner l w.keyword with
              | some (text, closed) => pure (⟨text, .builtin⟩, closed)
              | none =>
                set start
                pure (← customType, false)
      | _ => do
        let _ ← next
        failExpected "a data type name" l
    let text ← arraySuffix base.text (← ahead).length
    return (⟨text, if text == base.text then base.kind else .builtin⟩, closed)

end TypeName

def typeName : Reader TypeName := do
  let (type, closed) ← TypeName.nested ((← ahead).length + 1)
  if closed then fail (.text ("unmatched > after parsing data type " ++ type.text))
  return type

end SqlAudit.Sql
