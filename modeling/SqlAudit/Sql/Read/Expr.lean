import SqlAudit.Sql.Read.Form
import SqlAudit.Sql.Read.Strength
import SqlAudit.Sql.Read.TypeName

/-!
Reading expressions by the strength of their operators. An operand is read first; then, as long as
an operator ahead binds more strongly than the place asks for, the operator takes the operand. A
word that starts a form of its own is read as a name where the form cannot be read.
-/

namespace SqlAudit.Sql

open Reader

/-! ### Values -/

def Token.literalText : Token → Option String
  | .number n long => some (if long then n ++ "L" else n)
  | .string .single s => some (quoteText '\x27' s)
  | .string .double s => some (quoteText '"' s)
  | .string .escaped s => some ("E'" ++ escaped s ++ "'")
  | .string form s => some (form.fences.1 ++ s ++ form.fences.2)
  | .dollarString tag s => some (Token.dollarString tag s).render
  | .placeholder s => some s
  | _ => none
where
  escapedChar (c : Char) : List Char :=
    match c with
    | '\x27' => ['\\', '\x27']
    | '\\' => ['\\', '\\']
    | '\n' => ['\\', 'n']
    | '\t' => ['\\', 't']
    | '\r' => ['\\', 'r']
    | _ => [c]
  escaped (s : String) : String := String.ofList (s.toList.flatMap escapedChar)

def markedPlaceholder (mark : String) : Reader String := do
  let l ← next
  match l.map Lexeme.token with
  | some (.word w) => return mark ++ w.value
  | some (.number n false) => return mark ++ n
  | _ => failExpected "placeholder" l

def value : Reader String := do
  let l ← next
  match l.map Lexeme.token with
  | some (.word w) =>
    if w.quote.isSome then return quoteText '"' w.value
    else if w.keyword == "TRUE" then return "true"
    else if w.keyword == "FALSE" then return "false"
    else if w.keyword == "NULL" then return "NULL"
    else failExpected "a concrete value" l
  | some (.operator ":") => markedPlaceholder ":"
  | some (.operator "@") => markedPlaceholder "@"
  | some t =>
    match t.literalText with
    | some s => return s
    | none => failExpected "a value" l
  | none => failExpected "a value" l

/-- The text of lexemes with spaces between them, none inside parentheses and before commas. -/
def lexemesText : List Lexeme → String
  | [] => ""
  | [l] => l.token.render
  | l :: l' :: rest =>
    let tight := l.token == .leftParen || l.token == .period || l'.token == .period ||
      l'.token == .rightParen || l'.token == .comma
    l.token.render ++ (if tight then "" else " ") ++ lexemesText (l' :: rest)

def queryWithText (n : Nested) : Reader (Query × String) := do
  let before ← ahead
  let q ← n.query
  let after ← ahead
  return (q, lexemesText (before.take (before.length - after.length)))

def queryAhead : Reader Bool := return (← keywordAhead "SELECT") || (← keywordAhead "WITH")

/-! ### Units of time -/

def timeUnits : List String :=
  ["YEAR", "MONTH", "WEEK", "DAY", "DAYOFWEEK", "DAYOFYEAR", "DATE", "DATETIME", "HOUR",
   "MINUTE", "SECOND", "CENTURY", "DECADE", "DOW", "DOY", "EPOCH", "ISODOW", "ISOYEAR",
   "ISOWEEK", "JULIAN", "MICROSECOND", "MICROSECONDS", "MILLENIUM", "MILLENNIUM", "MILLISECOND",
   "MILLISECONDS", "NANOSECOND", "NANOSECONDS", "QUARTER", "TIME", "TIMEZONE", "TIMEZONE_ABBR",
   "TIMEZONE_HOUR", "TIMEZONE_MINUTE", "TIMEZONE_REGION"]

def timeUnit : Reader String := do
  let l ← next
  match l.map Lexeme.token with
  | some (.word w) =>
    if w.quote.isNone && w.keyword == "WEEK" && (← isGeneric) then
      if ← take .leftParen then
        let day ← ident
        close
        return "WEEK(" ++ day.render ++ ")"
      else return "WEEK"
    else if w.quote.isNone && timeUnits.contains w.keyword then return w.keyword
    else if ← isGeneric then return w.render
    else failExpected "date/time field" l
  | some (.string .single s) =>
    if ← isGeneric then return quoteText '\x27' s else failExpected "date/time field" l
  | _ => failExpected "date/time field" l

def intervalUnits : Reader String := do
  let units ←
    if ← aheadIs (·.isAnyKeyword timeUnits) then pure (" " ++ (← timeUnit))
    else if ← isDialect [.mysql] then do
      fail (.textAt "INTERVAL requires a unit after the literal value" (← peek))
    else pure ""
  if units == " SECOND" then return units ++ (← TypeName.optionalScale)
  else
    let precision ← TypeName.optionalPrecision
    if ← keyword "TO" then
      let last ← timeUnit
      let fraction ← if last == "SECOND" then TypeName.optionalPrecision else pure ""
      return units ++ precision ++ " TO " ++ last ++ fraction
    else return units ++ precision

/-! ### Lists of expressions -/

def anyExpr (n : Nested) : Reader Expr := n.expr 0

def exprList (n : Nested) : Reader (List Expr) := commaList (anyExpr n)

def orderKey (n : Nested) : Reader (List Part) := do
  let e ← anyExpr n
  let direction ← oneOf ["ASC", "DESC"]
  let nulls ←
    if ← keywords ["NULLS", "FIRST"] then pure " NULLS FIRST"
    else if ← keywords ["NULLS", "LAST"] then pure " NULLS LAST"
    else pure ""
  let fill ←
    if ← isGeneric <&&> keywords ["WITH", "FILL"] then do
      let bounds ← ["FROM", "TO", "STEP"].mapM fun k => afterKeyword k (anyExpr n)
      pure (bounds.filterMap id)
    else pure []
  let text := (direction.map (" " ++ ·)).getD "" ++ nulls
  return [.expr e, .text text] ++ fill.map Part.expr

def orderKeys (n : Nested) : Reader (List Part) :=
  return Part.separated ", " (← commaList (orderKey n))

inductive Item
  | star
  | qualifiedStar (qualifier : Path)
  | expr (e : Expr)

def qualifiedStar : Reader (Option Path) := do
  match (← ahead) with
  | l :: { token := .period, .. } :: _ =>
    match l.token with
    | .word _ | .string .single _ =>
      let _ ← next
      starAfter [] l ((← ahead).length)
    | _ => return none
  | _ => return none
where
  /-- The rest of a qualified star, `parts` and the name `l` having been read. -/
  starAfter (parts : Path) (l : Lexeme) : Nat → Reader (Option Path)
    | 0 => return none
    | fuel + 1 => do
      let parts := parts ++ l.ident?.toList
      if ← take .period then
        let l' ← next
        match l'.map Lexeme.token, l' with
        | some .star, _ => return some parts
        | some (.word _), some l' => starAfter parts l' fuel
        | some (.string .single _), some l' => starAfter parts l' fuel
        | _, _ => failExpected "an identifier or a '*' after '.'" l'
      else return none

def item (n : Nested) : Reader Item := do
  let start ← ahead
  if ← take .star then return .star
  match ← qualifiedStar with
  | some qualifier => return .qualifiedStar qualifier
  | none =>
    set start
    return .expr (← anyExpr n)

def Item.parts : Item → List Part
  | star => [.text "*"]
  | qualifiedStar qualifier => [.text (renderPath qualifier ++ ".*")]
  | expr e => [.expr e]

/-! ### Windows -/

def frameBound (n : Nested) (interval : Reader Expr) : Reader (List Part) := do
  if ← keywords ["CURRENT", "ROW"] then return [.text "CURRENT ROW"]
  else
    let rows ←
      if ← keyword "UNBOUNDED" then pure [Part.text "UNBOUNDED"]
      else
        match ← peekToken with
        | some (.string .single _) => pure [Part.expr (← interval)]
        | _ => pure [Part.expr (← anyExpr n)]
    if ← keyword "PRECEDING" then return rows ++ [.text " PRECEDING"]
    else if ← keyword "FOLLOWING" then return rows ++ [.text " FOLLOWING"]
    else expected "PRECEDING or FOLLOWING"

def windowSpec (n : Nested) (interval : Reader Expr) : Reader (List Part) := do
  let name ←
    match ← peekToken with
    | some (.word w) => if w.isPlainName then pure (some (← ident)) else pure none
    | _ => pure none
  let partition ← afterKeywords ["PARTITION", "BY"] (exprList n)
  let order ← afterKeywords ["ORDER", "BY"] (orderKeys n)
  let frame ←
    if ← take .rightParen then pure none
    else do
      let units ←
        match ← oneOf ["ROWS", "RANGE", "GROUPS"] with
        | some u => pure u
        | none => do
          let l ← next
          failExpected "ROWS, RANGE, GROUPS" l
      let bounds ←
        if ← keyword "BETWEEN" then do
          let low ← frameBound n interval
          expectKeyword "AND"
          let high ← frameBound n interval
          pure ([.text " BETWEEN "] ++ low ++ [.text " AND "] ++ high)
        else do
          let low ← frameBound n interval
          pure ([.text " "] ++ low)
      close
      pure (some (.text units :: bounds))
  let clauses :=
    (name.map fun i => [Part.text i.render]).toList ++
      (partition.map fun es => .text "PARTITION BY " :: Part.list es).toList ++
      (order.map fun ps => .text "ORDER BY " :: ps).toList ++ frame.toList
  return [.text "("] ++ Part.separated " " clauses ++ [.text ")"]

/-! ### Calls -/

def argument (n : Nested) : Reader (List Part) := do
  let named ← attempt do
    let name ← ident
    let op ←
      if ← takeOperator "=>" then pure "=>"
      else if ← isGeneric <&&> takeOperator ":=" then pure ":="
      else expected "argument operator"
    let i ← item n
    return .text (name.render ++ " " ++ op ++ " ") :: i.parts
  match named with
  | some parts => return parts
  | none => return (← item n).parts

def nullTreatment : Reader (Option String) := do
  match ← oneOf ["RESPECT", "IGNORE"] with
  | some k =>
    expectKeyword "NULLS"
    return some (" " ++ k ++ " NULLS")
  | none => return none

/-- The rest of an argument list after its opening parenthesis, and whether it says how nulls are
treated. -/
def argumentList (n : Nested) : Reader (List Part × Bool) := do
  if ← take .rightParen then return ([.text "()"], false)
  let quantifier ← peek
  let all ← keyword "ALL"
  let distinct ← keyword "DISTINCT"
  if all && distinct then fail (.textAt "Cannot specify both ALL and DISTINCT" quantifier)
  let arguments ← commaList (argument n)
  let nulls ← if ← isGeneric then nullTreatment else pure none
  let order ← afterKeywords ["ORDER", "BY"] (orderKeys n)
  let limit ← afterKeyword "LIMIT" (anyExpr n)
  let bound ←
    if ← genericKeyword "HAVING" then do
      let kind ← expectOneOf ["MIN", "MAX"]
      pure (some (kind, ← anyExpr n))
    else pure none
  let separator ←
    if ← keywordIn [.generic, .mysql] "SEPARATOR" then pure (some (← value))
    else pure none
  close
  let quantifier := if all then "ALL " else if distinct then "DISTINCT " else ""
  let clauses :=
    (nulls.map fun s => [Part.text s]).toList ++
      (order.map fun ps => .text " ORDER BY " :: ps).toList ++
      (limit.map fun e => [Part.text " LIMIT ", .expr e]).toList ++
      (bound.map fun b => [Part.text (" HAVING " ++ b.1 ++ " "), .expr b.2]).toList ++
      (separator.map fun s => [Part.text (" SEPARATOR " ++ s)]).toList
  return ([.text ("(" ++ quantifier)] ++ Part.separated ", " arguments ++ clauses.flatten ++
    [.text ")"], nulls.isSome)

def call (n : Nested) (interval : Reader Expr) (name : Path) : Reader Expr := do
  open_
  let first ← argumentList n
  let second ←
    if ← isGeneric <&&> take .leftParen then pure (some (← argumentList n)) else pure none
  let (parameters, arguments) := match second with
    | some list => (first.1, list)
    | none => ([], first)
  let within ←
    if ← keywords ["WITHIN", "GROUP"] then do
      open_
      expectKeywords ["ORDER", "BY"]
      let keys ← orderKeys n
      close
      pure ([.text " WITHIN GROUP (ORDER BY "] ++ keys ++ [.text ")"])
    else pure []
  let filter ←
    if ← keywordIn [.generic, .postgresql] "FILTER" <&&> take .leftParen <&&> keyword "WHERE" then do
      let e ← anyExpr n
      close
      pure [Part.text " FILTER (WHERE ", .expr e, .text ")"]
    else pure []
  let nulls ← if arguments.2 then pure none else nullTreatment
  let window ←
    if ← keyword "OVER" then
      if ← take .leftParen then pure (.text " OVER " :: (← windowSpec n interval))
      else pure [Part.text (" OVER " ++ (← ident).render)]
    else pure []
  let segments :=
    [[.text (renderPath name)], parameters, arguments.1, filter, [.text (nulls.getD "")], window,
     within]
  return .ofSegments segments [0, 1, 2, 6, 3, 4, 5]

def timeFunction (n : Nested) (name : Ident) : Reader Expr := do
  let arguments ← if ← take .leftParen then pure (← argumentList n).1 else pure []
  return .ofParts (.text name.render :: arguments)

/-! ### Forms that start with a word -/

def existsExpr (n : Nested) (negated : Bool) : Reader Expr := do
  open_
  let (q, text) ← queryWithText n
  close
  return .ofQuery [] (if negated then "NOT EXISTS (" else "EXISTS (") text ")" q

def caseExpr (n : Nested) : Reader Expr := do
  let operand ←
    if ← keyword "WHEN" then pure none
    else do
      let e ← anyExpr n
      expectKeyword "WHEN"
      pure (some e)
  let arms ← repeatWhile (keyword "WHEN") (do
    let condition ← anyExpr n
    expectKeyword "THEN"
    let result ← anyExpr n
    return (condition, result)) ((← ahead).length + 1)
  let otherwise ← afterKeyword "ELSE" (anyExpr n)
  expectKeyword "END"
  let segments :=
    [[.text "CASE"], (operand.map fun e => [Part.text " ", .expr e]).getD []] ++
      arms.map (fun a => [Part.text " WHEN ", .expr a.1]) ++
      arms.map (fun a => [Part.text " THEN ", .expr a.2]) ++
      [(otherwise.map fun e => [Part.text " ELSE ", .expr e]).getD [], [.text " END"]]
  let count := arms.length
  let printed := [0, 1] ++ (List.range count).flatMap (fun i => [i + 2, i + 2 + count]) ++
    [2 * count + 2, 2 * count + 3]
  return .ofSegments segments printed

def castExpr (n : Nested) (name : String) : Reader Expr := do
  open_
  let e ← anyExpr n
  expectKeyword "AS"
  let type ← typeName
  let format ←
    if ← keyword "FORMAT" then do
      let v ← value
      let zone ← afterKeywords ["AT", "TIME", "ZONE"] value
      pure (" FORMAT " ++ v ++ (zone.map (" AT TIME ZONE " ++ ·)).getD "")
    else pure ""
  close
  return .ofParts [.text (name ++ "("), .expr e, .text (" AS " ++ type.text ++ format ++ ")")]

def convertExpr (n : Nested) : Reader Expr := do
  open_
  let e ← anyExpr n
  if ← keyword "USING" then
    let charset ← path
    close
    return .ofParts
      [.text "CONVERT(", .expr e, .text (" USING " ++ renderPath charset ++ ")")]
  else
    expectToken .comma
    let type ← typeName
    let charset ← afterKeywords ["CHARACTER", "SET"] path
    close
    let tail := (charset.map fun c => " CHARACTER SET " ++ renderPath c).getD ""
    return .ofParts [.text "CONVERT(", .expr e, .text (", " ++ type.text ++ tail ++ ")")]

def extractExpr (n : Nested) : Reader Expr := do
  open_
  let unit ← timeUnit
  let middle ←
    if ← keyword "FROM" then pure " FROM "
    else if (← take .comma) && (← isGeneric) then pure ", "
    else fail (.text "Expected 'FROM' or ','")
  let e ← anyExpr n
  close
  return .ofParts [.text ("EXTRACT(" ++ unit ++ middle), .expr e, .text ")"]

def roundExpr (n : Nested) (name : String) : Reader Expr := do
  open_
  let e ← anyExpr n
  let tail ←
    if ← keyword "TO" then pure (" TO " ++ (← timeUnit))
    else if ← take .comma then
      match ← peekToken with
      | some (.number _ _) => pure (", " ++ (← value))
      | _ => do
        let _ ← value
        fail (.text "Scale field can only be of number type")
    else pure ""
  close
  return .ofParts [.text (name ++ "("), .expr e, .text (tail ++ ")")]

def positionExpr (n : Nested) (interval : Reader Expr) (name : Ident) : Reader Expr := do
  let d ← dialect
  let form ← attempt do
    open_
    let e ← n.expr (Binding.between.strength d)
    expectKeyword "IN"
    let within ← anyExpr n
    close
    return Expr.ofParts [.text "POSITION(", .expr e, .text " IN ", .expr within, .text ")"]
  match form with
  | some e => return e
  | none => call n interval [name]

def substringExpr (n : Nested) : Reader Expr := do
  open_
  let e ← anyExpr n
  let comma ← take .comma
  let start ←
    if comma then pure (some (← anyExpr n)) else afterKeyword "FROM" (anyExpr n)
  let length ←
    if ← keyword "FOR" then pure (some (← anyExpr n))
    else when' (← take .comma) (anyExpr n)
  close
  let part (word : String) (e : Option Expr) : List Part :=
    (e.map fun e => [Part.text (if comma then ", " else " " ++ word ++ " "), .expr e]).getD []
  return .ofParts
    ([.text "SUBSTRING(", .expr e] ++ part "FROM" start ++ part "FOR" length ++ [.text ")"])

def overlayExpr (n : Nested) : Reader Expr := do
  open_
  let e ← anyExpr n
  expectKeyword "PLACING"
  let what ← anyExpr n
  expectKeyword "FROM"
  let start ← anyExpr n
  let length ← afterKeyword "FOR" (anyExpr n)
  close
  let tail := (length.map fun e => [Part.text " FOR ", .expr e]).getD []
  return .ofParts
    ([.text "OVERLAY(", .expr e, .text " PLACING ", .expr what, .text " FROM ", .expr start] ++
      tail ++ [.text ")"])

def trimExpr (n : Nested) : Reader Expr := do
  open_
  let side ← oneOf ["BOTH", "LEADING", "TRAILING"]
  let sideText := (side.map (· ++ " ")).getD ""
  let e ← anyExpr n
  if ← keyword "FROM" then
    let trimmed ← anyExpr n
    close
    return .ofSegments
      [[.text ("TRIM(" ++ sideText)], [.expr trimmed, .text ")"], [.expr e, .text " FROM "]]
      [0, 2, 1]
  else if (← take .comma) && (← isGeneric) then
    let characters ← exprList n
    close
    return .ofParts ([.text "TRIM(", .expr e, .text ", "] ++ Part.list characters ++ [.text ")"])
  else
    close
    return .ofParts [.text ("TRIM(" ++ sideText), .expr e, .text ")"]

def arrayExpr (n : Nested) (name : String) : Reader Expr := do
  let items ← if ← tokenAhead (.operator "]") then pure [] else exprList n
  expectToken (.operator "]")
  return .ofParts ([.text (name ++ "[")] ++ Part.list items ++ [.text "]"])

def notExpr (n : Nested) : Reader Expr := do
  let d ← dialect
  if ← keyword "EXISTS" then existsExpr n true
  else return .prefixed "NOT " (← n.expr (Binding.negation.strength d))

/-- A search in the text of columns, which are no expressions here. -/
def matchExpr : Reader Expr := do
  let columns ← columnNames
  expectKeyword "AGAINST"
  open_
  let text ← value
  let mode ←
    if ← keywords ["IN", "NATURAL", "LANGUAGE", "MODE", "WITH", "QUERY", "EXPANSION"] then
      pure " IN NATURAL LANGUAGE MODE WITH QUERY EXPANSION"
    else if ← keywords ["IN", "NATURAL", "LANGUAGE", "MODE"] then
      pure " IN NATURAL LANGUAGE MODE"
    else if ← keywords ["IN", "BOOLEAN", "MODE"] then pure " IN BOOLEAN MODE"
    else if ← keywords ["WITH", "QUERY", "EXPANSION"] then pure " WITH QUERY EXPANSION"
    else pure ""
  close
  let names := ", ".intercalate (columns.map Ident.render)
  return .literal ("MATCH (" ++ names ++ ") AGAINST (" ++ text ++ mode ++ ")")

def structExpr (n : Nested) : Reader Expr := do
  open_
  let fields ← commaList do
    let e ← anyExpr n
    match ← afterKeyword "AS" ident with
    | some name => return [Part.expr e, .text (" AS " ++ name.render)]
    | none => return [Part.expr e]
  close
  return .ofParts ([.text "STRUCT("] ++ Part.separated ", " fields ++ [.text ")"])

def dictionaryExpr (n : Nested) : Reader Expr := do
  let field : Reader (List Part) := do
    let name ← ident
    expectToken (.operator ":")
    let e ← anyExpr n
    return [.text (name.render ++ ": "), .expr e]
  let fields ← if ← tokenAhead (.operator "\x7d") then pure [] else commaList field
  expectToken (.operator "\x7d")
  return .ofParts ([.text "\x7b"] ++ Part.separated ", " fields ++ [.text "\x7d"])

def neverNames : List String := ["EXISTS", "INTERVAL", "STRUCT", "TRIM"]

def wordForm (n : Nested) (interval : Reader Expr) (w : Word) (name : Ident) :
    Reader (Option Expr) := do
  let d ← dialect
  if w.quote.isSome then return none
  match w.keyword with
  | "TRUE" => return some (.literal "true")
  | "FALSE" => return some (.literal "false")
  | "NULL" => return some (.literal "NULL")
  | "CURRENT_CATALOG" | "CURRENT_USER" | "SESSION_USER" | "USER" =>
    return if d == .mysql then none else some (.ofParts [.text name.render])
  | "CURRENT_TIMESTAMP" | "CURRENT_TIME" | "CURRENT_DATE" | "LOCALTIME" | "LOCALTIMESTAMP" =>
    return some (← timeFunction n name)
  | "CASE" => return some (← caseExpr n)
  | "CONVERT" => return some (← convertExpr n)
  | "CAST" => return some (← castExpr n "CAST")
  | "TRY_CAST" => return some (← castExpr n "TRY_CAST")
  | "SAFE_CAST" => return some (← castExpr n "SAFE_CAST")
  | "EXISTS" => return some (← existsExpr n false)
  | "EXTRACT" => return some (← extractExpr n)
  | "CEIL" => return some (← roundExpr n "CEIL")
  | "FLOOR" => return some (← roundExpr n "FLOOR")
  | "POSITION" =>
    if ← tokenAhead .leftParen then return some (← positionExpr n interval name)
    else return none
  | "SUBSTRING" => return some (← substringExpr n)
  | "OVERLAY" => return some (← overlayExpr n)
  | "TRIM" => return some (← trimExpr n)
  | "INTERVAL" => return some (← interval)
  | "ARRAY" =>
    if ← takeOperator "[" then return some (← arrayExpr n "ARRAY")
    else if ← take .leftParen then
      let (q, text) ← queryWithText n
      close
      return some (.ofQuery [] "ARRAY(" text ")" q)
    else return none
  | "NOT" => return some (← notExpr n)
  | "PRIOR" =>
    if (← read).connecting then
      return some (.prefixed "PRIOR " (← n.expr (Binding.sum.strength d)))
    else return none
  | "MATCH" => if d == .postgresql then return none else return some (← matchExpr)
  | "STRUCT" => if d == .generic then return some (← structExpr n) else return none
  | _ => return none

def nameParts : Nat → Path → Reader (Path × Bool)
  | 0, parts => return (parts, false)
  | fuel + 1, parts => do
    if ← take .period then
      let l ← next
      match l.map Lexeme.token with
      | some (.word w) =>
        nameParts fuel (parts ++ [w.ident ((l.map Lexeme.range).getD .origin)])
      | some (.string .single s) => nameParts fuel (parts ++ [.ofString '\x27' s])
      | some .star =>
        if ← isDialect [.postgresql] then return (parts, true)
        else failExpected "an identifier after '.'" l
      | _ => failExpected "an identifier or a '*' after '.'" l
    else return (parts, false)

def nameExpr (n : Nested) (interval : Reader Expr) (w : Word) (name : Ident) : Reader Expr := do
  match ← peekToken with
  | some .leftParen => call n interval [name]
  | some .period =>
    let (parts, star) ← nameParts ((← ahead).length + 1) [name]
    if star then return .literal (renderPath parts ++ ".*")
    else if ← tokenAhead .leftParen then call n interval parts
    else return .path parts
  | some (.string form s) =>
    if w.value.startsWith "_" && [StringForm.single, .double, .hex].contains form then
      let _ ← next
      let text := (Token.string form s).literalText
      return .literal (w.value ++ " " ++ text.getD "")
    else return .name name
  | _ => return .name name

def wordExpr (n : Nested) (interval : Reader Expr) (w : Word) (range : Range) : Reader Expr :=
  fun setting s =>
    let name := w.ident range
    let asName := nameExpr n interval w name setting s
    match wordForm n interval w name setting s with
    | .ok (some e, rest) => .ok (e, rest)
    | .ok (none, _) => asName
    | .error e =>
      let reserved := neverNames.contains w.keyword &&
        !(setting.dialect == .postgresql && w.keyword == "INTERVAL")
      if reserved then .error e
      else
        match asName with
        | .ok r => .ok r
        | .error .tooDeep => .error .tooDeep
        | .error _ => .error e

/-! ### Operands -/

def typedString (interval : Reader Expr) : Reader Expr := do
  let type ← typeName
  match type.kind with
  | .interval => interval
  | .custom => fail (.text "not a built-in type")
  | .builtin => return .literal (type.text ++ " " ++ quoteText '\x27' (← literalString))

def parenExpr (n : Nested) : Reader Expr := do
  let inner ←
    if ← queryAhead then do
      let (q, text) ← queryWithText n
      pure (Expr.ofQuery [] "(" text ")" q)
    else do
      let es ← exprList n
      pure (.ofParts ([.text "("] ++ Part.list es ++ [.text ")"]))
  close
  if ← take .period then
    let l ← next
    match l.map Lexeme.token with
    | some (.word w) => return .suffixed inner ("." ++ w.render)
    | found =>
      let shown := (found.map Token.render).getD "EOF"
      fail (.textAt ("Expected identifier, found: " ++ shown) l)
  else return inner

def markExpr (n : Nested) (l : Option Lexeme) (mark : String) : Reader Expr := do
  let d ← dialect
  let unary (b : Binding) : Reader Expr := return .prefixed mark (← n.expr (b.strength d))
  match mark with
  | "[" => arrayExpr n ""
  | "+" | "-" => unary .product
  | "!!" | "|/" | "||/" | "~" =>
    if d == .postgresql then unary .sum else failExpected "an expression" l
  | "@" =>
    if d == .postgresql then unary .sum else return .literal (← markedPlaceholder mark)
  | ":" => return .literal (← markedPlaceholder mark)
  | "\x7b" => if d == .generic then dictionaryExpr n else failExpected "an expression" l
  | _ => failExpected "an expression" l

def bareOperand (n : Nested) (interval : Reader Expr) : Reader Expr := do
  let l ← next
  match l.map Lexeme.token with
  | some (.word w) => wordExpr n interval w ((l.map Lexeme.range).getD .origin)
  | some .leftParen => parenExpr n
  | some (.operator mark) => markExpr n l mark
  | some t =>
    match t.literalText with
    | some s => return .literal s
    | none => failExpected "an expression" l
  | none => failExpected "an expression" l

/-- The rest of an interval, given the reader of its value. MySQL takes any expression. -/
def intervalOf (n : Nested) (bare : Reader Expr) : Reader Expr := do
  let e ← if ← isDialect [.mysql] then anyExpr n else bare
  let units ← intervalUnits
  return .ofParts [.text "INTERVAL ", .expr e, .text units]

/-- An operand. `fuel` bounds the nesting of intervals. -/
def operand (n : Nested) : Nat → Reader Expr
  | 0 => fail .tooDeep
  | fuel + 1 => do
    let interval := intervalOf n (operand n fuel)
    let typed ←
      match ← peekToken with
      | some (.word _) => attempt (typedString interval)
      | _ => pure none
    match typed with
    | some e => return e
    | none =>
      let e ← bareOperand n interval
      if ← keyword "COLLATE" then return .suffixed e (" COLLATE " ++ renderPath (← path))
      else return e

def intervalExpr (n : Nested) : Reader Expr := do
  intervalOf n (operand n ((← ahead).length + 1))

/-! ### Operators -/

def infixText (d : Dialect) (l : Lexeme) : Reader (Option String) := do
  match l.token with
  | .equal => return some "="
  | .notEqual => return some "<>"
  | .star => return some "*"
  | .operator text =>
    if text == "==" then return some "="
    else if ["::", "!", "["].contains text then return none
    else if text == "#" && d != .postgresql then return none
    else return some text
  | .word w =>
    match w.keyword with
    | "AND" | "OR" | "XOR" | "DIV" | "OVERLAPS" => return some w.keyword
    | "OPERATOR" =>
      if d == .mysql then return none
      else
        open_
        let names ← repeatWhile (take .period)
          (return ((← next).map (·.token.render)).getD "EOF") ((← ahead).length + 1)
        close
        return some ("OPERATOR(" ++ ".".intercalate names ++ ")")
    | _ => return none
  | _ => return none

def quantifiable : List String := ["=", "<>", "<", ">", "<=", ">="]

def binaryExpr (n : Nested) (strength : Nat) (left : Expr) (op : String) (l : Lexeme) :
    Reader Expr := do
  match ← oneOf ["ANY", "ALL", "SOME"] with
  | some quantifier =>
    let right ←
      if (← tokenAhead .leftParen) && ((← keywordAheadAt 1 "SELECT") || (← keywordAheadAt 1 "WITH"))
      then pure [Part.expr (← n.expr strength)]
      else do
        open_
        let e ← n.expr strength
        close
        pure [Part.text "(", .expr e, .text ")"]
    if quantifiable.contains op then
      return .ofParts ([.expr left, .text (" " ++ op ++ " " ++ quantifier)] ++ right)
    else
      fail (.textAt
        ("Expected one of [=, >, <, =>, =<, !=] as comparison operator, found: " ++ op) (some l))
  | none => return .binary left op (← n.expr strength)

def testExpr (n : Nested) (e : Expr) : Reader Expr := do
  let tests : List (List String) :=
    [["NULL"], ["NOT", "NULL"], ["TRUE"], ["NOT", "TRUE"], ["FALSE"], ["NOT", "FALSE"],
     ["UNKNOWN"], ["NOT", "UNKNOWN"]]
  let rec test : List (List String) → Reader (Option String)
    | [] => return none
    | t :: ts => do if ← keywords t then return some (" ".intercalate t) else test ts
  match ← test tests with
  | some text => return .suffixed e (" IS " ++ text)
  | none =>
    if ← keywords ["DISTINCT", "FROM"] then
      return .binary e "IS DISTINCT FROM" (← anyExpr n)
    else if ← keywords ["NOT", "DISTINCT", "FROM"] then
      return .binary e "IS NOT DISTINCT FROM" (← anyExpr n)
    else expected "[NOT] NULL or TRUE|FALSE or [NOT] DISTINCT FROM after IS"

def inExpr (n : Nested) (e : Expr) (negation : String) : Reader Expr := do
  if ← keyword "UNNEST" then
    let array ← parenthesized (anyExpr n)
    return .ofParts
      [.expr e, .text (" " ++ negation ++ "IN UNNEST("), .expr array, .text ")"]
  else
    open_
    let opening := " " ++ negation ++ "IN ("
    let result ←
      if ← queryAhead then do
        let (q, text) ← queryWithText n
        pure (Expr.ofQuery [.expr e] opening text ")" q)
      else do
        let es ← exprList n
        pure (.ofParts ([.expr e, .text opening] ++ Part.list es ++ [.text ")"]))
    close
    return result

def patternExpr (n : Nested) (e : Expr) (word : String) : Reader Expr := do
  let d ← dialect
  let pattern ← n.expr (Binding.like.strength d)
  let escape ← afterKeyword "ESCAPE" literalString
  let tail := (escape.map fun s => " ESCAPE '" ++ s ++ "'").getD ""
  return .ofParts [.expr e, .text (" " ++ word ++ " "), .expr pattern, .text tail]

def membershipExpr (n : Nested) (e : Expr) : Reader Expr := do
  let d ← dialect
  let negation := if ← keyword "NOT" then "NOT " else ""
  match ← oneOf ["REGEXP", "RLIKE"] with
  | some k =>
    return .binary e (negation ++ k) (← n.expr (Binding.like.strength d))
  | none =>
    if ← keyword "IN" then inExpr n e negation
    else if ← keyword "BETWEEN" then
      let low ← n.expr (Binding.between.strength d)
      expectKeyword "AND"
      let high ← n.expr (Binding.between.strength d)
      return .ofParts
        [.expr e, .text (" " ++ negation ++ "BETWEEN "), .expr low, .text " AND ", .expr high]
    else
      match ← oneOf ["LIKE", "ILIKE"] with
      | some k =>
        let any := if ← keyword "ANY" then " ANY" else ""
        patternExpr n e (negation ++ k ++ any)
      | none =>
        if ← keywords ["SIMILAR", "TO"] then patternExpr n e (negation ++ "SIMILAR TO")
        else expected "IN or BETWEEN after NOT"

def subscriptExpr (n : Nested) (e : Expr) : Reader Expr := do
  let closing := Token.operator "]"
  let build (parts : List Part) : Expr := .ofParts ([.expr e, .text "["] ++ parts ++ [.text "]"])
  let colon := Token.operator ":"
  let low ← if ← take colon then pure none else pure (some (← anyExpr n))
  let lowParts := (low.map fun e => [Part.expr e]).getD []
  if ← take closing then
    return if low.isSome then build lowParts else build [.text ":"]
  if low.isSome then expectToken colon
  if ← take closing then return build (lowParts ++ [.text ":"])
  let high ← anyExpr n
  let parts := lowParts ++ [.text ":", .expr high]
  if ← take closing then return build parts
  expectToken colon
  if ← take closing then return build (parts ++ [.text ":"])
  let stride ← anyExpr n
  expectToken closing
  return build (parts ++ [.text ":", .expr stride])

def strayOperatorName (text : String) : String :=
  match text with
  | "#" => "Sharp"
  | "!" => "ExclamationMark"
  | _ => text

def infixExpr (n : Nested) (strength : Nat) (left : Expr) : Reader Expr := do
  let d ← dialect
  let start ← ahead
  match ← next with
  | none => expected "an expression"
  | some l =>
    match ← infixText d l with
    | some op => binaryExpr n strength left op l
    | none =>
      match l.token with
      | .word w =>
        match w.keyword with
        | "IS" => testExpr n left
        | "AT" =>
          expectKeywords ["TIME", "ZONE"]
          return .binary left "AT TIME ZONE" (← n.expr strength)
        | _ =>
          set start
          membershipExpr n left
      | .operator "::" => return .suffixed left ("::" ++ (← typeName).text)
      | .operator "[" => subscriptExpr n left
      | .operator text =>
        if text == "!" && d == .postgresql then return .suffixed left "!"
        else fail (.textAt ("No infix parser for token " ++ strayOperatorName text) (some l))
      | _ => fail (.textAt "No infix parser for token" (some l))

/-- Lets operators take the operand read so far as long as they bind more strongly than
`strength`. -/
def operators (n : Nested) (strength : Nat) : Nat → Expr → Reader Expr
  | 0, e => return e
  | fuel + 1, e => do
    let ahead := strengthAhead (← dialect) (← ahead)
    if strength < ahead then operators n strength fuel (← infixExpr n ahead e) else return e

def exprAt (n : Nested) (strength : Nat) : Reader Expr := do
  let first ← operand n ((← ahead).length + 1)
  operators n strength (← ahead).length first

end SqlAudit.Sql
