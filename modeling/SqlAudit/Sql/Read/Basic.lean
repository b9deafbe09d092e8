import SqlAudit.Sql.Token.Keywords
import SqlAudit.Sql.Token.Scan
import SqlAudit.Sql.Tree

/-!
Readers of SQL: they take lexemes from the front of those ahead and answer with what they read, or
with the reason why they cannot. Reading nests to a bounded depth, so a reader gets the readers of
the next depth as an argument.
-/

namespace SqlAudit.Sql

inductive ReadError
  | scan (error : ScanError)
  | expected (what : String) (found : Option Lexeme)
  | text (message : String)
  | textAt (message : String) (found : Option Lexeme)
  | tooDeep
  deriving DecidableEq, Repr

namespace ReadError

def placeWords (found : Option Lexeme) : String :=
  match found with
  | some l => Position.words l.range.start
  | none => ""

def message (e : ReadError) : String :=
  "sql parser error: " ++
    match e with
    | scan error => error.message
    | expected what found =>
      let token := match found with
        | some l => l.token.render
        | none => "EOF"
      "Expected: " ++ what ++ ", found: " ++ token ++ placeWords found
    | text message => message
    | textAt message found => message ++ placeWords found
    | tooDeep => "recursion limit exceeded"

end ReadError

/-- How a text is read: its dialect, and whether rows are being connected with those before. -/
structure Setting where
  dialect : Dialect
  connecting : Bool
  deriving DecidableEq, Repr

abbrev Reader := ReaderT Setting (StateT (List Lexeme) (Except ReadError))

/-- The readers of one depth of nesting. Expressions are read down to a binding strength. -/
structure Nested where
  expr : Nat → Reader Expr
  query : Reader Query
  statement : Reader Statement

namespace Reader

variable {α β : Type}

def dialect : Reader Dialect := return (← read).dialect

def isDialect (ds : List Dialect) : Reader Bool := return ds.contains (← dialect)

def isGeneric : Reader Bool := isDialect [.generic]

def ahead : Reader (List Lexeme) := get

def peek : Reader (Option Lexeme) := return (← get).head?

def peekToken : Reader (Option Token) := return (← get).head?.map (·.token)

def peekTokenAt (n : Nat) : Reader (Option Token) := return ((← get)[n]?).map (·.token)

def next : Reader (Option Lexeme) := do
  match ← get with
  | [] => return none
  | l :: rest =>
    set rest
    return some l

def fail (e : ReadError) : Reader α := throw e

def failExpected (what : String) (found : Option Lexeme) : Reader α := throw (.expected what found)

def expected (what : String) : Reader α := do throw (.expected what (← peek))

/-- Reads with `r`, or takes nothing if it fails. Nesting too deep is not undone. -/
def attempt (r : Reader α) : Reader (Option α) := fun setting s =>
  match r setting s with
  | .ok (a, rest) => .ok (some a, rest)
  | .error .tooDeep => .error .tooDeep
  | .error _ => .ok (none, s)

def aheadIs (p : Token → Bool) : Reader Bool := return (← peekToken).any p

def keywordAhead (k : String) : Reader Bool := aheadIs (·.isKeyword k)

def keywordAheadAt (n : Nat) (k : String) : Reader Bool :=
  return (← peekTokenAt n).any (·.isKeyword k)

def tokenAhead (t : Token) : Reader Bool := aheadIs (· == t)

def takeIf (p : Token → Bool) : Reader Bool := do
  if ← aheadIs p then
    let _ ← next
    return true
  else return false

def take (t : Token) : Reader Bool := takeIf (· == t)

def takeOperator (text : String) : Reader Bool := take (.operator text)

def keyword (k : String) : Reader Bool := takeIf (·.isKeyword k)

def keywordIn (ds : List Dialect) (k : String) : Reader Bool := isDialect ds <&&> keyword k

def genericKeyword (k : String) : Reader Bool := keywordIn [.generic] k

def keywords (ks : List String) : Reader Bool := do
  let s ← get
  if (s.zip ks).all (fun p => p.1.token.isKeyword p.2) && ks.length ≤ s.length then
    set (s.drop ks.length)
    return true
  else return false

def oneOf (ks : List String) : Reader (Option String) := do
  match ← peekToken with
  | some (.word w) =>
    if w.quote.isNone && ks.contains w.keyword then
      let _ ← next
      return some w.keyword
    else return none
  | _ => return none

def anyOf (ks : List String) : Reader Bool := return (← oneOf ks).isSome

def expectToken (t : Token) : Reader Unit := do
  if ← take t then return () else expected t.render

def expectKeyword (k : String) : Reader Unit := do
  if ← keyword k then return () else expected k

def expectKeywords (ks : List String) : Reader Unit := ks.forM expectKeyword

def expectOneOf (ks : List String) : Reader String := do
  match ← oneOf ks with
  | some k => return k
  | none => expected ("one of " ++ " or ".intercalate ks)

def open_ : Reader Unit := expectToken .leftParen

def close : Reader Unit := expectToken .rightParen

/-- Repeats a reader as long as `more` takes a separator after it. -/
def repeatWhile (more : Reader Bool) (r : Reader α) : Nat → Reader (List α)
  | 0 => return []
  | fuel + 1 => do
    let a ← r
    if ← more then return a :: (← repeatWhile more r fuel) else return [a]

def commaList (r : Reader α) : Reader (List α) := do
  repeatWhile (take .comma) r ((← get).length + 1)

def many (r : Reader (Option α)) : Nat → Reader (List α)
  | 0 => return []
  | fuel + 1 => do
    match ← r with
    | some a => return a :: (← many r fuel)
    | none => return []

def manyAhead (r : Reader (Option α)) : Reader (List α) := do many r ((← get).length + 1)

def parenthesized (r : Reader α) : Reader α := do
  open_
  let a ← r
  close
  return a

def when' (c : Bool) (r : Reader α) : Reader (Option α) := do
  if c then return some (← r) else return none

def afterKeyword (k : String) (r : Reader α) : Reader (Option α) := do
  if ← keyword k then return some (← r) else return none

def afterKeywords (ks : List String) (r : Reader α) : Reader (Option α) := do
  if ← keywords ks then return some (← r) else return none

def listAfter (ks : List String) (r : Reader α) : Reader (List α) := do
  if ← keywords ks then commaList r else return []

end Reader

open Reader

/-! ### Names -/

def Word.ident (w : Word) (range : Range) : Ident := ⟨w.value, w.quote, some range⟩

/-- A name written as a string; it has no place. -/
def Ident.ofString (quote : Char) (text : String) : Ident := ⟨text, some quote, none⟩

def Lexeme.ident? (l : Lexeme) : Option Ident :=
  match l.token with
  | .word w => some (w.ident l.range)
  | .string .single s => some (.ofString '\x27' s)
  | .string .double s => some (.ofString '"' s)
  | _ => none

def ident : Reader Ident := do
  let l ← next
  match l.bind Lexeme.ident? with
  | some i => return i
  | none => failExpected "identifier" l

def path : Reader Path := do repeatWhile (take .period) ident ((← ahead).length + 1)

def columnNames : Reader (List Ident) := do
  if ← take .leftParen then
    let names ← commaList ident
    close
    return names
  else expected "a list of columns in parentheses"

def optionalColumnNames : Reader (List Ident) := do
  if ← tokenAhead .leftParen then columnNames else return []

def reservedForAlias : List String :=
  ["WITH", "EXPLAIN", "ANALYZE", "SELECT", "WHERE", "GROUP", "SORT", "HAVING", "ORDER", "TOP",
   "LATERAL", "VIEW", "LIMIT", "OFFSET", "FETCH", "UNION", "EXCEPT", "INTERSECT", "CLUSTER",
   "DISTRIBUTE", "END"]

def reservedForTableAlias : List String :=
  reservedForAlias ++
  ["PIVOT", "UNPIVOT", "ON", "JOIN", "INNER", "CROSS", "FULL", "LEFT", "RIGHT", "NATURAL",
   "USING", "GLOBAL", "ANTI", "SEMI", "OUTER", "SET", "QUALIFY", "WINDOW", "FOR", "PARTITION",
   "PREWHERE", "SETTINGS", "FORMAT", "START", "CONNECT", "MATCH_RECOGNIZE"]

def reservedForColumnAlias : List String := reservedForAlias ++ ["RETURNING", "FROM", "INTO"]

/-- An alias. After AS every word is one; without it reserved words are not. -/
def optionalAlias (reserved : List String) : Reader (Option Ident) := do
  let named ← keyword "AS"
  let l ← peek
  let allowed := match l.map (·.token) with
    | some (.word w) => named || w.quote.isSome || !reserved.contains w.keyword
    | some (.string .single _) | some (.string .double _) => true
    | _ => false
  if allowed then
    let _ ← next
    return l.bind Lexeme.ident?
  else if named then expected "an identifier after AS"
  else return none

def literalString : Reader String := do
  let l ← next
  let text : Option String := match l.map Lexeme.token with
    | some (.word w) => if w.isPlainName then some w.value else none
    | some (.string .single s) => some s
    | some (.string .double s) => some s
    | some (.string .unicode s) => some s
    | _ => none
  match text, l.map Lexeme.token with
  | some s, _ => return s
  | none, some (.string .escaped s) =>
    if ← isDialect [.postgresql, .generic] then return s else failExpected "literal string" l
  | none, _ => failExpected "literal string" l

def countValue (limit value : Nat) : List Char → Except String Nat
  | [] => .ok value
  | c :: cs =>
    if c.isDigit then
      let value := 10 * value + (c.toNat - '0'.toNat)
      if value < limit then countValue limit value cs
      else .error "number too large to fit in target type"
    else .error "invalid digit found in string"

def natBelow (width : String) (limit : Nat) : Reader Nat := do
  let l ← next
  match l.map Lexeme.token with
  | some (.number s _) =>
    match countValue limit 0 s.toList with
    | .ok n => return n
    | .error reason =>
      fail (.textAt ("Could not parse '" ++ s ++ "' as " ++ width ++ ": " ++ reason) l)
  | _ => failExpected "literal int" l

def literalNat : Reader Nat := natBelow "u64" UInt64.size

end SqlAudit.Sql
