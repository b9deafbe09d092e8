import SqlAudit.Sql.Read.Statement

/-!
Reading a whole text: statements with semicolons between them. Statements, queries and expressions
nest to a depth of fifty, and reading fails where they nest more deeply.
-/

namespace SqlAudit.Sql

open Reader

def nested : (depth : Nat) → Nested
  | 0 => ⟨fun _ => fail .tooDeep, fail .tooDeep, fail .tooDeep⟩
  | depth + 1 =>
    ⟨exprAt (nested depth), query (nested depth), statement (nested depth)⟩

def maxDepth : Nat := 50

/-- The statements of a text. After a statement a semicolon has to follow, or the text ends; the
word END ends it too. -/
def statements : Nat → (delimited : Bool) → Reader (List Statement)
  | 0, _ => return []
  | fuel + 1, delimited => do
    if ← take .semicolon then statements fuel true
    else
      match ← peekToken with
      | none => return []
      | some t =>
        if delimited then
          let s ← (nested maxDepth).statement
          return s :: (← statements fuel false)
        else if t.isKeyword "END" then return []
        else expected "end of statement"

def parse (d : Dialect) (text : String) : Except ReadError (List Statement) := do
  match scan d text with
  | .error e => throw (.scan e)
  | .ok lexemes =>
    let words := significant lexemes
    let (s, _) ← (statements (2 * words.length + 2) true).run ⟨d, false⟩ |>.run words
    return s

end SqlAudit.Sql
