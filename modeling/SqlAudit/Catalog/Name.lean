import SqlAudit.Text.Case

/-!
Names of tables: a name alone, or one with the schema it belongs to.
-/

namespace SqlAudit

structure TableName where
  schema : Option String
  name : String
  deriving DecidableEq, Repr, Inhabited

namespace TableName

def plain (name : String) : TableName := ⟨none, name⟩

def within (schema name : String) : TableName := ⟨some schema, name⟩

/-- Reads `schema.name` or `name`; the first period separates. -/
def ofText (text : String) : TableName :=
  let s := text.toList
  let schema := s.takeWhile (· != '.')
  match s.drop schema.length with
  | '.' :: name => within (String.ofList schema) (String.ofList name)
  | _ => plain text

def render (n : TableName) : String :=
  match n.schema with
  | some schema => schema ++ "." ++ n.name
  | none => n.name

end TableName

end SqlAudit
