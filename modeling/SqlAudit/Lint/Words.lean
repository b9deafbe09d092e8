import SqlAudit.Text.Case

/-!
Words the audit treats apart: beginnings of keywords that a user may be typing where a table name
is expected, words that are never columns, and the reserved words whose letter case is checked.
-/

namespace SqlAudit.Lint

open Text

/-- Keywords a user may be halfway through where a table name is expected. -/
def clauseKeywords : List String :=
  ["JOIN", "LEFT", "RIGHT", "INNER", "OUTER", "CROSS", "FULL", "WHERE", "GROUP", "ORDER",
   "HAVING", "LIMIT", "OFFSET", "UNION", "INTERSECT", "EXCEPT", "AND", "OR", "NOT", "IN",
   "EXISTS", "LIKE", "BETWEEN", "AS", "ON", "USING", "WITH"]

/-- The most bytes a name may have to be taken for the start of a keyword. -/
def partialKeywordSize : Nat := 4

def nonColumnWords : List String :=
  ["SELECT", "FROM", "WHERE", "JOIN", "LEFT", "RIGHT", "INNER", "OUTER", "ON", "AND", "OR",
   "NOT", "IN", "EXISTS", "BETWEEN", "LIKE", "ORDER", "GROUP", "BY", "HAVING", "LIMIT",
   "OFFSET", "INSERT", "UPDATE", "DELETE", "CREATE", "DROP", "ALTER", "AS", "ASC", "DESC",
   "NULL", "IS", "TRUE", "FALSE", "DEFAULT", "CURRENT_DATE", "CURRENT_TIME",
   "CURRENT_TIMESTAMP", "CURRENT_USER", "LOCALTIME", "LOCALTIMESTAMP"]

def reservedWords : List String :=
  ["SELECT", "FROM", "WHERE", "JOIN", "LEFT", "RIGHT", "INNER", "OUTER", "ON", "AND", "OR",
   "NOT", "IN", "EXISTS", "BETWEEN", "LIKE", "ORDER", "GROUP", "BY", "HAVING", "LIMIT",
   "OFFSET", "INSERT", "INTO", "VALUES", "UPDATE", "SET", "DELETE", "CREATE", "DROP", "ALTER",
   "TABLE", "DATABASE", "SCHEMA", "INDEX", "VIEW", "TRIGGER", "PROCEDURE", "FUNCTION", "AS",
   "DISTINCT", "ALL", "ANY", "SOME", "UNION", "INTERSECT", "EXCEPT", "CASE", "WHEN", "THEN",
   "ELSE", "END", "NULL", "IS", "TRUE", "FALSE", "ASC", "DESC", "PRIMARY", "KEY", "FOREIGN",
   "REFERENCES", "UNIQUE", "CHECK", "DEFAULT", "AUTO_INCREMENT", "CONSTRAINT"]

def isPartialKeyword (name : String) : Bool :=
  let letters := name.toList.map Char.toUpper
  !letters.isEmpty && name.utf8ByteSize ≤ partialKeywordSize &&
    clauseKeywords.any fun k => letters.isPrefixOf k.toList

def looksLikeColumn (name : String) : Bool := !nonColumnWords.any (sameName · name)

def isReservedWord (word : String) : Bool := reservedWords.any (sameName · word)

end SqlAudit.Lint
