import SqlAudit.Finding

/-!
The spelling of cases in JSON. A case has a name of capitalised words without anything between them,
and is written with its words in small letters and a hyphen between them.
-/

namespace SqlAudit

namespace Json

/-- The letters of a name behind the first one: a capital starts a new word. -/
def kebabTail : List Char → List Char
  | [] => []
  | c :: cs => (if c.isUpper then ['-', c.toLower] else [c]) ++ kebabTail cs

def kebabCase (name : String) : String :=
  match name.toList with
  | [] => ""
  | c :: cs => String.ofList (c.toLower :: kebabTail cs)

end Json

namespace Rule

def name : Rule → String
  | syntaxError => "SyntaxError"
  | invalidSchema => "InvalidSchema"
  | tableNotFound => "TableNotFound"
  | columnNotFound => "ColumnNotFound"
  | ambiguousColumn => "AmbiguousColumn"
  | implicitJoin => "ImplicitJoin"
  | unusedAlias => "UnusedAlias"
  | selectStar => "SelectStar"
  | nullComparison => "NullComparison"
  | reservedWordCase => "ReservedWordCase"
  | missingSemicolon => "MissingSemicolon"

/-- The table of codes agrees with the derived spelling. -/
theorem kebabCase_name (r : Rule) : Json.kebabCase r.name = r.code := by
  cases r <;> rfl

end Rule

end SqlAudit
