import SqlAudit.Finding
import SqlAudit.Names.Symbols

/-!
Aliases of the outer query that qualify nothing, each reported once.
-/

namespace SqlAudit.Names

open Sql Text

/-- The qualifiers of a statement in lower case: those of stars and of paths. -/
def usedQualifiers (symbols : Symbols) (s : Statement) : List String :=
  (symbols.starQualifiers ++ (pathsOf s.visits).flatMap List.dropLast).map fun i => lower i.value

def firstByName (seen : List String) : List AliasDefinition → List AliasDefinition
  | [] => []
  | d :: ds =>
    let name := lower d.name.value
    if seen.contains name then firstByName seen ds else d :: firstByName (name :: seen) ds

def unusedAlias (d : AliasDefinition) : Finding :=
  .warning .unusedAlias d.name.range
    ("Alias '" ++ d.name.value ++ "' is defined but never used")

def unusedAliases (symbols : Symbols) (s : Statement) : List Finding :=
  (firstByName (usedQualifiers symbols s) (symbols.definitions.filter (·.outer))).map unusedAlias

end SqlAudit.Names
