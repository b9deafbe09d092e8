import SqlAudit.Json.Decode
import SqlAudit.Settings.Decode

/-!
Settings in JSON: all fields in order, so that reading what was written gives the settings back.
-/

namespace SqlAudit.Settings

def toJson (s : Settings) : Json :=
  .object
    [("enabled", .bool s.enabled),
     ("checkSyntax", .bool s.checkSyntax),
     ("checkTableReferences", .bool s.checkTableReferences),
     ("checkColumnReferences", .bool s.checkColumnReferences),
     ("checkSchemaReferences", .bool s.checkSchemaReferences),
     ("warnOnSelectStar", .bool s.warnOnSelectStar),
     ("warnOnNullComparison", .bool s.warnOnNullComparison),
     ("warnOnUnusedAlias", .bool s.warnOnUnusedAlias),
     ("warnOnImplicitJoin", .bool s.warnOnImplicitJoin),
     ("warnOnAmbiguousColumn", .bool s.warnOnAmbiguousColumn),
     ("checkReservedWordCase", .string s.checkReservedWordCase.label),
     ("preferredKeywordCase", .string s.preferredKeywordCase.name),
     ("checkMissingSemicolon", .string s.checkMissingSemicolon.label),
     ("maxDiagnostics", .ofNat s.maxDiagnostics),
     ("driver", .string s.driver)]

def ofJsonOver? (base : Settings) (j : Json) : Option Settings := decode? Json.decoder base j

def ofJson? (j : Json) : Option Settings := ofJsonOver? {} j

end SqlAudit.Settings
