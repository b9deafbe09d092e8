import SqlAudit.Record
import SqlAudit.Settings

/-!
Settings as a record. A field that is missing keeps the value it has, and a field of another name
says nothing.
-/

namespace SqlAudit.Settings

def fieldNames : List String :=
  ["enabled", "checkSyntax", "checkTableReferences", "checkColumnReferences",
   "checkSchemaReferences", "warnOnSelectStar", "warnOnNullComparison", "warnOnUnusedAlias",
   "warnOnImplicitJoin", "warnOnAmbiguousColumn", "checkReservedWordCase",
   "preferredKeywordCase", "checkMissingSemicolon", "maxDiagnostics", "driver"]

def decode? {V : Type} (d : Decoder V) (base : Settings) (v : V) : Option Settings := do
  let fields ← d.record? fieldNames v
  let bool (name : String) (missing : Bool) := Decoder.defaulted fields name d.bool? missing
  let severity (name : String) (missing : RuleSeverity) :=
    Decoder.defaulted fields name (d.choice? RuleSeverity.all RuleSeverity.label) missing
  let enabled ← bool "enabled" base.enabled
  let checkSyntax ← bool "checkSyntax" base.checkSyntax
  let checkTableReferences ← bool "checkTableReferences" base.checkTableReferences
  let checkColumnReferences ← bool "checkColumnReferences" base.checkColumnReferences
  let checkSchemaReferences ← bool "checkSchemaReferences" base.checkSchemaReferences
  let warnOnSelectStar ← bool "warnOnSelectStar" base.warnOnSelectStar
  let warnOnNullComparison ← bool "warnOnNullComparison" base.warnOnNullComparison
  let warnOnUnusedAlias ← bool "warnOnUnusedAlias" base.warnOnUnusedAlias
  let warnOnImplicitJoin ← bool "warnOnImplicitJoin" base.warnOnImplicitJoin
  let warnOnAmbiguousColumn ← bool "warnOnAmbiguousColumn" base.warnOnAmbiguousColumn
  let checkReservedWordCase ← severity "checkReservedWordCase" base.checkReservedWordCase
  let preferredKeywordCase ← Decoder.defaulted fields "preferredKeywordCase"
    (d.choice? KeywordCase.all KeywordCase.name) base.preferredKeywordCase
  let checkMissingSemicolon ← severity "checkMissingSemicolon" base.checkMissingSemicolon
  let maxDiagnostics ← Decoder.defaulted fields "maxDiagnostics" d.whole? base.maxDiagnostics
  let driver ← Decoder.defaulted fields "driver" d.string? base.driver
  return { enabled, checkSyntax, checkTableReferences, checkColumnReferences,
           checkSchemaReferences, warnOnSelectStar, warnOnNullComparison, warnOnUnusedAlias,
           warnOnImplicitJoin, warnOnAmbiguousColumn, checkReservedWordCase,
           preferredKeywordCase, checkMissingSemicolon, maxDiagnostics, driver }

end SqlAudit.Settings
