import SqlAudit.Settings.Decode

/-!
The fields of the settings as data: the kind of value each one holds, its name in a record and its
value in given settings.
-/

namespace SqlAudit.Settings

inductive ValueKind
  | flag
  | severity
  | letterCase
  | count
  | text

abbrev ValueKind.Value : ValueKind → Type
  | flag => Bool
  | severity => RuleSeverity
  | letterCase => KeywordCase
  | count => Nat
  | text => String

def ValueKind.read? {V : Type} (d : Decoder V) : (kind : ValueKind) → V → Option kind.Value
  | flag => d.bool?
  | severity => d.choice? RuleSeverity.all RuleSeverity.label
  | letterCase => d.choice? KeywordCase.all KeywordCase.name
  | count => d.whole?
  | text => d.string?

inductive Field : ValueKind → Type
  | enabled : Field .flag
  | checkSyntax : Field .flag
  | checkTableReferences : Field .flag
  | checkColumnReferences : Field .flag
  | checkSchemaReferences : Field .flag
  | warnOnSelectStar : Field .flag
  | warnOnNullComparison : Field .flag
  | warnOnUnusedAlias : Field .flag
  | warnOnImplicitJoin : Field .flag
  | warnOnAmbiguousColumn : Field .flag
  | checkReservedWordCase : Field .severity
  | preferredKeywordCase : Field .letterCase
  | checkMissingSemicolon : Field .severity
  | maxDiagnostics : Field .count
  | driver : Field .text

namespace Field

def key {kind : ValueKind} : Field kind → String
  | enabled => "enabled"
  | checkSyntax => "checkSyntax"
  | checkTableReferences => "checkTableReferences"
  | checkColumnReferences => "checkColumnReferences"
  | checkSchemaReferences => "checkSchemaReferences"
  | warnOnSelectStar => "warnOnSelectStar"
  | warnOnNullComparison => "warnOnNullComparison"
  | warnOnUnusedAlias => "warnOnUnusedAlias"
  | warnOnImplicitJoin => "warnOnImplicitJoin"
  | warnOnAmbiguousColumn => "warnOnAmbiguousColumn"
  | checkReservedWordCase => "checkReservedWordCase"
  | preferredKeywordCase => "preferredKeywordCase"
  | checkMissingSemicolon => "checkMissingSemicolon"
  | maxDiagnostics => "maxDiagnostics"
  | driver => "driver"

theorem key_mem_fieldNames {kind : ValueKind} (f : Field kind) : f.key ∈ fieldNames := by
  cases f <;> simp [key, fieldNames]

def get (s : Settings) {kind : ValueKind} : Field kind → kind.Value
  | enabled => s.enabled
  | checkSyntax => s.checkSyntax
  | checkTableReferences => s.checkTableReferences
  | checkColumnReferences => s.checkColumnReferences
  | checkSchemaReferences => s.checkSchemaReferences
  | warnOnSelectStar => s.warnOnSelectStar
  | warnOnNullComparison => s.warnOnNullComparison
  | warnOnUnusedAlias => s.warnOnUnusedAlias
  | warnOnImplicitJoin => s.warnOnImplicitJoin
  | warnOnAmbiguousColumn => s.warnOnAmbiguousColumn
  | checkReservedWordCase => s.checkReservedWordCase
  | preferredKeywordCase => s.preferredKeywordCase
  | checkMissingSemicolon => s.checkMissingSemicolon
  | maxDiagnostics => s.maxDiagnostics
  | driver => s.driver

end Field

def ofValues (values : ∀ kind : ValueKind, Field kind → kind.Value) : Settings where
  enabled := values _ .enabled
  checkSyntax := values _ .checkSyntax
  checkTableReferences := values _ .checkTableReferences
  checkColumnReferences := values _ .checkColumnReferences
  checkSchemaReferences := values _ .checkSchemaReferences
  warnOnSelectStar := values _ .warnOnSelectStar
  warnOnNullComparison := values _ .warnOnNullComparison
  warnOnUnusedAlias := values _ .warnOnUnusedAlias
  warnOnImplicitJoin := values _ .warnOnImplicitJoin
  warnOnAmbiguousColumn := values _ .warnOnAmbiguousColumn
  checkReservedWordCase := values _ .checkReservedWordCase
  preferredKeywordCase := values _ .preferredKeywordCase
  checkMissingSemicolon := values _ .checkMissingSemicolon
  maxDiagnostics := values _ .maxDiagnostics
  driver := values _ .driver

@[simp] theorem get_ofValues (values : ∀ kind : ValueKind, Field kind → kind.Value)
    {kind : ValueKind} (f : Field kind) : f.get (ofValues values) = values kind f := by
  cases f <;> rfl

theorem ext_get {s t : Settings} (h : ∀ {kind : ValueKind} (f : Field kind), f.get s = f.get t) :
    s = t := by
  cases s
  cases t
  simp only [mk.injEq]
  exact ⟨h .enabled, h .checkSyntax, h .checkTableReferences, h .checkColumnReferences,
    h .checkSchemaReferences, h .warnOnSelectStar, h .warnOnNullComparison, h .warnOnUnusedAlias,
    h .warnOnImplicitJoin, h .warnOnAmbiguousColumn, h .checkReservedWordCase,
    h .preferredKeywordCase, h .checkMissingSemicolon, h .maxDiagnostics, h .driver⟩

variable {V : Type} {d : Decoder V} {base : Settings} {v : V}

/-- Settings are read field by field, all in the same way. -/
theorem decode?_of_fields {fields : List (String × V)}
    {values : ∀ kind : ValueKind, Field kind → kind.Value}
    (record : d.record? fieldNames v = some fields)
    (read : ∀ {kind : ValueKind} (f : Field kind),
      Decoder.defaulted fields f.key (kind.read? d) (f.get base) = some (values kind f)) :
    decode? d base v = some (ofValues values) := by
  have steps : decode? d base v = (d.record? fieldNames v).bind fun fields => do
      let value {kind : ValueKind} (f : Field kind) : Option kind.Value :=
        Decoder.defaulted fields f.key (kind.read? d) (f.get base)
      let enabled ← value .enabled
      let checkSyntax ← value .checkSyntax
      let checkTableReferences ← value .checkTableReferences
      let checkColumnReferences ← value .checkColumnReferences
      let checkSchemaReferences ← value .checkSchemaReferences
      let warnOnSelectStar ← value .warnOnSelectStar
      let warnOnNullComparison ← value .warnOnNullComparison
      let warnOnUnusedAlias ← value .warnOnUnusedAlias
      let warnOnImplicitJoin ← value .warnOnImplicitJoin
      let warnOnAmbiguousColumn ← value .warnOnAmbiguousColumn
      let checkReservedWordCase ← value .checkReservedWordCase
      let preferredKeywordCase ← value .preferredKeywordCase
      let checkMissingSemicolon ← value .checkMissingSemicolon
      let maxDiagnostics ← value .maxDiagnostics
      let driver ← value .driver
      return { enabled, checkSyntax, checkTableReferences, checkColumnReferences,
               checkSchemaReferences, warnOnSelectStar, warnOnNullComparison, warnOnUnusedAlias,
               warnOnImplicitJoin, warnOnAmbiguousColumn, checkReservedWordCase,
               preferredKeywordCase, checkMissingSemicolon, maxDiagnostics, driver } := rfl
  rw [steps, record, Option.bind_some]
  simp only [read]
  rfl

end SqlAudit.Settings
