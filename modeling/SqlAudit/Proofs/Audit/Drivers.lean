import SqlAudit.Proofs.Audit.Phases
import SqlAudit.Proofs.Names.QuotedNames

/-!
Audits under different drivers. The driver chooses the dialect, and the dialect only decides whether
names in double quotes that stand alone are strings; so under a driver that has them as strings an
audit finds what it finds under another one, less what is said of the columns they would name.
-/

namespace SqlAudit

open Sql Finding

theorem Dialect.doubleQuotesAreStrings_iff (d : Dialect) :
    d.doubleQuotesAreStrings = true ↔ d = .mysql := by
  cases d <;> decide

namespace Audit

namespace Document

def idents (d : Document) : List Ident := d.statements.flatMap Statement.idents

end Document

/-- The names of a text that stand alone in double quotes, none if it cannot be read. -/
def quotedNames (text : String) : List Ident :=
  match Document.ofText text with
  | .ok d => d.statements.flatMap fun s => quotedNamesOf s.visits
  | .error _ => []

def drivenBy (driver : String) (s : Settings) : Settings := { s with driver }

variable (p : Option Provider) {s : Settings} {driver : String}

theorem findings_drivenBy {phase : Phase} (h : phase ≠ .catalog) (driver : String) (s : Settings)
    (d : Document) : phase.findings p (drivenBy driver s) d = phase.findings p s d := by
  cases phase with
  | catalog => exact absurd rfl h
  | _ => rfl

theorem findings_alike
    (same : (drivenBy driver s).dialect.doubleQuotesAreStrings = s.dialect.doubleQuotesAreStrings)
    (d : Document) (phase : Phase) :
    phase.findings p (drivenBy driver s) d = phase.findings p s d := by
  by_cases hphase : phase = .catalog
  · subst hphase
    cases p with
    | none => rfl
    | some p =>
      have hcolumns (n : Statement × Names.Symbols) :
          Names.columnFindings p (drivenBy driver s).dialect s.warnOnAmbiguousColumn n.2 n.1 =
            Names.columnFindings p s.dialect s.warnOnAmbiguousColumn n.2 n.1 :=
        Names.columnFindings_under same n.2 n.1
      change catalogFindings p (drivenBy driver s) d = catalogFindings p s d
      simp only [catalogFindings, ← hcolumns]
      rfl
  · exact findings_drivenBy p hphase driver s d

theorem rule_filter (on : Bool) (found : List Finding) (keep : Finding → Bool) :
    rule on (found.filter keep) = (rule on found).filter keep := by
  cases on <;> rfl

theorem catalogFindings_strings (p : Provider)
    (strings : (drivenBy driver s).dialect.doubleQuotesAreStrings = true) {d : Document}
    (places : PlacesApart d.idents) :
    catalogFindings p (drivenBy driver s) d =
      (catalogFindings p s d).filter fun f =>
        !f.isOnColumnAt (d.statements.flatMap fun s => quotedNamesOf s.visits) := by
  have htables : OnlyOf [.invalidSchema, .tableNotFound]
      (rule s.checkTableReferences
        (d.named.flatMap fun n => Names.tableFindings p s.checkSchemaReferences n.2)) :=
    rule_onlyOf _ (.flatMap fun n => Names.tableFindings_onlyOf p s.checkSchemaReferences n.2)
  have hcolumns : d.named.flatMap (fun n => Names.columnFindings p (drivenBy driver s).dialect
      s.warnOnAmbiguousColumn n.2 n.1) =
      (d.named.flatMap fun n => Names.columnFindings p s.dialect s.warnOnAmbiguousColumn n.2
        n.1).filter fun f =>
          !f.isOnColumnAt (d.statements.flatMap fun s => quotedNamesOf s.visits) := by
    rw [List.filter_flatMap]
    refine List.flatMap_congr fun n hn => ?_
    obtain ⟨statement, hstatement, rfl⟩ := List.mem_map.1 hn
    exact Names.columnFindings_strings places hstatement strings
  have hunfold : catalogFindings p (drivenBy driver s) d =
      rule s.checkTableReferences
        (d.named.flatMap fun n => Names.tableFindings p s.checkSchemaReferences n.2) ++
      rule s.checkColumnReferences (d.named.flatMap fun n =>
        Names.columnFindings p (drivenBy driver s).dialect s.warnOnAmbiguousColumn n.2 n.1) := rfl
  rw [hunfold, hcolumns, rule_filter, catalogFindings, List.filter_append,
    filter_isOnColumnAt_eq_self htables _ (by simp) (by simp)]

theorem findings_strings
    (strings : (drivenBy driver s).dialect.doubleQuotesAreStrings = true) {d : Document}
    (places : PlacesApart d.idents) (phase : Phase) :
    phase.findings p (drivenBy driver s) d =
      (phase.findings p s d).filter fun f =>
        !f.isOnColumnAt (d.statements.flatMap fun s => quotedNamesOf s.visits) := by
  by_cases hphase : phase = .catalog
  · subst hphase
    cases p with
    | none => rfl
    | some p => exact catalogFindings_strings p strings places
  · have honly := phase.findings_onlyOf p s d
    rw [findings_drivenBy p hphase driver s d]
    refine (filter_isOnColumnAt_eq_self honly _ ?_ ?_).symm
    · revert hphase
      cases phase <;> decide
    · revert hphase
      cases phase <;> decide

/-- The driver only decides what double quotes mean. Under two drivers of MySQL, and under two of
which neither is one, an audit finds the same; under a driver of MySQL it finds what it finds under
one that is not, less the findings on columns that stand at names in double quotes that stand
alone, as long as the names of the document have places of their own. -/
theorem driver_decides_quotes (p : Option Provider) (s : Settings) (driver text : String) :
    ((Dialect.ofDriver driver = .mysql ↔ Dialect.ofDriver s.driver = .mysql) →
      audit p (drivenBy driver s) text = audit p s text) ∧
    (s.maxDiagnostics = 0 → Dialect.ofDriver s.driver ≠ .mysql →
      Dialect.ofDriver driver = .mysql →
      (∀ d, Document.ofText text = .ok d → PlacesApart d.idents) →
      audit p (drivenBy driver s) text =
        (audit p s text).filter fun f => !f.isOnColumnAt (quotedNames text)) := by
  constructor
  · intro same
    have hsame : (drivenBy driver s).dialect.doubleQuotesAreStrings =
        s.dialect.doubleQuotesAreStrings := by
      rw [Bool.eq_iff_iff, Dialect.doubleQuotesAreStrings_iff, Dialect.doubleQuotesAreStrings_iff]
      exact same
    have hdocument (d : Document) :
        documentFindings p (drivenBy driver s) d = documentFindings p s d := by
      rw [documentFindings_eq, documentFindings_eq]
      exact List.flatMap_congr fun phase _ => findings_alike p hsame d phase
    simp only [audit, hdocument]
    rfl
  · intro unlimited _ strings places
    have hstrings : (drivenBy driver s).dialect.doubleQuotesAreStrings = true :=
      (Dialect.doubleQuotesAreStrings_iff _).2 strings
    refine audit_eq_filter_of_phases (fun f hf => ?_) rfl unlimited unlimited
      fun d hd phase => ?_
    · simp [isOnColumnAt, hf]
    · rw [findings_strings p hstrings (places d hd) phase, quotedNames, hd]

/-- `"nm"` alone is a missing column for PostgreSQL and a string for MySQL; after a qualifier it is a
missing column for both, and so is `no`. -/
theorem quotedColumns_driven :
    let s : Settings := { driver := "pg", maxDiagnostics := 0 }
    let text := "SELECT \"nm\", users.\"nm\", no FROM users"
    let p := ((Catalog.ofDefault "public").addTable
      ((TableDef.table (.plain "users")).addColumn (.of "id" "INT"))).provider
    Dialect.ofDriver s.driver = .postgresql ∧ Dialect.ofDriver "MariaDB" = .mysql ∧
      (∀ d, Document.ofText text = .ok d → PlacesApart d.idents) ∧
      (audit p s text).map (·.range.start.column) = [19, 7, 25] ∧
      (audit p (drivenBy "MariaDB" s) text).map (·.range.start.column) = [19, 25] ∧
      audit p (drivenBy "MariaDB" s) text =
        (audit p s text).filter (fun f => !f.isOnColumnAt (quotedNames text)) ∧
      audit p (drivenBy "sqlite" s) text = audit p s text := by
  intro s text p
  have places : ∀ d, Document.ofText text = .ok d → PlacesApart d.idents := by
    have apart : ((Document.ofText text).toOption.all fun d =>
        decide (d.idents.map Ident.start).Nodup) = true := by decide +kernel
    intro d hd
    rw [hd] at apart
    exact .of_starts (of_decide_eq_true apart)
  have hpg : Dialect.ofDriver s.driver = .postgresql := by decide +kernel
  have hmysql : Dialect.ofDriver "MariaDB" = .mysql := by decide +kernel
  refine ⟨hpg, hmysql, places, by decide +kernel, by decide +kernel, ?_, ?_⟩
  · exact (driver_decides_quotes p s "MariaDB" text).2 rfl (by decide +kernel) hmysql places
  · exact (driver_decides_quotes p s "sqlite" text).1 (by decide +kernel)

end Audit

end SqlAudit
