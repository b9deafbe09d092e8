import SqlAudit.Proofs.Audit.Comparison
import SqlAudit.Proofs.Lint.ImplicitJoin
import SqlAudit.Proofs.Sql.BodySelects

/-!
Audits and implicit joins. An audit reports one for each part of the text that has a comma at the level
of a word FROM, whether or not the word begins a list of tables.
-/

namespace SqlAudit.Audit

open Sql

namespace Document

def sourceLists (d : Document) : List (List Source) :=
  d.statements.flatMap fun s => s.visits.flatMap Visit.sourceLists

/-- Whether a comma stands at the level of a word FROM. -/
def hasFromComma (d : Document) : Bool := d.slices.any Lint.commaBehindFrom

theorem implicitJoins_eq_nil_iff (d : Document) :
    d.slices.flatMap Lint.implicitJoins = [] ↔ d.hasFromComma = false := by
  have slice (l : List Lexeme) : Lint.implicitJoins l = [] ↔ Lint.commaBehindFrom l = false := by
    rw [← Lint.isSome_implicitJoin?, Lint.implicitJoins]
    cases Lint.implicitJoin? l <;> simp
  simp [hasFromComma, slice]

end Document

variable {s : Settings} {text : String} {d : Document}

/-- An audit reports no implicit join in a document without a comma at the level of a word FROM; in one
that has such a comma, it reports one where the rule is on and all findings are kept. -/
theorem implicitJoins_told (p : Option Provider) (read : Document.ofText text = .ok d) :
    (d.hasFromComma = false → ∀ f ∈ audit p s text, f.rule ≠ .implicitJoin) ∧
      (s.enabled = true → s.maxDiagnostics = 0 → s.warnOnImplicitJoin = true →
        d.hasFromComma = true → ∃ f ∈ audit p s text, f.rule = .implicitJoin) := by
  constructor
  · intro hnone f hf hrule
    have hfound : f ∈ (documentFindings p s d).filter (·.rule == .implicitJoin) :=
      List.mem_filter.2 ⟨mem_documentFindings_of_mem_audit read hf, beq_iff_eq.2 hrule⟩
    rw [filter_rule_eq_findings .implicitJoins rfl, Phase.findings,
      d.implicitJoins_eq_nil_iff.2 hnone, rule, ite_self] at hfound
    cases hfound
  · intro enabled unlimited on hcomma
    by_contra! hnone
    have hempty : (audit p s text).filter (·.rule == .implicitJoin) = [] :=
      List.filter_eq_nil_iff.2 fun f hf => by simpa using hnone f hf
    rw [audit_filter_rule_eq .implicitJoins rfl p enabled unlimited read,
      Phase.findings, on, rule, if_pos rfl, d.implicitJoins_eq_nil_iff, hcomma] at hempty
    cases hempty

/-- A list of two tables in a query within another one is told, a list of arguments is not. -/
theorem innerList_told :
    let s : Settings := { maxDiagnostics := 0 }
    let text := "SELECT a FROM t WHERE a IN (SELECT b FROM u, v)"
    let other := "SELECT a FROM f(1, 2) JOIN u ON x ORDER BY a, b"
    (∃ f ∈ audit none s text, f.rule = .implicitJoin) ∧
      ∀ f ∈ audit none s other, f.rule ≠ .implicitJoin := by
  intro s text other
  have commas : (Document.ofText text).toOption.any Document.hasFromComma = true ∧
      (Document.ofText other).toOption.any (!·.hasFromComma) = true := by
    decide +kernel
  constructor
  · obtain ⟨d, read, hcomma⟩ := Document.exists_of_any commas.1
    exact (implicitJoins_told none read).2 rfl rfl rfl hcomma
  · obtain ⟨d, read, hnone⟩ := Document.exists_of_any commas.2
    exact (implicitJoins_told none read).1 (by simpa using hnone)

/-- The FROM of a comparison is taken for one that tables follow, so a comma between items is taken for
one between tables. -/
theorem distinctFrom_told :
    let s : Settings := { maxDiagnostics := 0 }
    let text := "SELECT a IS DISTINCT FROM b, c FROM t"
    ∃ d, Document.ofText text = .ok d ∧ (∀ list ∈ d.sourceLists, list.length < 2) ∧
      ∃ f ∈ audit none s text, f.rule = .implicitJoin := by
  intro s text
  have found : ((Document.ofText text).toOption.any fun d => d.sourceLists.all (·.length < 2)) = true ∧
      (audit none s text).any (·.rule == .implicitJoin) = true := by
    decide +kernel
  obtain ⟨d, read, lists⟩ := Document.exists_of_any found.1
  obtain ⟨f, hf, hrule⟩ := List.any_eq_true.1 found.2
  refine ⟨d, read, fun list hlist => ?_, f, hf, beq_iff_eq.1 hrule⟩
  exact of_decide_eq_true (List.all_eq_true.1 lists list hlist)

end SqlAudit.Audit
