import SqlAudit.Proofs.Audit.Comparison
import SqlAudit.Proofs.Lint.SelectStar
import SqlAudit.Proofs.Sql.BodySelects

/-!
Audits and the stars of their SELECTs. An audit reports one star for each word SELECT that has one at
its level, whether or not the word begins a SELECT of the document; so it counts the SELECTs with a
star exactly where there are as many such words.
-/

namespace SqlAudit.Audit

open Sql

namespace Document

def visits (d : Document) : List Visit := d.statements.flatMap Statement.visits

/-- The SELECTs with a star among their items, at any depth. -/
def starredSelects (d : Document) : List Select :=
  (d.visits.flatMap Visit.selects).filter Select.hasStar

/-- The stars at the levels of the words SELECT, one for each word that has one. -/
def keywordStars (d : Document) : List Range :=
  d.slices.flatMap fun slice => Lint.selectStarsByKeyword (significant slice)

theorem selectStars_perm (d : Document) :
    (d.slices.flatMap Lint.selectStars).Perm
      (d.keywordStars.map fun r => .warning .selectStar r Lint.selectStarMessage) := by
  rw [keywordStars, List.map_flatMap]
  exact List.Perm.flatMap_left d.slices fun slice _ => Lint.selectStars_perm slice

end Document

variable {s : Settings} {text : String} {d : Document}

/-- The stars that an audit reports are those at the levels of the words SELECT, whatever the catalog;
they are as many as the SELECTs with a star where as many of the words have one. -/
theorem selectStars_counted (p : Option Provider) (enabled : s.enabled = true)
    (unlimited : s.maxDiagnostics = 0) (on : s.warnOnSelectStar = true)
    (read : Document.ofText text = .ok d) :
    ((audit p s text).filter (·.rule == .selectStar)).Perm
        (d.keywordStars.map fun r => .warning .selectStar r Lint.selectStarMessage) ∧
      (((audit p s text).filter (·.rule == .selectStar)).length = d.starredSelects.length ↔
        d.keywordStars.length = d.starredSelects.length) := by
  have stars : ((audit p s text).filter (·.rule == .selectStar)).Perm
      (d.keywordStars.map fun r => .warning .selectStar r Lint.selectStarMessage) := by
    rw [audit_filter_rule_eq .selectStars rfl p enabled unlimited read]
    simp only [Phase.findings, on]
    exact d.selectStars_perm
  refine ⟨stars, ?_⟩
  rw [stars.length_eq, List.length_map]

/-- Stars of a query and of one within it, in the other order than their SELECTs. -/
theorem nestedStars_counted :
    let s : Settings := { maxDiagnostics := 0 }
    let text := "SELECT (SELECT * FROM u), * FROM t; SELECT COUNT(*), a * b FROM t"
    ∃ d, Document.ofText text = .ok d ∧ d.starredSelects.length = 2 ∧
      d.keywordStars.map (·.start.column) = [26, 15] ∧
      ((audit none s text).filter (·.rule == .selectStar)).length = 2 := by
  intro s text
  have counts : ((Document.ofText text).toOption.any fun d =>
      d.starredSelects.length = 2 ∧ d.keywordStars.map (·.start.column) = [26, 15]) = true := by
    decide +kernel
  obtain ⟨d, read, hcounts⟩ := Document.exists_of_any counts
  obtain ⟨selects, words⟩ : d.starredSelects.length = 2 ∧
      d.keywordStars.map (·.start.column) = [26, 15] := of_decide_eq_true hcounts
  have hwords : d.keywordStars.length = 2 := by
    rw [← List.length_map (f := fun r : Range => r.start.column), words]
    rfl
  refine ⟨d, read, selects, words, ?_⟩
  rw [((selectStars_counted none rfl rfl rfl read).2).2 (hwords.trans selects.symm), selects]

/-- The FROM of a comparison ends the items for the scan, so the star behind it is not found. -/
theorem distinctFrom_hides_star :
    let s : Settings := { maxDiagnostics := 0 }
    let text := "SELECT a IS DISTINCT FROM b, * FROM t"
    ∃ d, Document.ofText text = .ok d ∧ d.starredSelects.length = 1 ∧
      (audit none s text).filter (·.rule == .selectStar) = [] := by
  intro s text
  have found : ((Document.ofText text).toOption.any fun d => d.starredSelects.length = 1) = true ∧
      (audit none s text).filter (·.rule == .selectStar) = [] := by
    decide +kernel
  obtain ⟨d, read, selects⟩ := Document.exists_of_any found.1
  exact ⟨d, read, of_decide_eq_true selects, found.2⟩

end SqlAudit.Audit
