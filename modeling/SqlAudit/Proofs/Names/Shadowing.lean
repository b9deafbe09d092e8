import SqlAudit.Proofs.Audit.Comparison
import SqlAudit.Proofs.Names.BareNames

/-!
A common table and the catalog tables of its name. Its own columns are what names stand for, yet the
columns of the catalog tables are known to the check. Leaving these tables out of the catalog changes
what is reported unless every column looked up in them is there, and no name alone is judged by them.
-/

namespace SqlAudit

open Sql Text

namespace Names

open ColumnCheck

/-- What a statement is judged for is judged alike without the tables of a name. -/
structure Unmoved (c : ColumnCheck) (s : Statement) (name : String) : Prop where
  members : ∀ j ∈ judged s, ∀ table column, c.member j = some (table, column) →
    lower table = lower name → c.accepts table column = true
  names : ∀ id ∈ namesOf s.visits, c.isNoColumn id = true ∨
    NameUnmoved c (namesakesOf name (knownOf c.provider s)) (othersOf name (knownOf c.provider s)) id

namespace Hides

variable {s : Statement} {name : String} {c : Catalog} {dialect : Dialect} {warn : Bool}

theorem targetVerdict_briefs_eq_iff (h : Hides s name) (c : Catalog) {t : Target}
    (ht : t ∈ targets s) :
    ((ofStatement (c.without name).provider dialect warn s).targetVerdict t).map Finding.brief =
        ((ofStatement c.provider dialect warn s).targetVerdict t).map Finding.brief ↔
      ∀ table column, (ofStatement c.provider dialect warn s).member (.target t) =
        some (table, column) → lower table = lower name →
          (ofStatement c.provider dialect warn s).accepts table column = true := by
  cases t with
  | path parts => exact h.pathVerdict_briefs_eq_iff c parts
  | column table column =>
    have hcolumns := h.columnsFor_bare c dialect warn (h.plain_target ht)
    rw [targetVerdict, targetVerdict, memberVerdict_briefs_eq_iff c hcolumns column]
    simp [member]

theorem findings_briefs (h : Hides s name) (wf : c.WellFormed)
    (unmoved : Unmoved (ofStatement c.provider dialect warn s) s name) :
    ((ofStatement (c.without name).provider dialect warn s).findings s).map Finding.brief =
      ((ofStatement c.provider dialect warn s).findings s).map Finding.brief := by
  have hchecked : (ofStatement (c.without name).provider dialect warn s).checked s =
      (ofStatement c.provider dialect warn s).checked s := checked_congr _ rfl s
  rw [findings_eq_flatMap, findings_eq_flatMap, hchecked, List.map_flatMap, List.map_flatMap]
  refine List.flatMap_congr fun j hj => ?_
  have hjudged : j ∈ judged s := mem_judged_of_mem_checked _ rfl hj
  cases j with
  | path parts => exact (h.pathVerdict_briefs_eq_iff c parts).2 (unmoved.members _ hjudged)
  | star qualifier => rw [verdict, verdict, h.qualifierVerdict_without]
  | target t =>
    have ht : t ∈ targets s := by simpa [judged] using hjudged
    exact (h.targetVerdict_briefs_eq_iff c ht).2 (unmoved.members _ hjudged)
  | name id =>
    have hid : id ∈ namesOf s.visits := by simpa [judged] using hjudged
    exact (h.nameVerdict_briefs_eq_iff wf id).2 (unmoved.names id hid)

theorem verdict_briefs_of_findings {a b : ColumnCheck} (places : DistinctPlaces s.idents)
    (ha : a.symbols = .collect s) (hb : b.symbols = .collect s)
    (same : (a.findings s).map Finding.brief = (b.findings s).map Finding.brief) {j : Judged}
    (hj : j ∈ judged s) {i : Ident} (hi : i ∈ j.idents)
    (alone : ∀ c : ColumnCheck, c = a ∨ c = b →
      ((c.verdict j).map Finding.start).Sublist [i.start]) :
    (a.verdict j).map Finding.brief = (b.verdict j).map Finding.brief := by
  have hplace : ∀ found : List Finding,
      (found.filter (·.start == i.start)).map Finding.brief =
        (found.map Finding.brief).filter (·.2.2.1.start == i.start) := by
    intro found
    rw [List.filter_map]
    rfl
  have hat : ((a.verdict j).filter (·.start == i.start)).map Finding.brief =
      ((b.verdict j).filter (·.start == i.start)).map Finding.brief := by
    rw [← a.findings_at ha places hj hi, ← b.findings_at hb places hj hi, hplace, hplace, same]
  rwa [Finding.filter_start_eq_self (alone a (Or.inl rfl)),
    Finding.filter_start_eq_self (alone b (Or.inr rfl))] at hat

theorem unmoved_of_findings (h : Hides s name) (wf : c.WellFormed)
    (places : DistinctPlaces s.idents)
    (same : ((ofStatement (c.without name).provider dialect warn s).findings s).map
        Finding.brief =
      ((ofStatement c.provider dialect warn s).findings s).map Finding.brief) :
    Unmoved (ofStatement c.provider dialect warn s) s name where
  members j hj table column hmember hname := by
    have hbefore := verdict_of_member _ hmember
    have hafter := verdict_of_member _ ((h.member_without c j).trans hmember)
    have hverdict := verdict_briefs_of_findings places rfl rfl same hj hbefore.2 fun d hd => by
      rcases hd with rfl | rfl
      · rw [hafter.1]
        exact memberVerdict_starts _ table column
      · rw [hbefore.1]
        exact memberVerdict_starts _ table column
    cases j with
    | path parts =>
      exact (h.pathVerdict_briefs_eq_iff c parts).1 hverdict table column hmember hname
    | target t =>
      have ht : t ∈ targets s := by simpa [judged] using hj
      exact (h.targetVerdict_briefs_eq_iff c ht).1 hverdict table column hmember hname
    | star qualifier => cases hmember
    | name id => cases hmember
  names id hid := by
    have hjudged : .name id ∈ judged s := by simp [judged, hid]
    have hverdict := verdict_briefs_of_findings places rfl rfl same hjudged
      (List.mem_singleton.2 rfl) fun d _ => d.nameVerdict_starts id
    exact (h.nameVerdict_briefs_eq_iff wf id).1 hverdict

end Hides

end Names

/-! ### The audit of a document -/

namespace Names.Hides

open ColumnCheck

variable {s : Statement} {name : String} {c : Catalog}

theorem catalogFindings_briefs_eq_iff (h : Hides s name) (wf : c.WellFormed) (settings : Settings)
    {d : Audit.Document} (single : d.statements = [s]) :
    (Audit.catalogFindings (c.without name).provider settings d).map Finding.brief =
        (Audit.catalogFindings c.provider settings d).map Finding.brief ↔
      (settings.checkColumnReferences = true →
        ((ofStatement (c.without name).provider settings.dialect settings.warnOnAmbiguousColumn
            s).findings s).map Finding.brief =
          ((ofStatement c.provider settings.dialect settings.warnOnAmbiguousColumn s).findings
            s).map Finding.brief) := by
  have hnamed : d.named = [(s, .collect s)] := by rw [Audit.Document.named, single]; rfl
  have htables := map_tableFindings_congr fun u hu =>
    h.tableVerdict_briefs wf settings.checkSchemaReferences hu
  simp only [Audit.catalogFindings, hnamed, List.map_append, Audit.map_rule,
    List.flatMap_singleton, htables, List.append_cancel_left_eq]
  cases settings.checkColumnReferences with
  | false => simp
  | true =>
    rw [if_pos rfl, if_pos rfl]
    exact ⟨fun hsame _ => hsame, fun hsame => hsame rfl⟩

/-- A common table keeps the catalog tables of its name out of the report as long as nothing is
looked up in them that they lack, and no name alone is judged by them; and only then. -/
theorem audit_without (built : c.Built) (h : Hides s name) {d : Audit.Document}
    (single : d.statements = [s]) {settings : Settings} (all : settings.maxDiagnostics = 0) :
    let unmoved := settings.enabled = true → settings.checkColumnReferences = true →
      Unmoved (ofStatement c.provider settings.dialect settings.warnOnAmbiguousColumn s) s name
    let before := (d.audit (some c.provider) settings).map Finding.brief
    let after := (d.audit (some (c.without name).provider) settings).map Finding.brief
    (unmoved → after = before) ∧ (DistinctPlaces s.idents → (after = before ↔ unmoved)) := by
  intro unmoved before after
  have hreports : after = before ↔ (settings.enabled = true →
      (Audit.catalogFindings (c.without name).provider settings d).map Finding.brief =
        (Audit.catalogFindings c.provider settings d).map Finding.brief) := by
    rw [← Audit.map_documentFindings_eq_iff]
    simp only [before, after, Audit.Document.audit, all, Finding.limit_zero]
    cases settings.enabled <;> simp
  have hfindings := h.catalogFindings_briefs_eq_iff built.wellFormed settings single
  have henough : unmoved → after = before := fun hunmoved => hreports.2 fun henabled =>
    hfindings.2 fun hcolumns => h.findings_briefs built.wellFormed (hunmoved henabled hcolumns)
  refine ⟨henough, fun places => ⟨fun hsame henabled hcolumns => ?_, henough⟩⟩
  exact h.unmoved_of_findings built.wellFormed places
    (hfindings.1 (hreports.1 hsame henabled) hcolumns)

def withUsers : Catalog :=
  Catalog.initial.addTable
    (((TableDef.table (.plain "users")).addColumn (.of "id" "INT")).addColumn (.of "name" "TEXT"))

/-- `WITH users AS (SELECT 1 AS id) SELECT users.id FROM users`, for a column of two letters. -/
def fromCommon (column : String) : Statement :=
  .query (.mk
    [.mk ⟨.onLine "users" 5, []⟩
      (.mk []
        (.select (.mk [] [.aliased (.literal "1") (.onLine column 27)] [] [] none []))
        [])]
    (.select (.mk []
      [.plain (.path [.onLine "users" 38, .onLine column 44])]
      [.mk (.table [.onLine "users" 52] none false []) []] []
      none []))
    [])

theorem withUsers_built : withUsers.Built :=
  .addTable (.addColumn _ (.addColumn _ (.table _))) (.ofDefault "public")

theorem fromCommon_id_audit :
    let s := fromCommon "id"
    let settings : Settings := { maxDiagnostics := 0 }
    let check := ofStatement withUsers.provider settings.dialect settings.warnOnAmbiguousColumn s
    Hides s "users" ∧ Unmoved check s "users" ∧
      ((Audit.Document.mk [] [s]).audit (some (withUsers.without "users").provider) settings).map
          Finding.brief =
        ((Audit.Document.mk [] [s]).audit (some withUsers.provider) settings).map
          Finding.brief := by
  intro s settings check
  have hides : Hides s "users" := ⟨by decide, by decide⟩
  have accepted : ∀ j ∈ judged s, ∀ m ∈ check.member j, lower m.1 = lower "users" →
      check.accepts m.1 m.2 = true := by decide
  have alone : namesOf s.visits = [] := by decide
  have unmoved : Unmoved check s "users" :=
    ⟨fun j hj table column hm => accepted j hj (table, column) hm, by simp [alone]⟩
  exact ⟨hides, unmoved, (audit_without withUsers_built hides rfl rfl).1 fun _ _ => unmoved⟩

/-- The common table `users` has the column `no`, and yet it is missed in the catalog's table. -/
theorem fromCommon_no_reported :
    let s := fromCommon "no"
    let settings : Settings := { maxDiagnostics := 0 }
    withUsers.Built ∧ Hides s "users" ∧ DistinctPlaces s.idents ∧
      ((Audit.Document.mk [] [s]).audit (some (withUsers.without "users").provider) settings).map
        Finding.brief = [] ∧
      ((Audit.Document.mk [] [s]).audit (some withUsers.provider) settings).map Finding.brief =
        [(.columnNotFound, .error, (Ident.onLine "no" 44).range,
          "Column 'no' not found in table 'users'")] :=
  ⟨withUsers_built, ⟨by decide, by decide⟩, ⟨by decide, by decide⟩, by decide, by decide⟩

end Names.Hides

end SqlAudit
