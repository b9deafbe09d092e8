import SqlAudit.Proofs.Audit.Comparison
import SqlAudit.Proofs.Audit.Switches
import SqlAudit.Proofs.Audit.WithoutCatalog
import SqlAudit.Proofs.Catalog.AddedColumn
import SqlAudit.Proofs.Names.Ambiguity
import SqlAudit.Proofs.Names.Tables

/-!
Audits against a catalog of which a table has been given another column. Every look-up succeeds that
succeeded before, so nothing is missed that was not missed before; that a name alone is now shared by
several tables is the only thing that can be said for the first time.
-/

namespace SqlAudit

open Sql Text
open ColumnInfo (Covers)

namespace Names

/-! ### Known tables -/

/-- A known table of which more columns may be known. -/
structure KnownTable.Grows (k l : KnownTable) : Prop where
  name : l.name = k.name
  columns : Covers k.columns l.columns

namespace KnownTable.Grows

variable {known more : List KnownTable}

theorem key_eq {k l : KnownTable} (h : k.Grows l) : l.key = k.key := by
  rw [KnownTable.key, KnownTable.key, h.name]

theorem any_key (h : List.Forall₂ KnownTable.Grows known more) (key : String) :
    more.any (·.key == key) = known.any (·.key == key) := by
  induction h with
  | nil => rfl
  | cons hkl _ ih => rw [List.any_cons, List.any_cons, hkl.key_eq, ih]

theorem find?_key (h : List.Forall₂ KnownTable.Grows known more) (key : String) :
    Option.Rel Covers ((known.find? (·.key == key)).map (·.columns))
      ((more.find? (·.key == key)).map (·.columns)) := by
  induction h with
  | nil => exact .none
  | @cons k l _ _ hkl _ ih =>
    rw [List.find?_cons, List.find?_cons, hkl.key_eq]
    cases k.key == key with
    | true => exact .some hkl.columns
    | false => exact ih

theorem exists_of_mem (h : List.Forall₂ KnownTable.Grows known more) {k : KnownTable}
    (hk : k ∈ known) : ∃ l ∈ more, k.Grows l := by
  induction h with
  | nil => cases hk
  | cons hkl _ ih =>
    rcases List.mem_cons.1 hk with rfl | hk
    · exact ⟨_, List.mem_cons_self, hkl⟩
    · obtain ⟨l, hl, hgrows⟩ := ih hk
      exact ⟨l, List.mem_cons_of_mem _ hl, hgrows⟩

theorem hasColumn {k l : KnownTable} (h : k.Grows l) {name : String} (has : k.hasColumn name) :
    l.hasColumn name := by
  obtain ⟨info, hinfo, hname⟩ := has
  obtain ⟨other, hother, hsame⟩ := h.columns.exists_of_mem hinfo
  exact ⟨other, hother, by rw [hsame, hname]⟩

end KnownTable.Grows

end Names

namespace Provider.Extends

open Names

variable {p q : Provider}

theorem listsAlike (h : q.Extends p) (name : String) : ListsAlike q p name where
  inDefault := by rw [h.defaultTables]
  anywhere := by rw [inAnySchema, inAnySchema, h.schemaNames, h.tablesIn]
  within schema := by rw [h.tablesIn]

theorem columnsGiven (h : q.Extends p) (t : TableText) :
    Option.Rel Covers (columnsGiven p t) (columnsGiven q t) :=
  covers_filter (h.columns? t.schema t.name)

theorem learn (h : q.Extends p) {known more : List KnownTable}
    (grows : List.Forall₂ KnownTable.Grows known more) (t : TableText) :
    List.Forall₂ KnownTable.Grows (learn p known t) (learn q more t) := by
  rw [Names.learn, Names.learn, KnownTable.Grows.any_key grows]
  split
  next => exact grows
  next =>
    refine List.rel_append grows ?_
    have hgiven := h.columnsGiven t
    generalize Names.columnsGiven p t = given at hgiven ⊢
    generalize Names.columnsGiven q t = givenMore at hgiven ⊢
    cases hgiven with
    | none => exact .nil
    | some hcovers => exact .cons ⟨rfl, hcovers⟩ .nil

theorem knownTablesOf (h : q.Extends p) (tables : List TableText) :
    List.Forall₂ KnownTable.Grows (knownTablesOf p tables) (knownTablesOf q tables) := by
  induction tables using List.reverseRecOn with
  | nil => exact .nil
  | append_singleton ts t ih =>
    rw [knownTablesOf_concat, knownTablesOf_concat]
    exact h.learn ih t

end Provider.Extends

/-! ### Verdicts -/

namespace Names.ColumnCheck

variable {p q : Provider} {dialect : Dialect} {warn : Bool} {s : Statement}

section Scope

variable (h : q.Extends p)
include h

theorem columnsOf_covers (table : String) :
    Option.Rel Covers ((ofStatement p dialect warn s).scope.columnsOf table)
      ((ofStatement q dialect false s).scope.columnsOf table) := by
  rw [scope_ofStatement.columnsOf_eq, scope_ofStatement.columnsOf_eq]
  exact KnownTable.Grows.find?_key (h.knownTablesOf _) (lower table)

theorem columnsFor_covers (table : String) :
    Option.Rel Covers ((ofStatement p dialect warn s).columnsFor table)
      ((ofStatement q dialect false s).columnsFor table) :=
  covers_filter (covers_or (columnsOf_covers h table) (h.columns? none table))

theorem hasTables_extended :
    (ofStatement q dialect false s).scope.hasTables =
      (ofStatement p dialect warn s).scope.hasTables := by
  rw [Bool.eq_iff_iff, hasTables_iff, hasTables_iff]
  have hlength : (knownOf p s).length = (knownOf q s).length :=
    (h.knownTablesOf (Symbols.collect s).tables).length_eq
  rw [← List.length_pos_iff, ← List.length_pos_iff, hlength]

theorem candidates_extended {name : String}
    (missing : ((ofStatement q dialect false s).scope.candidates name).isNone = true) :
    ((ofStatement p dialect warn s).scope.candidates name).isNone = true := by
  rw [candidates_isNone_iff] at missing ⊢
  intro k hk has
  obtain ⟨l, hl, hgrows⟩ :=
    KnownTable.Grows.exists_of_mem (h.knownTablesOf (Symbols.collect s).tables) hk
  exact missing l hl (hgrows.hasColumn has)

theorem qualified_extended (qualifier : String) :
    (ofStatement q dialect false s).qualified qualifier =
      (ofStatement p dialect warn s).qualified qualifier := by
  have hnone : ((ofStatement q dialect false s).scope.columnsOf qualifier).isNone =
      ((ofStatement p dialect warn s).scope.columnsOf qualifier).isNone :=
    covers_isNone (columnsOf_covers h qualifier)
  unfold qualified
  rw [hnone]
  rfl

theorem accepts_extended {table : String} {column : Ident}
    (accepted : (ofStatement p dialect warn s).accepts table column = true) :
    (ofStatement q dialect false s).accepts table column = true := by
  rw [accepts, Bool.or_eq_true] at accepted ⊢
  refine accepted.imp_right fun hall => ?_
  have hcolumns : Option.Rel Covers ((ofStatement p dialect warn s).columnsFor table)
      ((ofStatement q dialect false s).columnsFor table) := columnsFor_covers h table
  generalize (ofStatement p dialect warn s).columnsFor table = columns at hall hcolumns
  generalize (ofStatement q dialect false s).columnsFor table = more at hcolumns ⊢
  cases hcolumns with
  | none => rfl
  | some hcovers => exact hcovers.any_name (p := (sameName · column.value)) hall

theorem memberVerdict_sublist (table : String) (column : Ident) :
    (((ofStatement q dialect false s).memberVerdict table column).map Finding.brief).Sublist
      (((ofStatement p dialect warn s).memberVerdict table column).map Finding.brief) := by
  rw [memberVerdict_briefs, memberVerdict_briefs]
  cases accepted : (ofStatement p dialect warn s).accepts table column with
  | true => rw [accepts_extended h accepted]
  | false =>
    rw [if_neg Bool.false_ne_true]
    split
    next => exact List.nil_sublist _
    next => exact List.Sublist.refl _

theorem pathVerdict_sublist (parts : Path) :
    (((ofStatement q dialect false s).pathVerdict parts).map Finding.brief).Sublist
      (((ofStatement p dialect warn s).pathVerdict parts).map Finding.brief) := by
  have hqualified : ∀ qualifier, (ofStatement q dialect false s).qualified qualifier =
      (ofStatement p dialect warn s).qualified qualifier := qualified_extended h
  unfold pathVerdict
  match parts.reverse with
  | [] => exact List.Sublist.refl _
  | [_] => exact List.Sublist.refl _
  | column :: qualifier :: _ =>
    simp only [hqualified]
    cases (ofStatement p dialect warn s).qualified qualifier.value with
    | table table => exact memberVerdict_sublist h table column
    | unchecked => exact List.Sublist.refl _
    | unknown => exact List.Sublist.refl _

end Scope

theorem nameVerdict_sublist (h : q.Extends p) (id : Ident) :
    (((ofStatement q dialect false s).nameVerdict id).map Finding.brief).Sublist
      (((ofStatement p dialect warn s).nameVerdict id).map Finding.brief) := by
  have hnoColumn : (ofStatement q dialect false s).isNoColumn id =
      (ofStatement p dialect warn s).isNoColumn id := rfl
  have htables : (ofStatement q dialect false s).scope.hasTables =
      (ofStatement p dialect warn s).scope.hasTables := hasTables_extended h
  rw [nameVerdict, nameVerdict, hnoColumn]
  split
  next => exact List.Sublist.refl _
  next =>
    split
    next hnone =>
      rw [if_pos (candidates_extended h hnone), unknownName_briefs, unknownName_briefs,
        htables]
      exact List.Sublist.refl _
    next =>
      rw [knownName_briefs, if_neg (by simp [ofStatement])]
      exact List.nil_sublist _

theorem verdict_sublist (h : q.Extends p) (j : Judged) :
    (((ofStatement q dialect false s).verdict j).map Finding.brief).Sublist
      (((ofStatement p dialect warn s).verdict j).map Finding.brief) := by
  cases j with
  | path parts => exact pathVerdict_sublist h parts
  | star qualifier =>
    have hqualified : (ofStatement q dialect false s).qualified qualifier.value =
        (ofStatement p dialect warn s).qualified qualifier.value := qualified_extended h _
    rw [verdict, verdict, qualifierVerdict, qualifierVerdict, hqualified]
  | target t =>
    cases t with
    | column table name => exact memberVerdict_sublist h table name
    | path parts => exact pathVerdict_sublist h parts
  | name id => exact nameVerdict_sublist h id

theorem findings_sublist (h : q.Extends p) :
    (((ofStatement q dialect false s).findings s).map Finding.brief).Sublist
      (((ofStatement p dialect warn s).findings s).map Finding.brief) := by
  have hchecked : (ofStatement q dialect false s).checked s =
      (ofStatement p dialect warn s).checked s := checked_congr _ rfl s
  rw [findings_eq_flatMap, findings_eq_flatMap, hchecked, List.map_flatMap, List.map_flatMap]
  exact List.Sublist.flatMap_right _ fun j _ => verdict_sublist h j

theorem severity_of_ambiguous {c : ColumnCheck} {id : Ident} {f : Finding}
    (hf : f ∈ c.nameVerdict id) (hrule : f.rule = .ambiguousColumn) : f.severity = .warning := by
  rw [nameVerdict] at hf
  split at hf
  · cases hf
  · split at hf
    · simpa [hrule] using c.unknownName_onlyOf id f hf
    · have hbrief := List.mem_map_of_mem (f := Finding.brief) hf
      rw [knownName_briefs] at hbrief
      split at hbrief
      · exact congrArg (·.2.1) (List.mem_singleton.1 hbrief)
      · cases hbrief

end Names.ColumnCheck

/-! ### The audit -/

namespace Audit

variable {p q : Provider}

theorem catalogFindings_sublist (h : q.Extends p) (s : Settings) (d : Document) :
    ((catalogFindings q (Switch.ambiguousNames.off s) d).map Finding.brief).Sublist
      ((catalogFindings p s d).map Finding.brief) := by
  have htables : (d.named.flatMap fun n =>
      Names.tableFindings q s.checkSchemaReferences n.2).map Finding.brief =
        (d.named.flatMap fun n =>
          Names.tableFindings p s.checkSchemaReferences n.2).map Finding.brief := by
    rw [List.map_flatMap, List.map_flatMap]
    refine List.flatMap_congr fun n _ => Names.map_tableFindings_congr fun u _ => ?_
    exact (h.listsAlike u.table.value).tableVerdict_briefs s.checkSchemaReferences n.2
  have hcolumns : ((d.named.flatMap fun n =>
      Names.columnFindings q s.dialect false n.2 n.1).map Finding.brief).Sublist
        ((d.named.flatMap fun n =>
          Names.columnFindings p s.dialect s.warnOnAmbiguousColumn n.2 n.1).map Finding.brief) := by
    rw [Document.named, List.flatMap_map, List.flatMap_map, List.map_flatMap, List.map_flatMap]
    exact List.Sublist.flatMap_right _ fun n _ => Names.ColumnCheck.findings_sublist h
  rw [catalogFindings, catalogFindings, List.map_append, List.map_append]
  exact (map_rule_sublist s.checkTableReferences (htables ▸ List.Sublist.refl _)).append
    (map_rule_sublist s.checkColumnReferences hcolumns)

theorem Phase.findings_sublist (h : q.Extends p) (s : Settings) (d : Document) (phase : Phase) :
    ((phase.findings (some q) (Switch.ambiguousNames.off s) d).map Finding.brief).Sublist
      ((phase.findings (some p) s d).map Finding.brief) := by
  by_cases hphase : phase = catalog
  · subst hphase
    exact catalogFindings_sublist h s d
  · rw [Switch.ambiguousNames.findings_off_of_ne _ s d hphase,
      findings_of_ne hphase (some q) (some p)]

theorem audit_quiet_sublist (h : q.Extends p) {s : Settings} (unlimited : s.maxDiagnostics = 0)
    (text : String) :
    (((audit (some q) s text).filter (·.rule != .ambiguousColumn)).map Finding.brief).Sublist
      ((audit (some p) s text).map Finding.brief) := by
  have hquiet := Switch.ambiguousNames.audit_off_eq_filter (some q) unlimited text
  rw [Switch.rule] at hquiet
  rw [← hquiet]
  exact map_audit_sublist (Switch.ambiguousNames.enabled_off s)
    ((Switch.ambiguousNames.maxDiagnostics_off s).trans unlimited) unlimited
    (Phase.findings_sublist h s) text

/-! ### Ambiguous names -/

theorem mem_of_mem_rule {on : Bool} {found : List Finding} {f : Finding} (h : f ∈ rule on found) :
    f ∈ found := by
  cases on with
  | true => exact h
  | false => cases h

theorem exists_name_of_ambiguous {p : Provider} {s : Settings} {d : Document} {f : Finding}
    (hf : f ∈ catalogFindings p s d) (hrule : f.rule = .ambiguousColumn) :
    ∃ (c : Names.ColumnCheck) (id : Ident), f ∈ c.nameVerdict id := by
  rw [catalogFindings] at hf
  rcases List.mem_append.1 hf with htables | hcolumns
  · obtain ⟨n, _, hn⟩ := List.mem_flatMap.1 (mem_of_mem_rule htables)
    have honly := Names.tableFindings_onlyOf p s.checkSchemaReferences n.2 f hn
    simp [hrule] at honly
  · obtain ⟨n, _, hn⟩ := List.mem_flatMap.1 (mem_of_mem_rule hcolumns)
    rw [Names.columnFindings] at hn
    obtain ⟨id, _, hverdict⟩ := Names.ColumnCheck.exists_name_of_ambiguous hn hrule
    exact ⟨_, id, hverdict⟩

theorem severity_of_ambiguous {p : Provider} {s : Settings} (unlimited : s.maxDiagnostics = 0)
    {text : String} {f : Finding} (hf : f ∈ audit (some p) s text)
    (hrule : f.rule = .ambiguousColumn) : f.severity = .warning := by
  rw [audit, unlimited, Finding.limit_zero] at hf
  split at hf
  next =>
    cases hread : Document.ofText text with
    | error e =>
      rw [hread] at hf
      rw [List.mem_singleton.1 hf] at hrule
      cases hrule
    | ok d =>
      rw [hread] at hf
      change f ∈ documentFindings (some p) s d at hf
      rw [documentFindings_eq] at hf
      obtain ⟨phase, _, hphase⟩ := List.mem_flatMap.1 hf
      have hrules := phase.findings_onlyOf (some p) s d f hphase
      rw [hrule] at hrules
      have hcatalog : phase = .catalog := by
        revert hrules
        cases phase <;> decide
      rw [hcatalog, Phase.findings] at hphase
      obtain ⟨c, id, hverdict⟩ := exists_name_of_ambiguous hphase hrule
      exact Names.ColumnCheck.severity_of_ambiguous hverdict hrule
  next => cases hf

end Audit

namespace Catalog

open Audit

variable {c : Catalog}

/-- Giving a table that has columns another one does not make an audit report an error: what is
reported then, other than names that are ambiguous, was reported before. -/
theorem added_column_audit (built : c.Built) {n : TableName} {t : TableDef}
    (ht : c.table? n = some t) (nonempty : t.columns.isEmpty = false) (column : ColumnDef)
    {s : Settings} (unlimited : s.maxDiagnostics = 0) (text : String) :
    let before := audit (some c.provider) s text
    let after := audit (some (c.updateTable n (·.addColumn column)).provider) s text
    ((after.filter (·.isError)).map Finding.brief).Sublist
        ((before.filter (·.isError)).map Finding.brief) ∧
      ((after.filter (·.rule != .ambiguousColumn)).map Finding.brief).Sublist
        (before.map Finding.brief) ∧
      ∀ f ∈ after, f.brief ∉ before.map Finding.brief →
        f.rule = .ambiguousColumn ∧ f.severity = .warning := by
  intro before after
  have hextends := built.wellFormed.extends_addColumn ht nonempty column
  have hquiet := audit_quiet_sublist hextends unlimited text
  have herrors : ∀ found : List Finding, (found.filter (·.isError)).map Finding.brief =
      (found.map Finding.brief).filter (·.2.1 == .error) := by
    intro found
    rw [List.filter_map]
    rfl
  have hother : after.filter (·.isError) =
      (after.filter (·.rule != .ambiguousColumn)).filter (·.isError) := by
    rw [List.filter_filter]
    refine List.filter_congr fun f hf => ?_
    by_cases hrule : f.rule = .ambiguousColumn
    · simp [Finding.isError, severity_of_ambiguous unlimited hf hrule]
    · simp [hrule]
  refine ⟨?_, hquiet, fun f hf hnew => ?_⟩
  · rw [hother, herrors, herrors]
    exact hquiet.filter _
  · have hrule : f.rule = .ambiguousColumn := by
      by_contra hother
      refine hnew (hquiet.subset (List.mem_map_of_mem (List.mem_filter.2 ⟨hf, ?_⟩)))
      simpa using hother
    exact ⟨hrule, severity_of_ambiguous unlimited hf hrule⟩

/-- Users with an `id`, and orders with a `no`. -/
def numberedOrders : Catalog :=
  (initial.addTable ((TableDef.table (.plain "users")).addColumn (.of "id" "INT"))).addTable
    ((TableDef.table (.plain "orders")).addColumn (.of "no" "INT"))

/-- With a `no` of their own, users no longer lack it; a `no` alone may then be that of either. -/
theorem numberedOrders_users_no :
    let c := numberedOrders
    let column := ColumnDef.of "no" "INT"
    let s : Settings := { maxDiagnostics := 0 }
    let text := "DELETE FROM users USING orders WHERE users.no = 1 AND no = 2"
    let before := audit (some c.provider) s text
    let after := audit (some (c.updateTable (.plain "users") (·.addColumn column)).provider) s text
    c.Built ∧ (c.table? (.plain "users")).any (!·.columns.isEmpty) = true ∧
      before.map (·.rule) = [.columnNotFound] ∧ after.map (·.rule) = [.ambiguousColumn] ∧
      ((after.filter (·.isError)).map Finding.brief).Sublist
        ((before.filter (·.isError)).map Finding.brief) := by
  intro c column s text before after
  have built : c.Built :=
    .addTable (.addColumn _ (.table _)) (.addTable (.addColumn _ (.table _)) (.ofDefault "public"))
  have found : c.table? (.plain "users") =
      some ((TableDef.table (.plain "users")).addColumn (.of "id" "INT")) := by decide
  have quiet := added_column_audit built found rfl column (s := s) rfl text
  exact ⟨built, by decide, by decide +kernel, by decide +kernel, quiet.1⟩

end Catalog

end SqlAudit
