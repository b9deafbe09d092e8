import SqlAudit.Proofs.Catalog.WellFormed
import SqlAudit.Proofs.Names.Rules

/-!
Names without a qualifier that several tables have a column of. All tables that a statement names
count, wherever they stand in it, and the query that a name stands in plays no part: tables of other
operands of a set operation, of queries within, and the target of an INSERT make a name ambiguous as
well as the sources beside it.
-/

namespace SqlAudit

open Sql Text

namespace Names

/-- Columns of one name that belong to tables of different names. -/
def Shared (name : String) (columns others : List ColumnInfo) : Prop :=
  ∃ i ∈ columns, ∃ j ∈ others,
    lower i.name = lower name ∧ lower j.name = lower name ∧ sameName i.table j.table = false

namespace ColumnCheck

variable {c : ColumnCheck} {p : Provider} {dialect : Dialect} {warn : Bool} {s : Statement}

theorem ambiguous_mem_nameVerdict (id : Ident) :
    (Rule.ambiguousColumn, id.range) ∈ (c.nameVerdict id).map Finding.mark ↔
      c.warnAmbiguous = true ∧ c.isNoColumn id = false ∧
        2 ≤ (c.scope.owners id.value).length := by
  rw [nameVerdict]
  cases c.isNoColumn id with
  | true => simp
  | false =>
    rw [if_neg Bool.false_ne_true]
    split
    next hnone =>
      -- a name that no column has has no owners either
      have howners : c.scope.owners id.value = [] := by
        rw [Scope.owners, Option.isNone_iff_eq_none.1 hnone]
        rfl
      simp [unknownName_marks, howners]
    next => simp [knownName_marks]

theorem exists_name_of_ambiguous {f : Finding} (hf : f ∈ c.findings s)
    (hrule : f.rule = .ambiguousColumn) : ∃ id ∈ namesOf s.visits, f ∈ c.nameVerdict id := by
  simp only [findings, List.mem_append, List.mem_flatMap] at hf
  rcases hf with ((⟨parts, _, hf⟩ | ⟨qualifier, _, hf⟩) | ⟨t, _, hf⟩) | ⟨id, hid, hf⟩
  · simpa [hrule] using c.pathVerdict_onlyOf parts f hf
  · simpa [hrule] using c.qualifierVerdict_onlyOf qualifier f hf
  · simpa [hrule] using c.targetVerdict_onlyOf t f hf
  · have hsweep := (List.mem_filter.1 (mem_of_mem_firstByKey hid).1).1
    exact ⟨id, mem_sweep.1 hsweep, hf⟩

theorem mark_of_ambiguous {id : Ident} {f : Finding} (hf : f ∈ c.nameVerdict id)
    (hrule : f.rule = .ambiguousColumn) : f.mark = (.ambiguousColumn, id.range) := by
  rw [nameVerdict] at hf
  split at hf
  · cases hf
  · split at hf
    · simpa [hrule] using c.unknownName_onlyOf id f hf
    · have hmark := List.mem_map_of_mem (f := Finding.mark) hf
      rw [knownName_marks] at hmark
      split at hmark
      · exact List.mem_singleton.1 hmark
      · cases hmark

theorem exists_uses_of_shared {name : String} {k l : KnownTable} (hk : k ∈ knownOf p s)
    (hl : l ∈ knownOf p s) (shared : Shared name k.columns l.columns) :
    ∃ u ∈ (Symbols.collect s).uses, ∃ v ∈ (Symbols.collect s).uses,
      Shared name ((columnsGiven p u.text).getD []) ((columnsGiven p v.text).getD []) := by
  obtain ⟨u, hu, _, hugiven⟩ := exists_use_of_mem_known hk
  obtain ⟨v, hv, _, hvgiven⟩ := exists_use_of_mem_known hl
  refine ⟨u, hu, v, hv, ?_⟩
  rw [hugiven, hvgiven]
  exact shared

theorem two_owners_iff (name : String) :
    2 ≤ ((ofStatement p dialect warn s).scope.owners name).length ↔
      ∃ k ∈ knownOf p s, ∃ l ∈ knownOf p s, Shared name k.columns l.columns :=
  two_le_length_owners

end ColumnCheck

/-- A name is warned of as ambiguous only where tables of different names, each named somewhere in
the statement, have a column of it; of the tables whose names have one lower-case form the first one
with columns counts. With places that are all different this is when a name is warned of that may be
a column. -/
theorem ambiguous_exact (p : Provider) (dialect : Dialect) (warn : Bool) (s : Statement) :
    let c := ColumnCheck.ofStatement p dialect warn s
    let found := columnFindings p dialect warn (.collect s) s
    (∀ f ∈ found, f.rule = .ambiguousColumn → warn = true ∧
      ∃ id ∈ namesOf s.visits, f.range = id.range ∧
        ∃ u ∈ (Symbols.collect s).uses, ∃ v ∈ (Symbols.collect s).uses,
          Shared id.value ((columnsGiven p u.text).getD []) ((columnsGiven p v.text).getD [])) ∧
    (DistinctPlaces s.idents → ∀ id ∈ namesOf s.visits,
      ((.ambiguousColumn, id.range) ∈ Finding.reportedAt found id ↔
        warn = true ∧ c.isNoColumn id = false ∧
          ∃ k ∈ knownOf p s, ∃ l ∈ knownOf p s, Shared id.value k.columns l.columns)) := by
  intro c found
  refine ⟨fun f hf hrule => ?_, fun places id hid => ?_⟩
  · obtain ⟨id, hid, hverdict⟩ := ColumnCheck.exists_name_of_ambiguous hf hrule
    have hmark := ColumnCheck.mark_of_ambiguous hverdict hrule
    have hmem : (Rule.ambiguousColumn, id.range) ∈ (c.nameVerdict id).map Finding.mark :=
      List.mem_map.2 ⟨f, hverdict, hmark⟩
    obtain ⟨hwarn, _, howners⟩ := (ColumnCheck.ambiguous_mem_nameVerdict id).1 hmem
    obtain ⟨k, hk, l, hl, shared⟩ := (ColumnCheck.two_owners_iff id.value).1 howners
    exact ⟨hwarn, id, hid, congrArg Prod.snd hmark, ColumnCheck.exists_uses_of_shared hk hl shared⟩
  · have hjudged : .name id ∈ ColumnCheck.judged s := by simp [ColumnCheck.judged, hid]
    have hat : Finding.reportedAt found id = (c.nameVerdict id).map Finding.mark := by
      rw [← Finding.reportedAt_of_starts (c.nameVerdict_starts id)]
      exact c.reportedAt_findings rfl places hjudged (List.mem_singleton.2 rfl)
    rw [hat, ColumnCheck.ambiguous_mem_nameVerdict, ColumnCheck.two_owners_iff]
    rfl

def tableWithId (name : String) : TableDef :=
  (TableDef.table (.plain name)).addColumn (.of "id" "INT")

def usersAndOrders : Catalog :=
  (Catalog.initial.addTable (tableWithId "users")).addTable (tableWithId "orders")

/-- `SELECT id FROM ‹table›` with a filter, from a column of the line on. -/
def selectId (column : Nat) (table : String) (filter : Option Expr) : Select :=
  .mk [] [.plain (.name (.onLine "id" (column + 7)))]
    [.mk (.table [.onLine table (column + 15)] none false []) []] [] filter []

/-- `SELECT id FROM users UNION SELECT id FROM orders`. -/
def idsOfBoth : Statement :=
  .query (.mk []
    (.operation (.select (selectId 0 "users" none)) (.select (selectId 27 "orders" none))) [])

/-- `EXISTS (SELECT 1 FROM orders)` after `SELECT id FROM users WHERE`. -/
def someOrder : Expr :=
  .subquery [.text "EXISTS (", .operand 0, .text ")"] []
    (.mk []
      (.select (.mk [] [.plain (.literal "1")]
        [.mk (.table [.onLine "orders" 49] none false []) []] [] none [])) [])

/-- `SELECT id FROM users WHERE EXISTS (SELECT 1 FROM orders)`. -/
def idsIfOrders : Statement :=
  .query (.mk [] (.select (selectId 0 "users" (some someOrder))) [])

/-- `INSERT INTO orders SELECT id FROM users`. -/
def idsIntoOrders : Statement :=
  .insert [.onLine "orders" 12] none [] (some (.mk [] (.select (selectId 19 "users" none)) [])) []

/-- The name `id` stands in a SELECT from `users` alone. It is warned of all the same where the
other table with an `id` stands in another operand, in a query within, or is what rows are inserted
to. -/
theorem unseen_tables_make_ambiguous :
    usersAndOrders.Built ∧
      (selectId 0 "users" none).sources =
        [.mk (.table [.onLine "users" 15] none false []) []] ∧
      (selectId 0 "users" (some someOrder)).sources =
        [.mk (.table [.onLine "users" 15] none false []) []] ∧
      (selectId 19 "users" none).sources =
        [.mk (.table [.onLine "users" 34] none false []) []] ∧
      Finding.reportedAt
          (columnFindings usersAndOrders.provider .generic true (.collect idsOfBoth) idsOfBoth)
          (.onLine "id" 7) =
        [(.ambiguousColumn, (Ident.onLine "id" 7).range)] ∧
      Finding.reportedAt
          (columnFindings usersAndOrders.provider .generic true (.collect idsIfOrders) idsIfOrders)
          (.onLine "id" 7) =
        [(.ambiguousColumn, (Ident.onLine "id" 7).range)] ∧
      Finding.reportedAt
          (columnFindings usersAndOrders.provider .generic true (.collect idsIntoOrders)
            idsIntoOrders)
          (.onLine "id" 26) =
        [(.ambiguousColumn, (Ident.onLine "id" 26).range)] :=
  ⟨.addTable (.addColumn _ (.table _)) (.addTable (.addColumn _ (.table _)) (.ofDefault "public")),
    rfl, rfl, rfl, by decide, by decide, by decide⟩

theorem idsOfBoth_ambiguous :
    let found :=
      columnFindings usersAndOrders.provider .generic true (.collect idsOfBoth) idsOfBoth
    DistinctPlaces idsOfBoth.idents ∧
      (Rule.ambiguousColumn, (Ident.onLine "id" 7).range) ∈
        Finding.reportedAt found (.onLine "id" 7) ∧
      ∃ f ∈ found, f.rule = .ambiguousColumn ∧
        ∃ id ∈ namesOf idsOfBoth.visits, f.range = id.range := by
  intro found
  have places : DistinctPlaces idsOfBoth.idents := ⟨by decide, by decide⟩
  obtain ⟨only, exact⟩ := ambiguous_exact usersAndOrders.provider .generic true idsOfBoth
  have hk : KnownTable.mk "users" (tableWithId "users").columnInfos ∈
      knownOf usersAndOrders.provider idsOfBoth := by decide
  have hl : KnownTable.mk "orders" (tableWithId "orders").columnInfos ∈
      knownOf usersAndOrders.provider idsOfBoth := by decide
  have hshared : Shared "id" (tableWithId "users").columnInfos
      (tableWithId "orders").columnInfos := by
    exact ⟨_, .head _, _, .head _, by decide, by decide, by decide⟩
  have hreported := (exact places (.onLine "id" 7) (by decide)).2
    ⟨rfl, by decide, _, hk, _, hl, hshared⟩
  obtain ⟨f, hf, hmark⟩ := List.mem_map.1 hreported
  have hrule : f.rule = .ambiguousColumn := congrArg Prod.fst hmark
  have hfound := (List.mem_filter.1 hf).1
  obtain ⟨_, id, hid, hrange, _⟩ := only f hfound hrule
  exact ⟨places, hreported, f, hfound, hrule, id, hid, hrange⟩

end Names

end SqlAudit
