import SqlAudit.Proofs.Names.Symbols
import SqlAudit.Proofs.Sql.Nodes

/-!
The names of a statement are those of its nodes: every table is used once for each place that names
it, every alias is defined once for each place that gives it, and nothing else is used or defined.
-/

namespace SqlAudit

open Sql Names Text

namespace Sql

def SelectItem.alias? : SelectItem → Option Ident
  | aliased _ name => some name
  | _ => none

def SelectItem.starQualifier? : SelectItem → Option Ident
  | qualifiedStar qualifier _ => qualifier.getLast?
  | _ => none

namespace Node

def useOf (name : Path) (a : Option Ident) : Option TableUse :=
  name.getLast?.map fun table => ⟨name.dropLast.getLast?, table, a⟩

/-- The tables that a node names: a table that is not called, or the target of an INSERT. -/
def uses : Node → List TableUse
  | statement (.insert target a _ _ _) => (useOf target a).toList
  | factor (.table name a false _) => (useOf name (a.map (·.name))).toList
  | _ => []

def otherAliases : Node → List TableAlias
  | factor (.table _ _ false _) => []
  | factor f => f.alias?.toList
  | _ => []

def itemAliases : Node → List Ident
  | select s => s.items.filterMap SelectItem.alias?
  | _ => []

def ctes : Node → List Ident
  | query q => q.ctes.map (·.header.name)
  | _ => []

def listedColumns : Node → List Ident
  | query q => q.ctes.flatMap (·.header.columns)
  | factor f => f.alias?.toList.flatMap (·.columns)
  | _ => []

def starQualifiers : Node → List Ident
  | select s => s.items.filterMap SelectItem.starQualifier?
  | _ => []

end Node

end Sql

namespace Names

/-- The names are those that the nodes of a statement use and define, each as often as it stands
there; definitions are in reading order. -/
structure Symbols.Covers (symbols : Symbols) (s : Statement) : Prop where
  uses : symbols.uses.Perm (s.nodes.flatMap Node.uses)
  definitions : (symbols.definitions.map fun d => (d.name, d.kind)).Perm
    ((symbols.uses.filterMap (·.alias?)).map (·, .table) ++
      (s.nodes.flatMap Node.otherAliases).map (fun a => (a.name, .table)) ++
      (s.nodes.flatMap Node.itemAliases).map (·, .column))
  sorted : Position.Sorted (·.name.range.start) symbols.definitions
  derived : ∀ key, key ∈ symbols.derived ↔
    ∃ a ∈ s.nodes.flatMap Node.otherAliases, lower a.name.value = key
  ctes : ∀ key, key ∈ symbols.ctes ↔ ∃ i ∈ s.nodes.flatMap Node.ctes, lower i.value = key
  outputs : ∀ key, key ∈ symbols.outputs ↔
    ∃ i ∈ s.nodes.flatMap Node.itemAliases ++ s.nodes.flatMap Node.listedColumns,
      lower i.value = key
  starQualifiers : symbols.starQualifiers.Perm (s.nodes.flatMap Node.starQualifiers)

/-! ### Visits and the nodes they come to -/

theorem TableUse.ofPath_eq (name : Path) (a : Option Ident) :
    TableUse.ofPath name a = (Node.useOf name a).toList := by
  rw [Node.useOf, ← List.head?_reverse, ← List.head?_reverse, ← List.tail_reverse, ofPath]
  match name.reverse with
  | [] => rfl
  | [table] => rfl
  | table :: schema :: front => rfl

end Names

namespace Sql

theorem SetExpr.items_eq : ∀ b : SetExpr, b.items = b.ownSelects.flatMap Select.items
  | .select s => (List.append_nil s.items).symm
  | .operation l r => by
    rw [SetExpr.items, SetExpr.ownSelects, List.flatMap_append, l.items_eq, r.items_eq]
  | .nested _ => rfl
  | .rows _ => rfl
  | .statement _ => rfl
  | .table => rfl

namespace Visit

variable {α : Type}

theorem flatMap_nodes_enter {f : Node → List α} {g : SelectItem → Option α}
    (hselect : ∀ s, f (.select s) = s.items.filterMap g) (q : Query) :
    (enter q).nodes.flatMap f = f (.query q) ++ (enter q).items.filterMap g := by
  have hitems : (enter q).items = q.body.ownSelects.flatMap Select.items := q.body.items_eq
  rw [nodes, List.flatMap_cons, List.flatMap_map, hitems, List.filterMap_flatMap]
  simp only [hselect]

theorem uses_eq (v : Visit) : v.uses = v.nodes.flatMap Node.uses := by
  cases v with
  | statement s =>
    cases s <;> simp [Visit.uses, Visit.nodes, Node.uses, TableUse.ofPath_eq]
  | enter q => simp [Visit.uses, Visit.nodes, Node.uses, List.flatMap_map]
  | factor f =>
    cases f with
    | table name a called es =>
      cases called <;> simp [Visit.uses, Visit.nodes, Node.uses, TableUse.ofPath_eq]
    | derived | nested | function | pivot | document => rfl
  | leave | expr => rfl

theorem opaqueAlias_eq (v : Visit) :
    v.opaqueAlias.toList = v.nodes.flatMap Node.otherAliases := by
  cases v with
  | statement s => rfl
  | enter q => simp [opaqueAlias, Visit.nodes, Node.otherAliases, List.flatMap_map]
  | factor f =>
    cases f with
    | table name a called es =>
      cases called <;> simp [opaqueAlias, Visit.nodes, Node.otherAliases, Factor.alias?]
    | derived | nested | function | pivot | document =>
      simp [opaqueAlias, Visit.nodes, Node.otherAliases, Factor.alias?]
  | leave | expr => rfl

theorem itemAliases_eq (v : Visit) :
    v.items.filterMap SelectItem.alias? = v.nodes.flatMap Node.itemAliases := by
  cases v with
  | enter q => exact (flatMap_nodes_enter (f := Node.itemAliases) (fun _ => rfl) q).symm
  | statement | factor | leave | expr => rfl

theorem starQualifiers_eq (v : Visit) :
    v.starQualifiers = v.nodes.flatMap Node.starQualifiers := by
  cases v with
  | enter q => exact (flatMap_nodes_enter (f := Node.starQualifiers) (fun _ => rfl) q).symm
  | statement | factor | leave | expr => rfl

theorem ctes_eq (v : Visit) : v.ctes = v.nodes.flatMap Node.ctes := by
  cases v with
  | enter q => simp [ctes, Visit.nodes, Node.ctes, List.flatMap_map]
  | statement | factor | leave | expr => rfl

theorem listedColumns_eq (v : Visit) :
    v.columnLists.flatMap (·.columns) = v.nodes.flatMap Node.listedColumns := by
  cases v with
  | enter q => simp [columnLists, Visit.nodes, Node.listedColumns, List.flatMap_map]
  | factor f => simp [columnLists, Visit.nodes, Node.listedColumns]
  | statement | leave | expr => rfl

/-- What is read off the visits of a statement, visit by visit, is read off its nodes. -/
theorem flatMap_visits_perm {f : Visit → List α} {g : Node → List α}
    (h : ∀ v, f v = v.nodes.flatMap g) (s : Statement) :
    (s.visits.flatMap f).Perm (s.nodes.flatMap g) := by
  have hnodes : s.visits.flatMap f = (nodesOf s.visits).flatMap g := by
    rw [nodesOf, List.flatMap_assoc]
    exact congrArg s.visits.flatMap (funext h)
  rw [hnodes]
  exact (Statement.visits_perm s).flatMap_right g

theorem aliases_eq (v : Visit) :
    v.aliases =
      (v.uses.filterMap (·.alias?)).map (·, .table) ++
        v.opaqueAlias.toList.map (fun a => (a.name, .table)) ++
        (v.items.filterMap SelectItem.alias?).map (·, .column) := by
  have named : (v.items.filterMap SelectItem.alias?).map (·, AliasKind.column) =
      v.items.filterMap fun item => item.alias?.map (·, .column) := List.map_filterMap
  rw [aliases, named]
  refine congrArg (_ ++ ·) (List.filterMap_congr fun item _ => ?_)
  cases item <;> rfl

end Visit

end Sql

namespace Names

theorem map_definitionsFrom (depth : Nat) (visits : List Visit) :
    (definitionsFrom depth visits).map (fun d => (d.name, d.kind)) =
      visits.flatMap Visit.aliases := by
  induction visits generalizing depth with
  | nil => rfl
  | cons v visits ih =>
    rw [definitionsFrom, List.map_append, ih, List.map_map, List.flatMap_cons]
    exact congrArg (· ++ visits.flatMap Visit.aliases) (List.map_id v.aliases)

theorem flatMap_aliases_perm (visits : List Visit) :
    (visits.flatMap Visit.aliases).Perm
      (((visits.flatMap Visit.uses).filterMap (·.alias?)).map (·, .table) ++
        (visits.flatMap (·.opaqueAlias.toList)).map (fun a => (a.name, .table)) ++
        (visits.flatMap (·.items.filterMap SelectItem.alias?)).map (·, .column)) := by
  simp only [List.filterMap_flatMap, List.map_flatMap]
  have tables := List.flatMap_append_perm visits
    (fun v => (v.uses.filterMap (·.alias?)).map (·, AliasKind.table))
    (fun v => v.opaqueAlias.toList.map fun a => (a.name, AliasKind.table))
  refine .symm ((tables.append_right _).trans ?_)
  refine (List.flatMap_append_perm visits _ _).trans (.of_eq ?_)
  exact congrArg visits.flatMap (funext fun v => v.aliases_eq.symm)

theorem columnAliases_perm (visits : List Visit) :
    (((visits.flatMap Visit.aliases).filter (·.2 == .column)).map (·.1)).Perm
      (visits.flatMap (·.items.filterMap SelectItem.alias?)) := by
  have columns := ((flatMap_aliases_perm visits).filter (·.2 == .column)).map (·.1)
  have other : (AliasKind.table == AliasKind.column) = false := rfl
  simpa [List.filter_append, List.filter_map, Function.comp_def, other] using columns

/-- The names that are collected for a statement are all those of its nodes, at any depth, and no
others. -/
theorem collect_covers (s : Statement) : (Symbols.collect s).Covers s where
  uses := Visit.flatMap_visits_perm Visit.uses_eq s
  definitions := by
    have others := Visit.flatMap_visits_perm Visit.opaqueAlias_eq s
    have items := Visit.flatMap_visits_perm Visit.itemAliases_eq s
    have sorted : (Symbols.collect s).definitions.Perm (definitionsFrom 0 s.visits) :=
      Position.sortOn_perm _
    have marks := sorted.map fun d => (d.name, d.kind)
    rw [map_definitionsFrom] at marks
    refine (marks.trans (flatMap_aliases_perm s.visits)).trans ?_
    exact ((others.map _).append_left _).append (items.map _)
  sorted := Position.sorted_sortOn _ _
  derived key := by
    have others := Visit.flatMap_visits_perm Visit.opaqueAlias_eq s
    rw [← List.filterMap_eq_flatMap_toList] at others
    simp only [← others.mem_iff]
    exact List.mem_map
  ctes key := by
    have ctes := Visit.flatMap_visits_perm Visit.ctes_eq s
    simp only [← ctes.mem_iff]
    exact List.mem_map
  outputs key := by
    have items := (columnAliases_perm s.visits).trans
      (Visit.flatMap_visits_perm Visit.itemAliases_eq s)
    have columns := Visit.flatMap_visits_perm Visit.listedColumns_eq s
    rw [← List.flatMap_assoc] at columns
    have outputs := List.perm_append_comm.trans (items.append columns)
    simp only [← outputs.mem_iff]
    exact List.mem_map
  starQualifiers := Visit.flatMap_visits_perm Visit.starQualifiers_eq s

-- `SELECT 1 AS a UNION (SELECT 1 AS b UNION SELECT 1 AS c)`: both the operands of a set operation
-- and those of the query nested in it are covered once
example :
    let operand (name : String) (column : Nat) : SetExpr :=
      .select (.mk [] [.aliased (.literal "1") (.onLine name column)] [] [] none [])
    let nested : Query := .mk [] (.operation (operand "b" 34) (operand "c" 52)) []
    let s : Statement := .query (.mk [] (.operation (operand "a" 12) (.nested nested)) [])
    (Symbols.collect s).definitions.map (·.name.value) = ["a", "b", "c"] := by
  decide

end Names

end SqlAudit
