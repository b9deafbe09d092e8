import SqlAudit.Proofs.Names.ResolvedAliases
import SqlAudit.Proofs.Names.Collection

/-!
Which aliases count as those of the outer query. The walk only counts the queries that are entered,
and a statement need not begin with one: what an UPDATE or a DELETE sets, joins or tests stands in
no query, so that a query in it is entered as an outermost one. The aliases of such stray queries
count as outer ones beside those of the statement itself.
-/

namespace SqlAudit

open Names

namespace Sql

/-! ### Queries that stand in no other query -/

mutual

/-- The queries within an expression that stand in no other one. -/
def Expr.queries : Expr → List Query
  | .name _ => []
  | .path _ => []
  | .literal _ => []
  | .operation _ es => exprListQueries es
  | .subquery _ es q => exprListQueries es ++ [q]

def exprListQueries : List Expr → List Query
  | [] => []
  | e :: es => e.queries ++ exprListQueries es

end

def exprOptionQueries : Option Expr → List Query
  | none => []
  | some e => e.queries

mutual

def Source.queries : Source → List Query
  | .mk factor joins => factor.queries ++ joinListQueries joins

def Join.queries : Join → List Query
  | .mk factor conditions => factor.queries ++ exprListQueries conditions

def joinListQueries : List Join → List Query
  | [] => []
  | j :: js => j.queries ++ joinListQueries js

def Factor.queries : Factor → List Query
  | .table _ _ _ es => exprListQueries es
  | .derived q _ => [q]
  | .nested s _ => s.queries
  | .function es _ => exprListQueries es
  | .pivot base es => base.queries ++ exprListQueries es
  | .document es => exprListQueries es

end

def sourceListQueries : List Source → List Query
  | [] => []
  | s :: ss => s.queries ++ sourceListQueries ss

namespace Statement

/-- The query that a statement is about: itself, the rows of an INSERT, what a definition holds. -/
def mainQuery? : Statement → Option Query
  | query q => some q
  | insert _ _ _ source _ => source
  | update _ _ _ _ _ _ => none
  | delete _ _ _ _ => none
  | explain s _ => s.mainQuery?
  | prepare s => s.mainQuery?
  | define _ _ q _ => q
  | other _ _ q => q

/-- The other queries of a statement that stand in no query: subqueries of expressions and queries
that tables are derived by. -/
def strayQueries : Statement → List Query
  | query _ => []
  | insert _ _ _ _ es => exprListQueries es
  | update target _ values sources filter tail =>
    target.queries ++ exprListQueries values ++ sourceListQueries sources ++
      exprOptionQueries filter ++ exprListQueries tail
  | delete sources using_ filter tail =>
    sourceListQueries sources ++ sourceListQueries using_ ++ exprOptionQueries filter ++
      exprListQueries tail
  | explain s options => s.strayQueries ++ exprListQueries options
  | prepare s => s.strayQueries
  | define _ es _ tail => exprListQueries es ++ exprListQueries tail
  | other sources es _ => sourceListQueries sources ++ exprListQueries es

end Statement

/-! ### Aliases that are given in no query, or directly in one -/

mutual

def Source.ownAliases : Source → List (Ident × AliasKind)
  | .mk factor joins => factor.ownAliases ++ joinListAliases joins

def Join.ownAliases : Join → List (Ident × AliasKind)
  | .mk factor _ => factor.ownAliases

def joinListAliases : List Join → List (Ident × AliasKind)
  | [] => []
  | j :: js => j.ownAliases ++ joinListAliases js

def Factor.ownAliases : Factor → List (Ident × AliasKind)
  | .table name a called es => (Visit.factor (.table name a called es)).aliases
  | .derived q a => (Visit.factor (.derived q a)).aliases
  | .nested s a => (Visit.factor (.nested s a)).aliases ++ s.ownAliases
  | .function es a => (Visit.factor (.function es a)).aliases
  | .pivot base _ => base.ownAliases
  | .document _ => []

end

def sourceListAliases : List Source → List (Ident × AliasKind)
  | [] => []
  | s :: ss => s.ownAliases ++ sourceListAliases ss

/-- The aliases of the tables that a statement names in no query: its target and its sources. -/
def Statement.tableAliases : Statement → List (Ident × AliasKind)
  | .query _ => []
  | .insert target a columns source es =>
    (Visit.statement (.insert target a columns source es)).aliases
  | .update target _ _ sources _ _ => target.ownAliases ++ sourceListAliases sources
  | .delete sources using_ _ _ => sourceListAliases sources ++ sourceListAliases using_
  | .explain s _ => s.tableAliases
  | .prepare s => s.tableAliases
  | .define _ _ _ _ => []
  | .other sources _ _ => sourceListAliases sources

def SetExpr.sourceAliases : SetExpr → List (Ident × AliasKind)
  | .select s => sourceListAliases s.sources
  | .operation l r => l.sourceAliases ++ r.sourceAliases
  | .statement s => s.tableAliases
  | .nested _ => []
  | .rows _ => []
  | .table => []

def Query.ownAliases (q : Query) : List (Ident × AliasKind) :=
  (Visit.enter q).aliases ++ q.body.sourceAliases

/-- The aliases of a statement to its own tables and in the query that it is about. -/
def Statement.ownAliases (s : Statement) : List (Ident × AliasKind) :=
  s.tableAliases ++ s.mainQuery?.toList.flatMap Query.ownAliases

end Sql

namespace Names

open Sql

/-! ### The depth of visits -/

def depthAfter (depth : Nat) : List Visit → Nat
  | [] => depth
  | v :: vs => depthAfter (v.depthAt depth) vs

/-- The aliases among visits that are defined in one query at most, `depth` being entered before. -/
def outerAliases (depth : Nat) : List Visit → List (Ident × AliasKind)
  | [] => []
  | v :: vs => (if v.depthAt depth ≤ 1 then v.aliases else []) ++ outerAliases (v.depthAt depth) vs

theorem depthAfter_append (depth : Nat) (vs ws : List Visit) :
    depthAfter depth (vs ++ ws) = depthAfter (depthAfter depth vs) ws := by
  induction vs generalizing depth with
  | nil => rfl
  | cons v vs ih => exact ih (v.depthAt depth)

theorem outerAliases_append (depth : Nat) (vs ws : List Visit) :
    outerAliases depth (vs ++ ws) =
      outerAliases depth vs ++ outerAliases (depthAfter depth vs) ws := by
  induction vs generalizing depth with
  | nil => rfl
  | cons v vs ih =>
    rw [List.cons_append, outerAliases, outerAliases, depthAfter, ih, List.append_assoc]

theorem outer_definitionsFrom (depth : Nat) (visits : List Visit) :
    ((definitionsFrom depth visits).filter (·.outer)).map (fun d => (d.name, d.kind)) =
      outerAliases depth visits := by
  induction visits generalizing depth with
  | nil => rfl
  | cons v vs ih =>
    rw [definitionsFrom, outerAliases, List.filter_append, List.map_append, ih]
    congr 1
    by_cases outer : v.depthAt depth ≤ 1
    · simp [outer, List.filter_map, Function.comp_def]
    · simp [outer, List.filter_map, Function.comp_def]

/-- Visits of a part of a query: all queries that are entered are left, and the aliases that the
part gives outside of them are outer ones just where the query stands in no other. -/
structure InQuery (visits : List Visit) (own : List (Ident × AliasKind)) : Prop where
  depth : ∀ d, depthAfter d visits = d
  inOne : (outerAliases 1 visits).Perm own
  inMore : ∀ d, outerAliases (d + 2) visits = []

/-- Visits of a part that may stand in no query, where the aliases of the queries in it are outer
ones as well. -/
structure InAny (visits : List Visit) (own : List (Ident × AliasKind)) (queries : List Query) : Prop
    extends InQuery visits own where
  inNone : (outerAliases 0 visits).Perm (own ++ queries.flatMap Query.ownAliases)

section

variable {vs ws : List Visit} {own more : List (Ident × AliasKind)} {qs rs : List Query}

theorem InQuery.nil : InQuery [] [] := ⟨fun _ => rfl, .refl _, fun _ => rfl⟩

theorem InQuery.append (h : InQuery vs own) (h' : InQuery ws more) :
    InQuery (vs ++ ws) (own ++ more) where
  depth d := by rw [depthAfter_append, h.depth, h'.depth]
  inOne := by
    rw [outerAliases_append, h.depth]
    exact h.inOne.append h'.inOne
  inMore d := by rw [outerAliases_append, h.depth, h.inMore, h'.inMore, List.append_nil]

theorem InAny.nil : InAny [] [] [] := ⟨.nil, .refl _⟩

theorem InAny.append (h : InAny vs own qs) (h' : InAny ws more rs) :
    InAny (vs ++ ws) (own ++ more) (qs ++ rs) where
  toInQuery := h.toInQuery.append h'.toInQuery
  inNone := by
    rw [outerAliases_append, h.depth, List.flatMap_append]
    exact (h.inNone.append h'.inNone).trans (regroup _ _ _ _)

theorem InAny.perm (h : InAny vs own qs) (same : qs.Perm rs) : InAny vs own rs where
  toInQuery := h.toInQuery
  inNone := h.inNone.trans ((same.flatMap_right _).append_left _)

theorem InAny.cons {v : Visit} (flat : ∀ d, v.depthAt d = d) (h : InAny vs own qs) :
    InAny (v :: vs) (v.aliases ++ own) qs where
  depth d := by rw [depthAfter, flat, h.depth]
  inOne := by
    rw [outerAliases, flat, if_pos (Nat.le_refl 1)]
    exact h.inOne.append_left _
  inMore d := by
    rw [outerAliases, flat, if_neg (by omega), h.inMore, List.append_nil]
  inNone := by
    rw [outerAliases, flat, if_pos (Nat.zero_le 1), List.append_assoc]
    exact h.inNone.append_left _

theorem InQuery.query {q : Query} (h : InQuery vs own)
    (gives : q.ownAliases = (Visit.enter q).aliases ++ own) :
    InAny (.enter q :: (vs ++ [.leave])) [] [q] where
  depth d := by rw [depthAfter, depthAfter_append, h.depth]; rfl
  inOne := by
    rw [outerAliases, outerAliases_append, h.depth]
    change ([] ++ (outerAliases 2 vs ++ [])).Perm []
    rw [h.inMore 0]
    rfl
  inMore d := by
    have leaves : (Visit.enter q).depthAt (d + 2) = d + 1 + 2 := rfl
    rw [outerAliases, outerAliases_append, leaves, h.depth, if_neg (by omega), h.inMore]
    change (if d + 2 ≤ 1 then [] else []) ++ [] = []
    rw [ite_self]
    rfl
  inNone := by
    rw [outerAliases, outerAliases_append, h.depth]
    change ((Visit.enter q).aliases ++ (outerAliases 1 vs ++ [])).Perm (q.ownAliases ++ [])
    rw [List.append_nil, List.append_nil, gives]
    exact h.inOne.append_left _

end

/-! ### The walk of a statement -/

mutual

theorem Expr.inAny : ∀ e : Expr, InAny e.visits [] e.queries
  | .name _ => .cons (fun _ => rfl) .nil
  | .path _ => .cons (fun _ => rfl) .nil
  | .literal _ => .cons (fun _ => rfl) .nil
  | .operation _ es => by
    rw [Expr.visits, Expr.queries]
    exact .cons (fun _ => rfl) (exprList_inAny es)
  | .subquery _ es q => by
    rw [Expr.visits, Expr.queries]
    exact .cons (fun _ => rfl) ((exprList_inAny es).append (Query.inAny q))

theorem exprList_inAny : ∀ es : List Expr, InAny (exprListVisits es) [] (exprListQueries es)
  | [] => by rw [exprListVisits, exprListQueries]; exact .nil
  | e :: es => by
    rw [exprListVisits, exprListQueries]
    exact (Expr.inAny e).append (exprList_inAny es)

theorem exprOption_inAny : ∀ e : Option Expr, InAny (exprOptionVisits e) [] (exprOptionQueries e)
  | none => by rw [exprOptionVisits, exprOptionQueries]; exact .nil
  | some e => by
    rw [exprOptionVisits, exprOptionQueries]
    exact Expr.inAny e

/-- Of all that is visited in a query only its own items and sources give it aliases. -/
theorem Query.inAny : ∀ q : Query, InAny q.visits [] [q]
  | .mk ctes body tail => by
    rw [Query.visits]
    have parts := ((cteList_inQuery ctes).append (SetExpr.inQuery body)).append
      (exprList_inAny tail).toInQuery
    rw [List.nil_append, List.append_nil] at parts
    exact parts.query rfl

theorem queryOption_inAny : ∀ q : Option Query, InAny (queryOptionVisits q) [] q.toList
  | none => by rw [queryOptionVisits]; exact .nil
  | some q => by
    rw [queryOptionVisits]
    exact Query.inAny q

theorem Cte.inQuery : ∀ c : Cte, InQuery c.visits []
  | .mk _ query => by
    rw [Cte.visits]
    exact (Query.inAny query).toInQuery

theorem cteList_inQuery : ∀ cs : List Cte, InQuery (cteListVisits cs) []
  | [] => by rw [cteListVisits]; exact .nil
  | c :: cs => by
    rw [cteListVisits]
    exact (Cte.inQuery c).append (cteList_inQuery cs)

theorem SetExpr.inQuery : ∀ b : SetExpr, InQuery b.visits b.sourceAliases
  | .select s => by
    rw [SetExpr.visits, SetExpr.sourceAliases]
    exact Select.inQuery s
  | .nested q => by
    rw [SetExpr.visits, SetExpr.sourceAliases]
    exact (Query.inAny q).toInQuery
  | .operation l r => by
    rw [SetExpr.visits, SetExpr.sourceAliases]
    exact (SetExpr.inQuery l).append (SetExpr.inQuery r)
  | .rows values => by
    rw [SetExpr.visits, SetExpr.sourceAliases]
    exact (exprList_inAny values).toInQuery
  | .statement s => by
    rw [SetExpr.visits, SetExpr.sourceAliases]
    exact (Statement.inAny s).toInQuery
  | .table => by rw [SetExpr.visits, SetExpr.sourceAliases]; exact .nil

theorem Select.inQuery : ∀ s : Select, InQuery s.visits (sourceListAliases s.sources)
  | .mk head items sources middle filter tail => by
    rw [Select.visits]
    have parts := (((((exprList_inAny head).toInQuery.append (itemList_inQuery items)).append
      (sourceList_inAny sources).toInQuery).append (exprList_inAny middle).toInQuery).append
        (exprOption_inAny filter).toInQuery).append (exprList_inAny tail).toInQuery
    simpa only [List.nil_append, List.append_nil, Select.sources] using parts

theorem SelectItem.inQuery : ∀ i : SelectItem, InQuery i.visits []
  | .plain e => by
    rw [SelectItem.visits]
    exact (Expr.inAny e).toInQuery
  | .aliased e _ => by
    rw [SelectItem.visits]
    exact (Expr.inAny e).toInQuery
  | .star es => by
    rw [SelectItem.visits]
    exact (exprList_inAny es).toInQuery
  | .qualifiedStar _ es => by
    rw [SelectItem.visits]
    exact (exprList_inAny es).toInQuery

theorem itemList_inQuery : ∀ is : List SelectItem, InQuery (itemListVisits is) []
  | [] => by rw [itemListVisits]; exact .nil
  | i :: is => by
    rw [itemListVisits]
    exact (SelectItem.inQuery i).append (itemList_inQuery is)

theorem Source.inAny : ∀ s : Source, InAny s.visits s.ownAliases s.queries
  | .mk factor joins => by
    rw [Source.visits, Source.ownAliases, Source.queries]
    exact (Factor.inAny factor).append (joinList_inAny joins)

theorem sourceList_inAny :
    ∀ ss : List Source, InAny (sourceListVisits ss) (sourceListAliases ss) (sourceListQueries ss)
  | [] => by rw [sourceListVisits, sourceListAliases, sourceListQueries]; exact .nil
  | s :: ss => by
    rw [sourceListVisits, sourceListAliases, sourceListQueries]
    exact (Source.inAny s).append (sourceList_inAny ss)

theorem Join.inAny : ∀ j : Join, InAny j.visits j.ownAliases j.queries
  | .mk factor conditions => by
    rw [Join.visits, Join.ownAliases, Join.queries]
    have parts := (Factor.inAny factor).append (exprList_inAny conditions)
    rwa [List.append_nil] at parts

theorem joinList_inAny :
    ∀ js : List Join, InAny (joinListVisits js) (joinListAliases js) (joinListQueries js)
  | [] => by rw [joinListVisits, joinListAliases, joinListQueries]; exact .nil
  | j :: js => by
    rw [joinListVisits, joinListAliases, joinListQueries]
    exact (Join.inAny j).append (joinList_inAny js)

theorem Factor.inAny : ∀ f : Factor, InAny f.visits f.ownAliases f.queries
  | .table _ _ _ es => by
    rw [Factor.visits, Factor.ownAliases, Factor.queries, ← List.append_nil (Visit.aliases _)]
    exact .cons (fun _ => rfl) (exprList_inAny es)
  | .derived q _ => by
    rw [Factor.visits, Factor.ownAliases, Factor.queries, ← List.append_nil (Visit.aliases _)]
    exact .cons (fun _ => rfl) (Query.inAny q)
  | .nested s _ => by
    rw [Factor.visits, Factor.ownAliases, Factor.queries]
    exact .cons (fun _ => rfl) (Source.inAny s)
  | .function es _ => by
    rw [Factor.visits, Factor.ownAliases, Factor.queries, ← List.append_nil (Visit.aliases _)]
    exact .cons (fun _ => rfl) (exprList_inAny es)
  | .pivot base es => by
    rw [Factor.visits, Factor.ownAliases, Factor.queries]
    have parts := (Factor.inAny base).append (exprList_inAny es)
    rw [List.append_nil] at parts
    exact .cons (fun _ => rfl) parts
  | .document es => by
    rw [Factor.visits, Factor.ownAliases, Factor.queries]
    exact .cons (fun _ => rfl) (exprList_inAny es)

theorem Statement.inAny :
    ∀ s : Statement, InAny s.visits s.tableAliases (s.mainQuery?.toList ++ s.strayQueries)
  | .query q => by
    rw [Statement.visits]
    exact .cons (fun _ => rfl) (Query.inAny q)
  | .insert _ _ _ source es => by
    rw [Statement.visits, Statement.tableAliases, ← List.append_nil (Visit.aliases _)]
    exact .cons (fun _ => rfl) ((queryOption_inAny source).append (exprList_inAny es))
  | .update target _ values sources filter tail => by
    rw [Statement.visits, Statement.tableAliases]
    have parts := ((((Source.inAny target).append (exprList_inAny values)).append
      (sourceList_inAny sources)).append (exprOption_inAny filter)).append (exprList_inAny tail)
    simp only [List.append_nil] at parts
    exact .cons (fun _ => rfl) parts
  | .delete sources using_ filter tail => by
    rw [Statement.visits, Statement.tableAliases]
    have parts := (((sourceList_inAny sources).append (sourceList_inAny using_)).append
      (exprOption_inAny filter)).append (exprList_inAny tail)
    simp only [List.append_nil] at parts
    exact .cons (fun _ => rfl) parts
  | .explain s options => by
    rw [Statement.visits, Statement.tableAliases]
    have parts := (Statement.inAny s).append (exprList_inAny options)
    rw [List.append_nil, List.append_assoc] at parts
    exact .cons (fun _ => rfl) parts
  | .prepare s => by
    rw [Statement.visits, Statement.tableAliases]
    exact .cons (fun _ => rfl) (Statement.inAny s)
  | .define _ es query tail => by
    rw [Statement.visits, Statement.tableAliases]
    have parts :=
      ((exprList_inAny es).append (queryOption_inAny query)).append (exprList_inAny tail)
    rw [List.append_assoc (exprListQueries es)] at parts
    exact .cons (fun _ => rfl) (parts.perm (List.perm_append_comm_assoc _ _ _))
  | .other sources es query => by
    rw [Statement.visits, Statement.tableAliases]
    have parts := ((sourceList_inAny sources).append (exprList_inAny es)).append
      (queryOption_inAny query)
    simp only [List.append_nil] at parts
    exact .cons (fun _ => rfl) (parts.perm List.perm_append_comm)

end

/-! ### Outer definitions -/

theorem outer_definitions_perm (s : Statement) :
    (((Symbols.collect s).definitions.filter (·.outer)).map fun d => (d.name, d.kind)).Perm
      (s.ownAliases ++ s.strayQueries.flatMap Query.ownAliases) := by
  have sorted : (Symbols.collect s).definitions.Perm (definitionsFrom 0 s.visits) :=
    Position.sortOn_perm _
  have outer := (sorted.filter (·.outer)).map fun d => (d.name, d.kind)
  rw [outer_definitionsFrom] at outer
  refine outer.trans ((Statement.inAny s).inNone.trans (.of_eq ?_))
  rw [List.flatMap_append, Statement.ownAliases, List.append_assoc]

/-- The outer definitions of a statement are those that it gives itself and those of its stray
queries, so they are its own just where no stray query gives an alias. The aliases that are found
unused are outer ones. -/
theorem outer_definitions_own_iff (s : Statement) :
    let symbols := Symbols.collect s
    let outer := symbols.definitions.filter (·.outer)
    let given := outer.map fun d => (d.name, d.kind)
    given.Perm (s.ownAliases ++ s.strayQueries.flatMap Query.ownAliases) ∧
      (given.Perm s.ownAliases ↔ ∀ q ∈ s.strayQueries, q.ownAliases = []) ∧
      ∀ f ∈ unusedAliases symbols s, ∃ d ∈ outer, f = unusedAlias d := by
  intro symbols outer given
  have all : given.Perm (s.ownAliases ++ s.strayQueries.flatMap Query.ownAliases) :=
    outer_definitions_perm s
  refine ⟨all, ?_, fun f hf => ?_⟩
  · rw [← List.flatMap_eq_nil_iff]
    constructor
    · intro own
      have lengths := (own.symm.trans all).length_eq
      rw [List.length_append, Nat.left_eq_add, List.length_eq_zero_iff] at lengths
      exact lengths
    · intro silent
      rwa [silent, List.append_nil] at all
  · obtain ⟨d, hd, rfl⟩ := List.mem_map.1 hf
    exact ⟨d, (mem_of_mem_firstByName hd).1, rfl⟩

/-- `UPDATE t SET a = (SELECT b FROM u AS x)`. -/
def queriedUpdate : Statement :=
  .update (.mk (.table [.onLine "t" 7] none false []) []) [[.onLine "a" 13]]
    [.subquery [.text "(", .operand 0, .text ")"] []
      (.mk []
        (.select (.mk [] [.plain (.name (.onLine "b" 25))]
          [.mk (.table [.onLine "u" 32] (some ⟨.onLine "x" 37, []⟩) false []) []] [] none []))
        [])]
    [] none []

/-- An alias that only a subquery gives is an outer one, and is reported as unused. -/
theorem queriedUpdate_alias_outer :
    queriedUpdate.ownAliases = [] ∧
      (Symbols.collect queriedUpdate).definitions = [⟨.onLine "x" 37, .table, true⟩] ∧
      unusedAliases (.collect queriedUpdate) queriedUpdate =
        [unusedAlias ⟨.onLine "x" 37, .table, true⟩] := by
  decide

end Names

end SqlAudit
