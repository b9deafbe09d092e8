import SqlAudit.Proofs.Sql.BodySelects

/-!
The nodes of a statement: every statement, query, SELECT and table in it, at any depth, each once.
A walk comes to the SELECTs of a body when it enters the query and to all other nodes where they
stand; it comes to all of them, and to none of them twice.
-/

namespace SqlAudit.Sql

inductive Node
  | statement (s : Statement)
  | query (q : Query)
  | select (s : Select)
  | factor (f : Factor)

mutual

def Expr.nodes : Expr → List Node
  | .name _ => []
  | .path _ => []
  | .literal _ => []
  | .operation _ es => exprListNodes es
  | .subquery _ es q => exprListNodes es ++ q.nodes

def exprListNodes : List Expr → List Node
  | [] => []
  | e :: es => e.nodes ++ exprListNodes es

def exprOptionNodes : Option Expr → List Node
  | none => []
  | some e => e.nodes

def Query.nodes : Query → List Node
  | .mk ctes body tail =>
    .query (.mk ctes body tail) :: (cteListNodes ctes ++ body.nodes ++ exprListNodes tail)

def queryOptionNodes : Option Query → List Node
  | none => []
  | some q => q.nodes

def Cte.nodes : Cte → List Node
  | .mk _ query => query.nodes

def cteListNodes : List Cte → List Node
  | [] => []
  | c :: cs => c.nodes ++ cteListNodes cs

def SetExpr.nodes : SetExpr → List Node
  | .select s => s.nodes
  | .nested q => q.nodes
  | .operation l r => l.nodes ++ r.nodes
  | .rows values => exprListNodes values
  | .statement s => s.nodes
  | .table => []

def Select.nodes : Select → List Node
  | .mk head items sources middle filter tail =>
    .select (.mk head items sources middle filter tail) ::
      (exprListNodes head ++ itemListNodes items ++ sourceListNodes sources ++
        exprListNodes middle ++ exprOptionNodes filter ++ exprListNodes tail)

def SelectItem.nodes : SelectItem → List Node
  | .plain e => e.nodes
  | .aliased e _ => e.nodes
  | .star es => exprListNodes es
  | .qualifiedStar _ es => exprListNodes es

def itemListNodes : List SelectItem → List Node
  | [] => []
  | i :: is => i.nodes ++ itemListNodes is

def Source.nodes : Source → List Node
  | .mk factor joins => factor.nodes ++ joinListNodes joins

def sourceListNodes : List Source → List Node
  | [] => []
  | s :: ss => s.nodes ++ sourceListNodes ss

def Join.nodes : Join → List Node
  | .mk factor conditions => factor.nodes ++ exprListNodes conditions

def joinListNodes : List Join → List Node
  | [] => []
  | j :: js => j.nodes ++ joinListNodes js

def Factor.nodes : Factor → List Node
  | .table name a called es => .factor (.table name a called es) :: exprListNodes es
  | .derived q a => .factor (.derived q a) :: q.nodes
  | .nested s a => .factor (.nested s a) :: s.nodes
  | .function es a => .factor (.function es a) :: exprListNodes es
  | .pivot base es => .factor (.pivot base es) :: (base.nodes ++ exprListNodes es)
  | .document es => .factor (.document es) :: exprListNodes es

def Statement.nodes : Statement → List Node
  | .query q => .statement (.query q) :: q.nodes
  | .insert target a columns source es =>
    .statement (.insert target a columns source es) ::
      (queryOptionNodes source ++ exprListNodes es)
  | .update target names values sources filter tail =>
    .statement (.update target names values sources filter tail) ::
      (target.nodes ++ exprListNodes values ++ sourceListNodes sources ++
        exprOptionNodes filter ++ exprListNodes tail)
  | .delete sources using_ filter tail =>
    .statement (.delete sources using_ filter tail) ::
      (sourceListNodes sources ++ sourceListNodes using_ ++ exprOptionNodes filter ++
        exprListNodes tail)
  | .explain s options => .statement (.explain s options) :: (s.nodes ++ exprListNodes options)
  | .prepare s => .statement (.prepare s) :: s.nodes
  | .define definition es query tail =>
    .statement (.define definition es query tail) ::
      (exprListNodes es ++ queryOptionNodes query ++ exprListNodes tail)
  | .other sources es query =>
    .statement (.other sources es query) ::
      (sourceListNodes sources ++ exprListNodes es ++ queryOptionNodes query)

end

/-- The nodes that a visit comes to. -/
def Visit.nodes : Visit → List Node
  | statement s => [.statement s]
  | enter q => .query q :: q.body.ownSelects.map .select
  | factor f => [.factor f]
  | leave => []
  | expr _ => []

def nodesOf (visits : List Visit) : List Node := visits.flatMap Visit.nodes

@[simp] theorem nodesOf_nil : nodesOf [] = [] := rfl

@[simp] theorem nodesOf_cons (v : Visit) (visits : List Visit) :
    nodesOf (v :: visits) = v.nodes ++ nodesOf visits := rfl

@[simp] theorem nodesOf_append (vs ws : List Visit) :
    nodesOf (vs ++ ws) = nodesOf vs ++ nodesOf ws := List.flatMap_append

theorem regroup {α : Type} (as bs cs ds : List α) :
    ((as ++ bs) ++ (cs ++ ds)).Perm ((as ++ cs) ++ (bs ++ ds)) := by
  simpa only [List.append_assoc] using ((List.perm_append_comm_assoc bs cs ds).append_left as)

mutual

theorem Expr.visits_perm : ∀ e : Expr, (nodesOf e.visits).Perm e.nodes
  | .name _ => .refl _
  | .path _ => .refl _
  | .literal _ => .refl _
  | .operation _ es => by
    rw [Expr.visits, Expr.nodes, nodesOf_cons]
    exact exprListVisits_perm es
  | .subquery _ es q => by
    rw [Expr.visits, Expr.nodes, nodesOf_cons, nodesOf_append]
    exact (exprListVisits_perm es).append (Query.visits_perm q)

theorem exprListVisits_perm : ∀ es : List Expr, (nodesOf (exprListVisits es)).Perm (exprListNodes es)
  | [] => by rw [exprListVisits, exprListNodes]; exact .refl _
  | e :: es => by
    rw [exprListVisits, exprListNodes, nodesOf_append]
    exact (Expr.visits_perm e).append (exprListVisits_perm es)

theorem exprOptionVisits_perm :
    ∀ e : Option Expr, (nodesOf (exprOptionVisits e)).Perm (exprOptionNodes e)
  | none => by rw [exprOptionVisits, exprOptionNodes]; exact .refl _
  | some e => by
    rw [exprOptionVisits, exprOptionNodes]
    exact Expr.visits_perm e

theorem Query.visits_perm : ∀ q : Query, (nodesOf q.visits).Perm q.nodes
  | .mk ctes body tail => by
    simp only [Query.visits, Query.nodes, nodesOf_cons, nodesOf_append]
    -- the SELECTs of the body come before the common tables, and belong behind them
    have moved := (List.perm_append_comm_assoc (body.ownSelects.map Node.select)
      (nodesOf (cteListVisits ctes)) (nodesOf body.visits)).append_right
        (nodesOf (exprListVisits tail))
    have parts := ((cteListVisits_perm ctes).append (SetExpr.visits_perm body)).append
      (exprListVisits_perm tail)
    exact .cons _ (by simpa [Visit.nodes, Query.body] using moved.trans parts)

theorem queryOptionVisits_perm :
    ∀ q : Option Query, (nodesOf (queryOptionVisits q)).Perm (queryOptionNodes q)
  | none => by rw [queryOptionVisits, queryOptionNodes]; exact .refl _
  | some q => by
    rw [queryOptionVisits, queryOptionNodes]
    exact Query.visits_perm q

theorem Cte.visits_perm : ∀ c : Cte, (nodesOf c.visits).Perm c.nodes
  | .mk _ query => by
    rw [Cte.visits, Cte.nodes]
    exact Query.visits_perm query

theorem cteListVisits_perm : ∀ cs : List Cte, (nodesOf (cteListVisits cs)).Perm (cteListNodes cs)
  | [] => by rw [cteListVisits, cteListNodes]; exact .refl _
  | c :: cs => by
    rw [cteListVisits, cteListNodes, nodesOf_append]
    exact (Cte.visits_perm c).append (cteListVisits_perm cs)

theorem SetExpr.visits_perm :
    ∀ b : SetExpr, (b.ownSelects.map Node.select ++ nodesOf b.visits).Perm b.nodes
  | .select s => by
    rw [SetExpr.visits, SetExpr.nodes, SetExpr.ownSelects]
    exact Select.visits_perm s
  | .nested q => by
    rw [SetExpr.visits, SetExpr.nodes]
    exact Query.visits_perm q
  | .operation l r => by
    rw [SetExpr.visits, SetExpr.nodes, SetExpr.ownSelects, List.map_append, nodesOf_append]
    exact (regroup _ _ _ _).trans ((SetExpr.visits_perm l).append (SetExpr.visits_perm r))
  | .rows values => by
    rw [SetExpr.visits, SetExpr.nodes]
    exact exprListVisits_perm values
  | .statement s => by
    rw [SetExpr.visits, SetExpr.nodes]
    exact Statement.visits_perm s
  | .table => by rw [SetExpr.visits, SetExpr.nodes]; exact .refl _

theorem Select.visits_perm : ∀ s : Select, (.select s :: nodesOf s.visits).Perm s.nodes
  | .mk head items sources middle filter tail => by
    simp only [Select.visits, Select.nodes, nodesOf_append]
    exact .cons _ ((((((exprListVisits_perm head).append (itemListVisits_perm items)).append
      (sourceListVisits_perm sources)).append (exprListVisits_perm middle)).append
        (exprOptionVisits_perm filter)).append (exprListVisits_perm tail))

theorem SelectItem.visits_perm : ∀ i : SelectItem, (nodesOf i.visits).Perm i.nodes
  | .plain e => by
    rw [SelectItem.visits, SelectItem.nodes]
    exact Expr.visits_perm e
  | .aliased e _ => by
    rw [SelectItem.visits, SelectItem.nodes]
    exact Expr.visits_perm e
  | .star es => by
    rw [SelectItem.visits, SelectItem.nodes]
    exact exprListVisits_perm es
  | .qualifiedStar _ es => by
    rw [SelectItem.visits, SelectItem.nodes]
    exact exprListVisits_perm es

theorem itemListVisits_perm :
    ∀ is : List SelectItem, (nodesOf (itemListVisits is)).Perm (itemListNodes is)
  | [] => by rw [itemListVisits, itemListNodes]; exact .refl _
  | i :: is => by
    rw [itemListVisits, itemListNodes, nodesOf_append]
    exact (SelectItem.visits_perm i).append (itemListVisits_perm is)

theorem Source.visits_perm : ∀ s : Source, (nodesOf s.visits).Perm s.nodes
  | .mk factor joins => by
    rw [Source.visits, Source.nodes, nodesOf_append]
    exact (Factor.visits_perm factor).append (joinListVisits_perm joins)

theorem sourceListVisits_perm :
    ∀ ss : List Source, (nodesOf (sourceListVisits ss)).Perm (sourceListNodes ss)
  | [] => by rw [sourceListVisits, sourceListNodes]; exact .refl _
  | s :: ss => by
    rw [sourceListVisits, sourceListNodes, nodesOf_append]
    exact (Source.visits_perm s).append (sourceListVisits_perm ss)

theorem Join.visits_perm : ∀ j : Join, (nodesOf j.visits).Perm j.nodes
  | .mk factor conditions => by
    rw [Join.visits, Join.nodes, nodesOf_append]
    exact (Factor.visits_perm factor).append (exprListVisits_perm conditions)

theorem joinListVisits_perm :
    ∀ js : List Join, (nodesOf (joinListVisits js)).Perm (joinListNodes js)
  | [] => by rw [joinListVisits, joinListNodes]; exact .refl _
  | j :: js => by
    rw [joinListVisits, joinListNodes, nodesOf_append]
    exact (Join.visits_perm j).append (joinListVisits_perm js)

theorem Factor.visits_perm : ∀ f : Factor, (nodesOf f.visits).Perm f.nodes
  | .table _ _ _ es => by
    rw [Factor.visits, Factor.nodes, nodesOf_cons]
    exact .cons _ (exprListVisits_perm es)
  | .derived q _ => by
    rw [Factor.visits, Factor.nodes, nodesOf_cons]
    exact .cons _ (Query.visits_perm q)
  | .nested s _ => by
    rw [Factor.visits, Factor.nodes, nodesOf_cons]
    exact .cons _ (Source.visits_perm s)
  | .function es _ => by
    rw [Factor.visits, Factor.nodes, nodesOf_cons]
    exact .cons _ (exprListVisits_perm es)
  | .pivot base es => by
    rw [Factor.visits, Factor.nodes, nodesOf_cons, nodesOf_append]
    exact .cons _ ((Factor.visits_perm base).append (exprListVisits_perm es))
  | .document es => by
    rw [Factor.visits, Factor.nodes, nodesOf_cons]
    exact .cons _ (exprListVisits_perm es)

/-- A walk of a statement comes to every node once. -/
theorem Statement.visits_perm : ∀ s : Statement, (nodesOf s.visits).Perm s.nodes
  | .query q => by
    rw [Statement.visits, Statement.nodes, nodesOf_cons]
    exact .cons _ (Query.visits_perm q)
  | .insert _ _ _ source es => by
    rw [Statement.visits, Statement.nodes, nodesOf_cons, nodesOf_append]
    exact .cons _ ((queryOptionVisits_perm source).append (exprListVisits_perm es))
  | .update target _ values sources filter tail => by
    simp only [Statement.visits, Statement.nodes, nodesOf_cons, nodesOf_append]
    exact .cons _ (((((Source.visits_perm target).append (exprListVisits_perm values)).append
      (sourceListVisits_perm sources)).append (exprOptionVisits_perm filter)).append
        (exprListVisits_perm tail))
  | .delete sources using_ filter tail => by
    simp only [Statement.visits, Statement.nodes, nodesOf_cons, nodesOf_append]
    exact .cons _ ((((sourceListVisits_perm sources).append (sourceListVisits_perm using_)).append
      (exprOptionVisits_perm filter)).append (exprListVisits_perm tail))
  | .explain s options => by
    rw [Statement.visits, Statement.nodes, nodesOf_cons, nodesOf_append]
    exact .cons _ ((Statement.visits_perm s).append (exprListVisits_perm options))
  | .prepare s => by
    rw [Statement.visits, Statement.nodes, nodesOf_cons]
    exact .cons _ (Statement.visits_perm s)
  | .define _ es query tail => by
    simp only [Statement.visits, Statement.nodes, nodesOf_cons, nodesOf_append]
    exact .cons _ (((exprListVisits_perm es).append (queryOptionVisits_perm query)).append
      (exprListVisits_perm tail))
  | .other sources es query => by
    simp only [Statement.visits, Statement.nodes, nodesOf_cons, nodesOf_append]
    exact .cons _ (((sourceListVisits_perm sources).append (exprListVisits_perm es)).append
      (queryOptionVisits_perm query))

end

end SqlAudit.Sql
