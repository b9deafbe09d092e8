import SqlAudit.Sql.Tree

/-!
The SELECTs of a statement that make up its rows: those of its common tables, of the operands of its
set operations and of the tables derived in its sources. SELECTs within expressions are not among
them.
-/

namespace SqlAudit.Sql

mutual

def Query.selects : Query → List Select
  | .mk ctes body _ => cteListSelects ctes ++ body.selects

def Cte.selects : Cte → List Select
  | .mk _ query => query.selects

def cteListSelects : List Cte → List Select
  | [] => []
  | c :: cs => c.selects ++ cteListSelects cs

def SetExpr.selects : SetExpr → List Select
  | .select s => s :: s.sourceSelects
  | .nested q => q.selects
  | .operation l r => l.selects ++ r.selects
  | .rows _ => []
  | .statement _ => []
  | .table => []

def Select.sourceSelects : Select → List Select
  | .mk _ _ sources _ _ _ => sourceListSelects sources

def Source.selects : Source → List Select
  | .mk factor joins => factor.selects ++ joinListSelects joins

def sourceListSelects : List Source → List Select
  | [] => []
  | s :: ss => s.selects ++ sourceListSelects ss

def Join.selects : Join → List Select
  | .mk factor _ => factor.selects

def joinListSelects : List Join → List Select
  | [] => []
  | j :: js => j.selects ++ joinListSelects js

def Factor.selects : Factor → List Select
  | .derived q _ => q.selects
  | .nested s _ => s.selects
  | .table .. => []
  | .function .. => []
  | .pivot .. => []
  | .document _ => []

end

/-- The SELECTs of a query, or of the query that an INSERT takes its rows from. -/
def Statement.selects : Statement → List Select
  | .query q => q.selects
  | .insert _ _ _ (some q) _ => q.selects
  | _ => []

/-- The items that stand in the SELECTs of a body, nested queries left out. -/
def SetExpr.items : SetExpr → List SelectItem
  | .select s => s.items
  | .operation l r => l.items ++ r.items
  | _ => []

end SqlAudit.Sql
