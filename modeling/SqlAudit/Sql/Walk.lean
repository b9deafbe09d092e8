import SqlAudit.Sql.Tree

/-!
The depth-first walk of a statement, as the list of its visits. Every statement, query, table and
expression is visited before its parts; a query is also left after them.
-/

namespace SqlAudit.Sql

inductive Visit
  | statement (s : Statement)
  | enter (q : Query)
  | leave
  | factor (f : Factor)
  | expr (e : Expr)

mutual

def Expr.visits : Expr → List Visit
  | .name id => [.expr (.name id)]
  | .path parts => [.expr (.path parts)]
  | .literal text => [.expr (.literal text)]
  | .operation form es => .expr (.operation form es) :: exprListVisits es
  | .subquery form es q => .expr (.subquery form es q) :: (exprListVisits es ++ q.visits)

def exprListVisits : List Expr → List Visit
  | [] => []
  | e :: es => e.visits ++ exprListVisits es

def exprOptionVisits : Option Expr → List Visit
  | none => []
  | some e => e.visits

def Query.visits : Query → List Visit
  | .mk ctes body tail =>
    .enter (.mk ctes body tail) ::
      (cteListVisits ctes ++ body.visits ++ exprListVisits tail ++ [.leave])

def queryOptionVisits : Option Query → List Visit
  | none => []
  | some q => q.visits

def Cte.visits : Cte → List Visit
  | .mk _ query => query.visits

def cteListVisits : List Cte → List Visit
  | [] => []
  | c :: cs => c.visits ++ cteListVisits cs

def SetExpr.visits : SetExpr → List Visit
  | .select s => s.visits
  | .nested q => q.visits
  | .operation l r => l.visits ++ r.visits
  | .rows values => exprListVisits values
  | .statement s => s.visits
  | .table => []

def Select.visits : Select → List Visit
  | .mk head items sources middle filter tail =>
    exprListVisits head ++ itemListVisits items ++ sourceListVisits sources ++
      exprListVisits middle ++ exprOptionVisits filter ++ exprListVisits tail

def SelectItem.visits : SelectItem → List Visit
  | .plain e => e.visits
  | .aliased e _ => e.visits
  | .star es => exprListVisits es
  | .qualifiedStar _ es => exprListVisits es

def itemListVisits : List SelectItem → List Visit
  | [] => []
  | i :: is => i.visits ++ itemListVisits is

def Source.visits : Source → List Visit
  | .mk factor joins => factor.visits ++ joinListVisits joins

def sourceListVisits : List Source → List Visit
  | [] => []
  | s :: ss => s.visits ++ sourceListVisits ss

def Join.visits : Join → List Visit
  | .mk factor conditions => factor.visits ++ exprListVisits conditions

def joinListVisits : List Join → List Visit
  | [] => []
  | j :: js => j.visits ++ joinListVisits js

def Factor.visits : Factor → List Visit
  | .table name a called es => .factor (.table name a called es) :: exprListVisits es
  | .derived q a => .factor (.derived q a) :: q.visits
  | .nested s a => .factor (.nested s a) :: s.visits
  | .function es a => .factor (.function es a) :: exprListVisits es
  | .pivot base es => .factor (.pivot base es) :: (base.visits ++ exprListVisits es)
  | .document es => .factor (.document es) :: exprListVisits es

def Statement.visits : Statement → List Visit
  | .query q => .statement (.query q) :: q.visits
  | .insert target a columns source es =>
    .statement (.insert target a columns source es) ::
      (queryOptionVisits source ++ exprListVisits es)
  | .update target names values sources filter tail =>
    .statement (.update target names values sources filter tail) ::
      (target.visits ++ exprListVisits values ++ sourceListVisits sources ++
        exprOptionVisits filter ++ exprListVisits tail)
  | .delete sources using_ filter tail =>
    .statement (.delete sources using_ filter tail) ::
      (sourceListVisits sources ++ sourceListVisits using_ ++ exprOptionVisits filter ++
        exprListVisits tail)
  | .explain s options =>
    .statement (.explain s options) :: (s.visits ++ exprListVisits options)
  | .prepare s => .statement (.prepare s) :: s.visits
  | .define definition es query tail =>
    .statement (.define definition es query tail) ::
      (exprListVisits es ++ queryOptionVisits query ++ exprListVisits tail)
  | .other sources es query =>
    .statement (.other sources es query) ::
      (sourceListVisits sources ++ exprListVisits es ++ queryOptionVisits query)

end

namespace Visit

def name? : Visit → Option Ident
  | expr (.name id) => some id
  | _ => none

def path? : Visit → Option Path
  | expr (.path parts) => some parts
  | _ => none

end Visit

def namesOf (visits : List Visit) : List Ident := visits.filterMap Visit.name?

def pathsOf (visits : List Visit) : List Path := visits.filterMap Visit.path?

end SqlAudit.Sql
