import SqlAudit.Sql.Walk

/-!
The SELECTs of a statement at any depth, and its lists of sources. A walk comes to the SELECTs of a
body when it enters the query, and to those of nested queries when it enters these.
-/

namespace SqlAudit.Sql

/-- The SELECTs that stand in a body itself, in the order of its set operations. -/
def SetExpr.ownSelects : SetExpr → List Select
  | .select s => [s]
  | .operation l r => l.ownSelects ++ r.ownSelects
  | _ => []

def SelectItem.isStar : SelectItem → Bool
  | .star _ => true
  | _ => false

def Select.hasStar (s : Select) : Bool := s.items.any SelectItem.isStar

namespace Visit

def selects : Visit → List Select
  | enter q => q.body.ownSelects
  | _ => []

/-- The lists of tables that a visit comes to: those after FROM or USING. -/
def sourceLists : Visit → List (List Source)
  | enter q => q.body.ownSelects.map Select.sources
  | statement (.update _ _ _ sources _ _) => [sources]
  | statement (.delete sources using_ _ _) => [sources, using_]
  | _ => []

end Visit

end SqlAudit.Sql
