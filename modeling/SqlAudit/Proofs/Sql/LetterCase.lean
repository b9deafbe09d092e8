import SqlAudit.Sql.Selects
import SqlAudit.Sql.Walk
import SqlAudit.Proofs.Text.Folding

/-!
Statements in another letter case. Folding a statement puts the ASCII letters of all its texts,
names above all, into lower case and keeps its shape, the quotes of its names and their places. The
walk of a folded statement makes the folded visits.
-/

namespace SqlAudit.Sql

open Text

/-! ### Folding -/

namespace Ident

def foldCase (i : Ident) : Ident := { i with value := foldAscii i.value }

@[simp] theorem value_foldCase (i : Ident) : i.foldCase.value = foldAscii i.value := rfl

@[simp] theorem range_foldCase (i : Ident) : i.foldCase.range = i.range := rfl

end Ident

def foldPath (path : Path) : Path := path.map Ident.foldCase

def TableAlias.foldCase (a : TableAlias) : TableAlias :=
  ⟨a.name.foldCase, a.columns.map Ident.foldCase⟩

def Piece.foldCase : Piece → Piece
  | .text s => .text (foldAscii s)
  | .operand index => .operand index

def ColumnOption.foldCase : ColumnOption → ColumnOption
  | .default text => .default (foldAscii text)
  | option => option

def ColumnSpec.foldCase (c : ColumnSpec) : ColumnSpec :=
  ⟨c.name.foldCase, foldAscii c.type, c.options.map ColumnOption.foldCase⟩

def TableChange.foldCase : TableChange → TableChange
  | .addColumn column ifNotExists => .addColumn column.foldCase ifNotExists
  | .dropColumn name => .dropColumn name.foldCase
  | .renameColumn old new => .renameColumn old.foldCase new.foldCase
  | .renameTable name => .renameTable (foldPath name)
  | .other => .other

def Definition.foldCase : Definition → Definition
  | .schema name => .schema (name.map Ident.foldCase)
  | .table name columns keys ifNotExists =>
    .table (foldPath name) (columns.map ColumnSpec.foldCase) (keys.map Ident.foldCase) ifNotExists
  | .view name columns ifNotExists =>
    .view (foldPath name) (columns.map Ident.foldCase) ifNotExists
  | .alter name changes => .alter (foldPath name) (changes.map TableChange.foldCase)
  | .drop names => .drop (names.map foldPath)

mutual

def Expr.foldCase : Expr → Expr
  | .name id => .name id.foldCase
  | .path parts => .path (foldPath parts)
  | .literal text => .literal (foldAscii text)
  | .operation form es => .operation (form.map Piece.foldCase) (foldExprs es)
  | .subquery form es q => .subquery (form.map Piece.foldCase) (foldExprs es) q.foldCase

def foldExprs : List Expr → List Expr
  | [] => []
  | e :: es => e.foldCase :: foldExprs es

def foldExpr? : Option Expr → Option Expr
  | none => none
  | some e => some e.foldCase

def Query.foldCase : Query → Query
  | .mk ctes body tail => .mk (foldCtes ctes) body.foldCase (foldExprs tail)

def foldQuery? : Option Query → Option Query
  | none => none
  | some q => some q.foldCase

def Cte.foldCase : Cte → Cte
  | .mk header query => .mk header.foldCase query.foldCase

def foldCtes : List Cte → List Cte
  | [] => []
  | c :: cs => c.foldCase :: foldCtes cs

def SetExpr.foldCase : SetExpr → SetExpr
  | .select s => .select s.foldCase
  | .nested q => .nested q.foldCase
  | .operation l r => .operation l.foldCase r.foldCase
  | .rows values => .rows (foldExprs values)
  | .statement s => .statement s.foldCase
  | .table => .table

def Select.foldCase : Select → Select
  | .mk head items sources middle filter tail =>
    .mk (foldExprs head) (foldItems items) (foldSources sources) (foldExprs middle)
      (foldExpr? filter) (foldExprs tail)

def SelectItem.foldCase : SelectItem → SelectItem
  | .plain e => .plain e.foldCase
  | .aliased e name => .aliased e.foldCase name.foldCase
  | .star es => .star (foldExprs es)
  | .qualifiedStar qualifier es => .qualifiedStar (foldPath qualifier) (foldExprs es)

def foldItems : List SelectItem → List SelectItem
  | [] => []
  | i :: is => i.foldCase :: foldItems is

def Source.foldCase : Source → Source
  | .mk factor joins => .mk factor.foldCase (foldJoins joins)

def foldSources : List Source → List Source
  | [] => []
  | s :: ss => s.foldCase :: foldSources ss

def Join.foldCase : Join → Join
  | .mk factor conditions => .mk factor.foldCase (foldExprs conditions)

def foldJoins : List Join → List Join
  | [] => []
  | j :: js => j.foldCase :: foldJoins js

def Factor.foldCase : Factor → Factor
  | .table name a called es =>
    .table (foldPath name) (a.map TableAlias.foldCase) called (foldExprs es)
  | .derived q a => .derived q.foldCase (a.map TableAlias.foldCase)
  | .nested s a => .nested s.foldCase (a.map TableAlias.foldCase)
  | .function es a => .function (foldExprs es) (a.map TableAlias.foldCase)
  | .pivot base es => .pivot base.foldCase (foldExprs es)
  | .document es => .document (foldExprs es)

def Statement.foldCase : Statement → Statement
  | .query q => .query q.foldCase
  | .insert target a columns source es =>
    .insert (foldPath target) (a.map Ident.foldCase) (columns.map Ident.foldCase)
      (foldQuery? source) (foldExprs es)
  | .update target names values sources filter tail =>
    .update target.foldCase (names.map foldPath) (foldExprs values) (foldSources sources)
      (foldExpr? filter) (foldExprs tail)
  | .delete sources using_ filter tail =>
    .delete (foldSources sources) (foldSources using_) (foldExpr? filter) (foldExprs tail)
  | .explain s options => .explain s.foldCase (foldExprs options)
  | .prepare s => .prepare s.foldCase
  | .define definition es query tail =>
    .define definition.foldCase (foldExprs es) (foldQuery? query) (foldExprs tail)
  | .other sources es query => .other (foldSources sources) (foldExprs es) (foldQuery? query)

end

namespace Visit

def foldCase : Visit → Visit
  | statement s => statement s.foldCase
  | enter q => enter q.foldCase
  | leave => leave
  | factor f => factor f.foldCase
  | expr e => expr e.foldCase

end Visit

/-! ### The walk of a folded statement -/

mutual

theorem Expr.visits_foldCase : ∀ e : Expr, e.foldCase.visits = e.visits.map Visit.foldCase
  | .name _ => rfl
  | .path _ => rfl
  | .literal _ => rfl
  | .operation form es => by
    rw [Expr.foldCase, Expr.visits, Expr.visits, List.map_cons, exprListVisits_fold es]
    rfl
  | .subquery form es q => by
    rw [Expr.foldCase, Expr.visits, Expr.visits, List.map_cons, List.map_append,
      exprListVisits_fold es, Query.visits_foldCase q]
    rfl

theorem exprListVisits_fold :
    ∀ es : List Expr, exprListVisits (foldExprs es) = (exprListVisits es).map Visit.foldCase
  | [] => rfl
  | e :: es => by
    rw [foldExprs, exprListVisits, exprListVisits, List.map_append, Expr.visits_foldCase e,
      exprListVisits_fold es]

theorem exprOptionVisits_fold :
    ∀ e : Option Expr, exprOptionVisits (foldExpr? e) = (exprOptionVisits e).map Visit.foldCase
  | none => rfl
  | some e => by
    rw [foldExpr?, exprOptionVisits, exprOptionVisits, Expr.visits_foldCase e]

theorem Query.visits_foldCase : ∀ q : Query, q.foldCase.visits = q.visits.map Visit.foldCase
  | .mk ctes body tail => by
    simp only [Query.foldCase, Query.visits, List.map_cons, List.map_append, List.map_nil,
      cteListVisits_fold ctes, SetExpr.visits_foldCase body, exprListVisits_fold tail,
      Visit.foldCase]

theorem queryOptionVisits_fold :
    ∀ q : Option Query, queryOptionVisits (foldQuery? q) =
      (queryOptionVisits q).map Visit.foldCase
  | none => rfl
  | some q => by
    rw [foldQuery?, queryOptionVisits, queryOptionVisits, Query.visits_foldCase q]

theorem Cte.visits_foldCase : ∀ c : Cte, c.foldCase.visits = c.visits.map Visit.foldCase
  | .mk header query => by
    rw [Cte.foldCase, Cte.visits, Cte.visits, Query.visits_foldCase query]

theorem cteListVisits_fold :
    ∀ cs : List Cte, cteListVisits (foldCtes cs) = (cteListVisits cs).map Visit.foldCase
  | [] => rfl
  | c :: cs => by
    rw [foldCtes, cteListVisits, cteListVisits, List.map_append, Cte.visits_foldCase c,
      cteListVisits_fold cs]

theorem SetExpr.visits_foldCase : ∀ b : SetExpr, b.foldCase.visits = b.visits.map Visit.foldCase
  | .select s => by
    rw [SetExpr.foldCase, SetExpr.visits, SetExpr.visits, Select.visits_foldCase s]
  | .nested q => by
    rw [SetExpr.foldCase, SetExpr.visits, SetExpr.visits, Query.visits_foldCase q]
  | .operation l r => by
    rw [SetExpr.foldCase, SetExpr.visits, SetExpr.visits, List.map_append,
      SetExpr.visits_foldCase l, SetExpr.visits_foldCase r]
  | .rows values => by
    rw [SetExpr.foldCase, SetExpr.visits, SetExpr.visits, exprListVisits_fold values]
  | .statement s => by
    rw [SetExpr.foldCase, SetExpr.visits, SetExpr.visits, Statement.visits_foldCase s]
  | .table => rfl

theorem Select.visits_foldCase : ∀ s : Select, s.foldCase.visits = s.visits.map Visit.foldCase
  | .mk head items sources middle filter tail => by
    simp only [Select.foldCase, Select.visits, List.map_append, exprListVisits_fold head,
      itemListVisits_fold items, sourceListVisits_fold sources, exprListVisits_fold middle,
      exprOptionVisits_fold filter, exprListVisits_fold tail]

theorem SelectItem.visits_foldCase :
    ∀ i : SelectItem, i.foldCase.visits = i.visits.map Visit.foldCase
  | .plain e => by
    rw [SelectItem.foldCase, SelectItem.visits, SelectItem.visits, Expr.visits_foldCase e]
  | .aliased e _ => by
    rw [SelectItem.foldCase, SelectItem.visits, SelectItem.visits, Expr.visits_foldCase e]
  | .star es => by
    rw [SelectItem.foldCase, SelectItem.visits, SelectItem.visits, exprListVisits_fold es]
  | .qualifiedStar _ es => by
    rw [SelectItem.foldCase, SelectItem.visits, SelectItem.visits, exprListVisits_fold es]

theorem itemListVisits_fold :
    ∀ is : List SelectItem, itemListVisits (foldItems is) = (itemListVisits is).map Visit.foldCase
  | [] => rfl
  | i :: is => by
    rw [foldItems, itemListVisits, itemListVisits, List.map_append, SelectItem.visits_foldCase i,
      itemListVisits_fold is]

theorem Source.visits_foldCase : ∀ s : Source, s.foldCase.visits = s.visits.map Visit.foldCase
  | .mk factor joins => by
    rw [Source.foldCase, Source.visits, Source.visits, List.map_append,
      Factor.visits_foldCase factor, joinListVisits_fold joins]

theorem sourceListVisits_fold :
    ∀ ss : List Source, sourceListVisits (foldSources ss) =
      (sourceListVisits ss).map Visit.foldCase
  | [] => rfl
  | s :: ss => by
    rw [foldSources, sourceListVisits, sourceListVisits, List.map_append, Source.visits_foldCase s,
      sourceListVisits_fold ss]

theorem Join.visits_foldCase : ∀ j : Join, j.foldCase.visits = j.visits.map Visit.foldCase
  | .mk factor conditions => by
    rw [Join.foldCase, Join.visits, Join.visits, List.map_append, Factor.visits_foldCase factor,
      exprListVisits_fold conditions]

theorem joinListVisits_fold :
    ∀ js : List Join, joinListVisits (foldJoins js) = (joinListVisits js).map Visit.foldCase
  | [] => rfl
  | j :: js => by
    rw [foldJoins, joinListVisits, joinListVisits, List.map_append, Join.visits_foldCase j,
      joinListVisits_fold js]

theorem Factor.visits_foldCase : ∀ f : Factor, f.foldCase.visits = f.visits.map Visit.foldCase
  | .table name a called es => by
    rw [Factor.foldCase, Factor.visits, Factor.visits, List.map_cons, exprListVisits_fold es,
      Visit.foldCase, Factor.foldCase]
  | .derived q a => by
    rw [Factor.foldCase, Factor.visits, Factor.visits, List.map_cons, Query.visits_foldCase q,
      Visit.foldCase, Factor.foldCase]
  | .nested s a => by
    rw [Factor.foldCase, Factor.visits, Factor.visits, List.map_cons, Source.visits_foldCase s,
      Visit.foldCase, Factor.foldCase]
  | .function es a => by
    rw [Factor.foldCase, Factor.visits, Factor.visits, List.map_cons, exprListVisits_fold es,
      Visit.foldCase, Factor.foldCase]
  | .pivot base es => by
    rw [Factor.foldCase, Factor.visits, Factor.visits, List.map_cons, List.map_append,
      Factor.visits_foldCase base, exprListVisits_fold es, Visit.foldCase, Factor.foldCase]
  | .document es => by
    rw [Factor.foldCase, Factor.visits, Factor.visits, List.map_cons, exprListVisits_fold es,
      Visit.foldCase, Factor.foldCase]

theorem Statement.visits_foldCase :
    ∀ s : Statement, s.foldCase.visits = s.visits.map Visit.foldCase
  | .query q => by
    simp only [Statement.foldCase, Statement.visits, List.map_cons, Query.visits_foldCase q,
      Visit.foldCase]
  | .insert target a columns source es => by
    simp only [Statement.foldCase, Statement.visits, List.map_cons, List.map_append,
      queryOptionVisits_fold source, exprListVisits_fold es, Visit.foldCase]
  | .update target names values sources filter tail => by
    simp only [Statement.foldCase, Statement.visits, List.map_cons, List.map_append,
      Source.visits_foldCase target, exprListVisits_fold values, sourceListVisits_fold sources,
      exprOptionVisits_fold filter, exprListVisits_fold tail, Visit.foldCase]
  | .delete sources using_ filter tail => by
    simp only [Statement.foldCase, Statement.visits, List.map_cons, List.map_append,
      sourceListVisits_fold sources, sourceListVisits_fold using_, exprOptionVisits_fold filter,
      exprListVisits_fold tail, Visit.foldCase]
  | .explain s options => by
    simp only [Statement.foldCase, Statement.visits, List.map_cons, List.map_append,
      Statement.visits_foldCase s, exprListVisits_fold options, Visit.foldCase]
  | .prepare s => by
    simp only [Statement.foldCase, Statement.visits, List.map_cons, Statement.visits_foldCase s,
      Visit.foldCase]
  | .define definition es query tail => by
    simp only [Statement.foldCase, Statement.visits, List.map_cons, List.map_append,
      exprListVisits_fold es, queryOptionVisits_fold query, exprListVisits_fold tail,
      Visit.foldCase]
  | .other sources es query => by
    simp only [Statement.foldCase, Statement.visits, List.map_cons, List.map_append,
      sourceListVisits_fold sources, exprListVisits_fold es, queryOptionVisits_fold query,
      Visit.foldCase]

end

theorem namesOf_fold (visits : List Visit) :
    namesOf (visits.map Visit.foldCase) = (namesOf visits).map Ident.foldCase := by
  have hname : ∀ v : Visit, v.foldCase.name? = v.name?.map Ident.foldCase := by
    intro v
    cases v with
    | expr e => cases e <;> rfl
    | statement | enter | leave | factor => rfl
  rw [namesOf, namesOf, List.filterMap_map, List.map_filterMap]
  congr 1
  funext v
  exact hname v

theorem pathsOf_fold (visits : List Visit) :
    pathsOf (visits.map Visit.foldCase) = (pathsOf visits).map foldPath := by
  have hpath : ∀ v : Visit, v.foldCase.path? = v.path?.map foldPath := by
    intro v
    cases v with
    | expr e => cases e <;> rfl
    | statement | enter | leave | factor => rfl
  rw [pathsOf, pathsOf, List.filterMap_map, List.map_filterMap]
  congr 1
  funext v
  exact hpath v

/-! ### The SELECTs of a folded statement -/

mutual

theorem Query.selects_foldCase : ∀ q : Query, q.foldCase.selects = q.selects.map Select.foldCase
  | .mk ctes body tail => by
    rw [Query.foldCase, Query.selects, Query.selects, List.map_append, cteListSelects_fold ctes,
      SetExpr.selects_foldCase body]

theorem Cte.selects_foldCase : ∀ c : Cte, c.foldCase.selects = c.selects.map Select.foldCase
  | .mk header query => by
    rw [Cte.foldCase, Cte.selects, Cte.selects, Query.selects_foldCase query]

theorem cteListSelects_fold :
    ∀ cs : List Cte, cteListSelects (foldCtes cs) = (cteListSelects cs).map Select.foldCase
  | [] => rfl
  | c :: cs => by
    rw [foldCtes, cteListSelects, cteListSelects, List.map_append, Cte.selects_foldCase c,
      cteListSelects_fold cs]

theorem SetExpr.selects_foldCase :
    ∀ b : SetExpr, b.foldCase.selects = b.selects.map Select.foldCase
  | .select s => by
    rw [SetExpr.foldCase, SetExpr.selects, SetExpr.selects, List.map_cons,
      Select.sourceSelects_foldCase s]
  | .nested q => by
    rw [SetExpr.foldCase, SetExpr.selects, SetExpr.selects, Query.selects_foldCase q]
  | .operation l r => by
    rw [SetExpr.foldCase, SetExpr.selects, SetExpr.selects, List.map_append,
      SetExpr.selects_foldCase l, SetExpr.selects_foldCase r]
  | .rows _ => rfl
  | .statement _ => rfl
  | .table => rfl

theorem Select.sourceSelects_foldCase :
    ∀ s : Select, s.foldCase.sourceSelects = s.sourceSelects.map Select.foldCase
  | .mk head items sources middle filter tail => by
    rw [Select.foldCase, Select.sourceSelects, Select.sourceSelects, sourceListSelects_fold sources]

theorem Source.selects_foldCase : ∀ s : Source, s.foldCase.selects = s.selects.map Select.foldCase
  | .mk factor joins => by
    rw [Source.foldCase, Source.selects, Source.selects, List.map_append,
      Factor.selects_foldCase factor, joinListSelects_fold joins]

theorem sourceListSelects_fold :
    ∀ ss : List Source, sourceListSelects (foldSources ss) =
      (sourceListSelects ss).map Select.foldCase
  | [] => rfl
  | s :: ss => by
    rw [foldSources, sourceListSelects, sourceListSelects, List.map_append,
      Source.selects_foldCase s, sourceListSelects_fold ss]

theorem Join.selects_foldCase : ∀ j : Join, j.foldCase.selects = j.selects.map Select.foldCase
  | .mk factor conditions => by
    rw [Join.foldCase, Join.selects, Join.selects, Factor.selects_foldCase factor]

theorem joinListSelects_fold :
    ∀ js : List Join, joinListSelects (foldJoins js) = (joinListSelects js).map Select.foldCase
  | [] => rfl
  | j :: js => by
    rw [foldJoins, joinListSelects, joinListSelects, List.map_append, Join.selects_foldCase j,
      joinListSelects_fold js]

theorem Factor.selects_foldCase : ∀ f : Factor, f.foldCase.selects = f.selects.map Select.foldCase
  | .derived q a => by
    rw [Factor.foldCase, Factor.selects, Factor.selects, Query.selects_foldCase q]
  | .nested s a => by
    rw [Factor.foldCase, Factor.selects, Factor.selects, Source.selects_foldCase s]
  | .table _ _ _ _ => rfl
  | .function _ _ => rfl
  | .pivot _ _ => rfl
  | .document _ => rfl

end

theorem Statement.selects_foldCase (s : Statement) :
    s.foldCase.selects = s.selects.map Select.foldCase := by
  cases s with
  | query q =>
    rw [Statement.foldCase, Statement.selects, Statement.selects, Query.selects_foldCase q]
  | insert target a columns source es =>
    cases source with
    | none => rfl
    | some q =>
      rw [Statement.foldCase, foldQuery?, Statement.selects, Statement.selects,
        Query.selects_foldCase q]
  | update | delete | explain | prepare | define | other => rfl

theorem Select.items_foldCase (s : Select) : s.foldCase.items = foldItems s.items := by
  cases s
  rfl

theorem Select.filter_foldCase (s : Select) : s.foldCase.filter = foldExpr? s.filter := by
  cases s
  rfl

/-! ### Lists of parts -/

theorem foldItems_eq_map (items : List SelectItem) :
    foldItems items = items.map SelectItem.foldCase := by
  induction items with
  | nil => rfl
  | cons item items ih => rw [foldItems, ih, List.map_cons]

theorem foldCtes_eq_map (ctes : List Cte) : foldCtes ctes = ctes.map Cte.foldCase := by
  induction ctes with
  | nil => rfl
  | cons c ctes ih => rw [foldCtes, ih, List.map_cons]

theorem SetExpr.items_foldCase :
    ∀ b : SetExpr, b.foldCase.items = b.items.map SelectItem.foldCase
  | .select s => by
    rw [SetExpr.foldCase, SetExpr.items, SetExpr.items, Select.items_foldCase, foldItems_eq_map]
  | .operation l r => by
    rw [SetExpr.foldCase, SetExpr.items, SetExpr.items, List.map_append, SetExpr.items_foldCase l,
      SetExpr.items_foldCase r]
  | .nested _ => rfl
  | .rows _ => rfl
  | .statement _ => rfl
  | .table => rfl

theorem Factor.alias?_foldCase (f : Factor) :
    f.foldCase.alias? = f.alias?.map TableAlias.foldCase := by
  cases f <;> rfl

end SqlAudit.Sql
