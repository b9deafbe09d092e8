import SqlAudit.Proofs.Sql.Occurrences

/-!
Statements of a single SELECT over plain tables. Nothing but the query, its tables and expressions
is visited in them.
-/

namespace SqlAudit.Sql

def Query.ofSelect (select : Select) (tail : List Expr) : Query := .mk [] (.select select) tail

def Statement.ofSelect (select : Select) (tail : List Expr) : Statement :=
  .query (.ofSelect select tail)

def Source.factors (s : Source) : List Factor := s.factor :: s.joins.map (·.factor)

def Select.factors (s : Select) : List Factor := s.sources.flatMap Source.factors

/-- A table given by its name alone, without names for its columns. -/
inductive Factor.IsPlain : Factor → Prop
  | table (name : Ident) (alias? : Option Ident) (operands : List Expr) :
      IsPlain (.table [name] (alias?.map (TableAlias.mk · [])) false operands)

/-- No query is visited within an expression. -/
def NoSubquery (visits : List Visit) : Prop :=
  ∀ form operands query, Visit.expr (.subquery form operands query) ∉ visits

theorem NoSubquery.mono {visits part : List Visit} (h : NoSubquery visits) (sub : part ⊆ visits) :
    NoSubquery part := fun form operands query hmem => h form operands query (sub hmem)

mutual

theorem Expr.visits_of_noSubquery :
    ∀ (e : Expr), NoSubquery e.visits → ∀ v ∈ e.visits, ∃ e', v = .expr e'
  | .name id, _, v, hv => ⟨_, List.mem_singleton.1 hv⟩
  | .path parts, _, v, hv => ⟨_, List.mem_singleton.1 hv⟩
  | .literal text, _, v, hv => ⟨_, List.mem_singleton.1 hv⟩
  | .operation form es, flat, v, hv => by
    rw [Expr.visits] at flat hv
    rcases List.mem_cons.1 hv with rfl | hv
    · exact ⟨_, rfl⟩
    · have hrest := flat.mono (List.subset_cons_self _ (exprListVisits es))
      exact exprListVisits_of_noSubquery es hrest v hv
  | .subquery form es q, flat, v, hv => by
    rw [Expr.visits] at flat
    exact absurd List.mem_cons_self (flat form es q)

theorem exprListVisits_of_noSubquery :
    ∀ (es : List Expr), NoSubquery (exprListVisits es) → ∀ v ∈ exprListVisits es, ∃ e', v = .expr e'
  | [], _, v, hv => by simp [exprListVisits] at hv
  | e :: es, flat, v, hv => by
    rw [exprListVisits] at flat hv
    rcases List.mem_append.1 hv with hv | hv
    · have hfirst := flat.mono (List.subset_append_left e.visits (exprListVisits es))
      exact Expr.visits_of_noSubquery e hfirst v hv
    · have hrest := flat.mono (List.subset_append_right e.visits (exprListVisits es))
      exact exprListVisits_of_noSubquery es hrest v hv

end

def Visit.IsWithin (fs : List Factor) (v : Visit) : Prop :=
  (∃ f ∈ fs, v = .factor f) ∨ ∃ e, v = .expr e

theorem exprOptionVisits_of_noSubquery {e : Option Expr} (flat : NoSubquery (exprOptionVisits e))
    {v : Visit} (hv : v ∈ exprOptionVisits e) : ∃ e', v = .expr e' := by
  cases e with
  | none => simp [exprOptionVisits] at hv
  | some e => exact Expr.visits_of_noSubquery e flat v hv

theorem itemListVisits_of_noSubquery {items : List SelectItem}
    (flat : NoSubquery (itemListVisits items)) {v : Visit} (hv : v ∈ itemListVisits items) :
    ∃ e, v = .expr e := by
  induction items with
  | nil => simp [itemListVisits] at hv
  | cons item items ih =>
    rw [itemListVisits] at flat hv
    rcases List.mem_append.1 hv with hv | hv
    · have hfirst := flat.mono (List.subset_append_left item.visits (itemListVisits items))
      cases item with
      | plain e => exact Expr.visits_of_noSubquery e hfirst v hv
      | aliased e name => exact Expr.visits_of_noSubquery e hfirst v hv
      | star es => exact exprListVisits_of_noSubquery es hfirst v hv
      | qualifiedStar qualifier es => exact exprListVisits_of_noSubquery es hfirst v hv
    · exact ih (flat.mono (List.subset_append_right item.visits (itemListVisits items))) hv

theorem Factor.IsPlain.visits {f : Factor} (h : f.IsPlain) (flat : NoSubquery f.visits) {v : Visit}
    (hv : v ∈ f.visits) : v.IsWithin [f] := by
  cases h with
  | table name a operands =>
    rw [Factor.visits] at flat hv
    rcases List.mem_cons.1 hv with rfl | hv
    · exact Or.inl ⟨_, List.mem_singleton.2 rfl, rfl⟩
    · have hrest := flat.mono (List.subset_cons_self _ (exprListVisits operands))
      exact Or.inr (exprListVisits_of_noSubquery operands hrest v hv)

theorem Visit.IsWithin.mono {fs gs : List Factor} {v : Visit} (h : v.IsWithin fs) (sub : fs ⊆ gs) :
    v.IsWithin gs := by
  rcases h with ⟨f, hf, rfl⟩ | h
  · exact Or.inl ⟨f, sub hf, rfl⟩
  · exact Or.inr h

theorem joinListVisits_within {joins : List Join} (plain : ∀ j ∈ joins, j.factor.IsPlain)
    (flat : NoSubquery (joinListVisits joins)) {v : Visit} (hv : v ∈ joinListVisits joins) :
    v.IsWithin (joins.map (·.factor)) := by
  induction joins with
  | nil => simp [joinListVisits] at hv
  | cons j joins ih =>
    obtain ⟨factor, conditions⟩ := j
    rw [joinListVisits, Join.visits] at flat hv
    rcases List.mem_append.1 hv with hv | hv
    · have hjoin := flat.mono (List.subset_append_left _ (joinListVisits joins))
      rcases List.mem_append.1 hv with hv | hv
      · have hfactor := hjoin.mono (List.subset_append_left _ (exprListVisits conditions))
        exact ((plain _ List.mem_cons_self).visits hfactor hv).mono (by simp [Join.factor])
      · have hconditions := hjoin.mono (List.subset_append_right factor.visits _)
        exact Or.inr (exprListVisits_of_noSubquery conditions hconditions v hv)
    · have hrest := flat.mono (List.subset_append_right _ (joinListVisits joins))
      exact (ih (fun j hj => plain j (List.mem_cons_of_mem _ hj)) hrest hv).mono (by simp)

theorem sourceListVisits_within {sources : List Source}
    (plain : ∀ f ∈ sources.flatMap Source.factors, f.IsPlain)
    (flat : NoSubquery (sourceListVisits sources)) {v : Visit} (hv : v ∈ sourceListVisits sources) :
    v.IsWithin (sources.flatMap Source.factors) := by
  induction sources with
  | nil => simp [sourceListVisits] at hv
  | cons source sources ih =>
    obtain ⟨factor, joins⟩ := source
    rw [sourceListVisits, Source.visits] at flat hv
    rw [List.flatMap_cons] at plain ⊢
    rcases List.mem_append.1 hv with hv | hv
    · have hsource := flat.mono (List.subset_append_left _ (sourceListVisits sources))
      rcases List.mem_append.1 hv with hv | hv
      · have hfactor := hsource.mono (List.subset_append_left _ (joinListVisits joins))
        have hplain : factor.IsPlain := plain factor (by simp [Source.factors, Source.factor])
        exact (hplain.visits hfactor hv).mono (by simp [Source.factors, Source.factor])
      · have hjoins := hsource.mono (List.subset_append_right factor.visits _)
        have hplain : ∀ j ∈ joins, j.factor.IsPlain := fun j hj => plain j.factor <|
          List.mem_append_left _ (List.mem_cons_of_mem _ (List.mem_map_of_mem hj))
        refine (joinListVisits_within hplain hjoins hv).mono fun f hf => ?_
        exact List.mem_append_left _ (List.mem_cons_of_mem _ hf)
    · have hrest := flat.mono (List.subset_append_right _ (sourceListVisits sources))
      exact (ih (fun f hf => plain f (List.mem_append_right _ hf)) hrest hv).mono (by simp)

/-! ### The tables of a SELECT are visited -/

theorem Factor.mem_visits (f : Factor) : .factor f ∈ f.visits := by
  cases f <;> simp [Factor.visits]

theorem mem_joinListVisits {joins : List Join} {f : Factor} (h : f ∈ joins.map (·.factor)) :
    .factor f ∈ joinListVisits joins := by
  induction joins with
  | nil => cases h
  | cons j joins ih =>
    obtain ⟨factor, conditions⟩ := j
    rw [joinListVisits, Join.visits]
    rcases List.mem_cons.1 h with rfl | h
    · exact List.mem_append_left _ (List.mem_append_left _ (Factor.mem_visits _))
    · exact List.mem_append_right _ (ih h)

theorem mem_sourceListVisits {sources : List Source} {f : Factor}
    (h : f ∈ sources.flatMap Source.factors) : .factor f ∈ sourceListVisits sources := by
  induction sources with
  | nil => cases h
  | cons source sources ih =>
    obtain ⟨factor, joins⟩ := source
    rw [sourceListVisits, Source.visits]
    rw [List.flatMap_cons] at h
    rcases List.mem_append.1 h with h | h
    · rcases List.mem_cons.1 h with rfl | h
      · exact List.mem_append_left _ (List.mem_append_left _ (Factor.mem_visits _))
      · exact List.mem_append_left _ (List.mem_append_right _ (mem_joinListVisits h))
    · exact List.mem_append_right _ (ih h)

theorem Select.mem_visits {select : Select} {f : Factor} (h : f ∈ select.factors) :
    .factor f ∈ select.visits := by
  obtain ⟨head, items, sources, middle, filter, tail⟩ := select
  have hsource := mem_sourceListVisits h
  simp only [Select.sources] at hsource
  simp [Select.visits, hsource]

theorem Statement.mem_visits_ofSelect {select : Select} {tail : List Expr} {v : Visit}
    (h : v ∈ select.visits) : v ∈ (Statement.ofSelect select tail).visits := by
  simp [Statement.ofSelect, Query.ofSelect, Statement.visits, Query.visits, SetExpr.visits, h]

theorem visit_cases {select : Select} {tail : List Expr}
    (plain : ∀ f ∈ select.factors, f.IsPlain)
    (flat : NoSubquery (Statement.ofSelect select tail).visits) {v : Visit}
    (hv : v ∈ (Statement.ofSelect select tail).visits) :
    v = .statement (.ofSelect select tail) ∨ v = .enter (.ofSelect select tail) ∨ v = .leave ∨
      v.IsWithin select.factors := by
  obtain ⟨head, items, sources, middle, filter, rest⟩ := select
  have hvisits : (Statement.ofSelect (.mk head items sources middle filter rest) tail).visits =
      .statement (.ofSelect (.mk head items sources middle filter rest) tail) ::
      .enter (.ofSelect (.mk head items sources middle filter rest) tail) ::
        (exprListVisits head ++ itemListVisits items ++ sourceListVisits sources ++
          exprListVisits middle ++ exprOptionVisits filter ++ exprListVisits rest ++
          exprListVisits tail ++ [.leave]) := by
    simp [Statement.ofSelect, Query.ofSelect, Statement.visits, Query.visits, cteListVisits,
      SetExpr.visits, Select.visits]
  rw [hvisits] at flat hv
  rcases List.mem_cons.1 hv with rfl | hv
  · exact Or.inl rfl
  rcases List.mem_cons.1 hv with rfl | hv
  · exact Or.inr (Or.inl rfl)
  have hflat : ∀ part, part ⊆ exprListVisits head ++ itemListVisits items ++
      sourceListVisits sources ++ exprListVisits middle ++ exprOptionVisits filter ++
      exprListVisits rest ++ exprListVisits tail ++ [.leave] → NoSubquery part := fun part hpart =>
    flat.mono fun w hw => List.mem_cons_of_mem _ (List.mem_cons_of_mem _ (hpart hw))
  have hhead : NoSubquery (exprListVisits head) := hflat _ fun w hw => by simp [hw]
  have hitems : NoSubquery (itemListVisits items) := hflat _ fun w hw => by simp [hw]
  have hsources : NoSubquery (sourceListVisits sources) := hflat _ fun w hw => by simp [hw]
  have hmiddle : NoSubquery (exprListVisits middle) := hflat _ fun w hw => by simp [hw]
  have hfilter : NoSubquery (exprOptionVisits filter) := hflat _ fun w hw => by simp [hw]
  have hrest : NoSubquery (exprListVisits rest) := hflat _ fun w hw => by simp [hw]
  have htail : NoSubquery (exprListVisits tail) := hflat _ fun w hw => by simp [hw]
  right
  right
  simp only [List.mem_append, List.mem_singleton] at hv
  rcases hv with ((((((hv | hv) | hv) | hv) | hv) | hv) | hv) | rfl
  · exact Or.inr (Or.inr (exprListVisits_of_noSubquery head hhead v hv))
  · exact Or.inr (Or.inr (itemListVisits_of_noSubquery hitems hv))
  · exact Or.inr (sourceListVisits_within plain hsources hv)
  · exact Or.inr (Or.inr (exprListVisits_of_noSubquery middle hmiddle v hv))
  · exact Or.inr (Or.inr (exprOptionVisits_of_noSubquery hfilter hv))
  · exact Or.inr (Or.inr (exprListVisits_of_noSubquery rest hrest v hv))
  · exact Or.inr (Or.inr (exprListVisits_of_noSubquery tail htail v hv))
  · exact Or.inl rfl

end SqlAudit.Sql
