import Mathlib.Data.List.Nodup
import Mathlib.Data.List.Pairwise
import Mathlib.Data.List.Perm.Subperm
import SqlAudit.Sql.Selects
import SqlAudit.Sql.Walk

/-!
Where the names of a statement stand. Every visit of the walk is at some names; a statement whose
names all have places of their own is the ordinary case, since that is how a text is read. The
SELECTs that make up the rows of a statement are parts of its walk.
-/

namespace SqlAudit.Sql

def Ident.start (i : Ident) : Position := i.range.start

def Ident.onLine (value : String) (column : Nat) : Ident :=
  ⟨value, none, some ⟨⟨0, column⟩, ⟨0, column + value.length⟩⟩⟩

theorem Ident.key_eq_some {i : Ident} (h : i.key ≠ none) : i.key = some i.start := by
  unfold Ident.key at h ⊢
  cases hp : i.place with
  | none => simp [hp] at h
  | some range => simp [Ident.start, Ident.range, hp]

def TableAlias.idents (a : TableAlias) : List Ident := a.name :: a.columns

namespace SelectItem

def idents : SelectItem → List Ident
  | plain _ => []
  | aliased _ name => [name]
  | star _ => []
  | qualifiedStar qualifier _ => qualifier

end SelectItem

namespace Factor

def idents : Factor → List Ident
  | table name a _ _ => name ++ a.toList.flatMap TableAlias.idents
  | f => f.alias?.toList.flatMap TableAlias.idents

end Factor

namespace Statement

def written : Statement → List Ident
  | insert _ _ columns _ _ => columns
  | update _ names _ _ _ _ => names.flatten
  | _ => []

def ownIdents : Statement → List Ident
  | insert target a columns _ _ => target ++ a.toList ++ columns
  | s => s.written

end Statement

namespace Visit

def idents : Visit → List Ident
  | statement s => s.ownIdents
  | enter q => q.ctes.flatMap (·.header.idents) ++ q.body.items.flatMap SelectItem.idents
  | leave => []
  | factor f => f.idents
  | expr (.name id) => [id]
  | expr (.path parts) => parts
  | expr _ => []

def written : Visit → List Ident
  | statement s => s.written
  | _ => []

end Visit

def Statement.idents (s : Statement) : List Ident := s.visits.flatMap Visit.idents

theorem eq_of_mem_flatMap {α β : Type} {as : List α} {f : α → List β} (h : (as.flatMap f).Nodup)
    {a b : α} (ha : a ∈ as) (hb : b ∈ as) {x : β} (hxa : x ∈ f a) (hxb : x ∈ f b) : a = b := by
  by_contra hne
  have : Std.Symm (Function.onFun List.Disjoint f) := ⟨fun _ _ h _ hw hv => h hv hw⟩
  exact (List.nodup_flatMap.1 h).2.forall ha hb hne hxa hxb

/-- Names that all have places, no two the same one. -/
structure DistinctPlaces (ids : List Ident) : Prop where
  known : ∀ i ∈ ids, i.key ≠ none
  distinct : (ids.map Ident.start).Nodup

namespace DistinctPlaces

theorem of_subperm {ids part : List Ident} (h : DistinctPlaces ids) (sub : part.Subperm ids) :
    DistinctPlaces part where
  known i hi := h.known i (sub.subset hi)
  distinct := by
    obtain ⟨mid, perm, sublist⟩ := sub
    exact (perm.map _).nodup_iff.1 (h.distinct.sublist (sublist.map _))

theorem eq_of_start {ids : List Ident} (h : DistinctPlaces ids) {i j : Ident} (hi : i ∈ ids)
    (hj : j ∈ ids) (same : i.start = j.start) : i = j :=
  List.inj_on_of_nodup_map h.distinct hi hj same

theorem eq_of_mem_idents {visits : List Visit}
    (h : DistinctPlaces (visits.flatMap Visit.idents)) {v w : Visit} (hv : v ∈ visits)
    (hw : w ∈ visits) {i j : Ident} (hi : i ∈ v.idents) (hj : j ∈ w.idents)
    (same : i.start = j.start) : v = w := by
  have hids : (visits.flatMap Visit.idents).Nodup := List.Nodup.of_map _ h.distinct
  have hij : i = j := h.eq_of_start (List.mem_flatMap.2 ⟨v, hv, hi⟩)
    (List.mem_flatMap.2 ⟨w, hw, hj⟩) same
  exact eq_of_mem_flatMap hids hv hw hi (hij ▸ hj)

theorem key_eq {ids : List Ident} (h : DistinctPlaces ids) {i : Ident} (hi : i ∈ ids) :
    i.key = some i.start := Ident.key_eq_some (h.known i hi)

end DistinctPlaces

/-! ### The SELECTs of a statement -/

theorem Select.items_subset (s : Select) : itemListVisits s.items ⊆ s.visits := by
  obtain ⟨head, items, sources, middle, filter, tail⟩ := s
  intro v hv
  simp only [Select.items] at hv
  simp [Select.visits, hv]

theorem Select.filter_subset (s : Select) : exprOptionVisits s.filter ⊆ s.visits := by
  obtain ⟨head, items, sources, middle, filter, tail⟩ := s
  intro v hv
  simp only [Select.filter] at hv
  simp [Select.visits, hv]

mutual

theorem Query.selects_subset : ∀ (q : Query) (s : Select), s ∈ q.selects → s.visits ⊆ q.visits
  | .mk ctes body tail, s, hs => by
    intro v hv
    rw [Query.selects, List.mem_append] at hs
    rcases hs with hs | hs
    · simp [Query.visits, cteListSelects_subset ctes s hs hv]
    · simp [Query.visits, SetExpr.selects_subset body s hs hv]

theorem Cte.selects_subset : ∀ (c : Cte) (s : Select), s ∈ c.selects → s.visits ⊆ c.visits
  | .mk _ query, s, hs => by
    rw [Cte.selects] at hs
    rw [Cte.visits]
    exact Query.selects_subset query s hs

theorem cteListSelects_subset :
    ∀ (cs : List Cte) (s : Select), s ∈ cteListSelects cs → s.visits ⊆ cteListVisits cs
  | [], s, hs => by simp [cteListSelects] at hs
  | c :: cs, s, hs => by
    intro v hv
    rw [cteListSelects, List.mem_append] at hs
    rcases hs with hs | hs
    · simp [cteListVisits, Cte.selects_subset c s hs hv]
    · simp [cteListVisits, cteListSelects_subset cs s hs hv]

theorem SetExpr.selects_subset :
    ∀ (b : SetExpr) (s : Select), s ∈ b.selects → s.visits ⊆ b.visits
  | .select select, s, hs => by
    rw [SetExpr.selects, List.mem_cons] at hs
    rw [SetExpr.visits]
    rcases hs with rfl | hs
    · exact List.Subset.refl _
    · exact Select.sourceSelects_subset select s hs
  | .nested q, s, hs => by
    rw [SetExpr.selects] at hs
    rw [SetExpr.visits]
    exact Query.selects_subset q s hs
  | .operation l r, s, hs => by
    intro v hv
    rw [SetExpr.selects, List.mem_append] at hs
    rcases hs with hs | hs
    · simp [SetExpr.visits, SetExpr.selects_subset l s hs hv]
    · simp [SetExpr.visits, SetExpr.selects_subset r s hs hv]
  | .rows _, s, hs => by simp [SetExpr.selects] at hs
  | .statement _, s, hs => by simp [SetExpr.selects] at hs
  | .table, s, hs => by simp [SetExpr.selects] at hs

theorem Select.sourceSelects_subset :
    ∀ (select s : Select), s ∈ select.sourceSelects → s.visits ⊆ select.visits
  | .mk _ _ sources _ _ _, s, hs => by
    intro v hv
    rw [Select.sourceSelects] at hs
    simp [Select.visits, sourceListSelects_subset sources s hs hv]

theorem Source.selects_subset : ∀ (f : Source) (s : Select), s ∈ f.selects → s.visits ⊆ f.visits
  | .mk factor joins, s, hs => by
    intro v hv
    rw [Source.selects, List.mem_append] at hs
    rcases hs with hs | hs
    · simp [Source.visits, Factor.selects_subset factor s hs hv]
    · simp [Source.visits, joinListSelects_subset joins s hs hv]

theorem sourceListSelects_subset :
    ∀ (fs : List Source) (s : Select), s ∈ sourceListSelects fs → s.visits ⊆ sourceListVisits fs
  | [], s, hs => by simp [sourceListSelects] at hs
  | f :: fs, s, hs => by
    intro v hv
    rw [sourceListSelects, List.mem_append] at hs
    rcases hs with hs | hs
    · simp [sourceListVisits, Source.selects_subset f s hs hv]
    · simp [sourceListVisits, sourceListSelects_subset fs s hs hv]

theorem Join.selects_subset : ∀ (j : Join) (s : Select), s ∈ j.selects → s.visits ⊆ j.visits
  | .mk factor _, s, hs => by
    intro v hv
    rw [Join.selects] at hs
    simp [Join.visits, Factor.selects_subset factor s hs hv]

theorem joinListSelects_subset :
    ∀ (js : List Join) (s : Select), s ∈ joinListSelects js → s.visits ⊆ joinListVisits js
  | [], s, hs => by simp [joinListSelects] at hs
  | j :: js, s, hs => by
    intro v hv
    rw [joinListSelects, List.mem_append] at hs
    rcases hs with hs | hs
    · simp [joinListVisits, Join.selects_subset j s hs hv]
    · simp [joinListVisits, joinListSelects_subset js s hs hv]

theorem Factor.selects_subset : ∀ (f : Factor) (s : Select), s ∈ f.selects → s.visits ⊆ f.visits
  | .derived q _, s, hs => by
    intro v hv
    rw [Factor.selects] at hs
    simp [Factor.visits, Query.selects_subset q s hs hv]
  | .nested source _, s, hs => by
    intro v hv
    rw [Factor.selects] at hs
    simp [Factor.visits, Source.selects_subset source s hs hv]
  | .table _ _ _ _, s, hs => by simp [Factor.selects] at hs
  | .function _ _, s, hs => by simp [Factor.selects] at hs
  | .pivot _ _, s, hs => by simp [Factor.selects] at hs
  | .document _, s, hs => by simp [Factor.selects] at hs

end

theorem Statement.selects_subset {s : Statement} {select : Select} (h : select ∈ s.selects) :
    select.visits ⊆ s.visits := by
  intro v hv
  cases s with
  | query q =>
    rw [Statement.selects] at h
    simp [Statement.visits, Query.selects_subset q select h hv]
  | insert target a columns source operands =>
    cases source with
    | none => simp [Statement.selects] at h
    | some q =>
      rw [Statement.selects] at h
      simp [Statement.visits, queryOptionVisits, Query.selects_subset q select h hv]
  | update | delete | explain | prepare | define | other => simp [Statement.selects] at h

end SqlAudit.Sql
