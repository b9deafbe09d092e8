import Mathlib.Data.List.Flatten
import SqlAudit.Names.Columns
import SqlAudit.Proofs.Names.Symbols

/-!
The findings on columns, occurrence by occurrence. Names stand in paths, before stars, as targets or
alone; a statement whose names have places of their own gets one verdict for each of them, whatever
the order in which the sweeps come upon it.
-/

namespace SqlAudit

open Sql

namespace Finding

def start (f : Finding) : Position := f.range.start

@[simp] theorem start_error (rule : Rule) (i : Ident) (message : String) :
    (error rule i.range message).start = i.start := rfl

@[simp] theorem start_warning (rule : Rule) (i : Ident) (message : String) :
    (warning rule i.range message).start = i.start := rfl

@[simp] theorem start_withHelp (f : Finding) (help : String) :
    (f.withHelp help).start = f.start := rfl

def mark (f : Finding) : Rule × Range := (f.rule, f.range)

@[simp] theorem mark_error (rule : Rule) (range : Range) (message : String) :
    (error rule range message).mark = (rule, range) := rfl

@[simp] theorem mark_warning (rule : Rule) (range : Range) (message : String) :
    (warning rule range message).mark = (rule, range) := rfl

@[simp] theorem mark_withHelp (f : Finding) (help : String) : (f.withHelp help).mark = f.mark := rfl

/-- What findings report at the place of a name. -/
def reportedAt (found : List Finding) (i : Ident) : List (Rule × Range) :=
  (found.filter (·.start == i.start)).map mark

theorem filter_start_eq_self {found : List Finding} {i : Ident}
    (h : (found.map start).Sublist [i.start]) : found.filter (·.start == i.start) = found := by
  refine List.filter_eq_self.2 fun f hf => ?_
  have hstart := h.subset (List.mem_map_of_mem hf)
  rw [beq_iff_eq]
  exact List.mem_singleton.1 hstart

theorem reportedAt_of_starts {found : List Finding} {i : Ident}
    (h : (found.map start).Sublist [i.start]) : reportedAt found i = found.map mark := by
  rw [reportedAt, filter_start_eq_self h]

theorem reportedAt_eq_nil {found : List Finding} {i j : Ident}
    (h : (found.map start).Sublist [j.start]) (apart : j.start ≠ i.start) :
    reportedAt found i = [] := by
  rw [reportedAt, List.filter_eq_nil_iff.2, List.map_nil]
  intro f hf hstart
  have hj := List.mem_singleton.1 (h.subset (List.mem_map_of_mem hf))
  exact apart (hj.symm.trans (beq_iff_eq.1 hstart))

theorem length_filter_start_le {found : List Finding} (h : (found.map start).Nodup)
    (p : Position) : (found.filter (·.start == p)).length ≤ 1 := by
  have hcount : (found.map start).count p ≤ 1 := List.nodup_iff_count_le_one.1 h p
  rwa [List.count, List.countP_map, List.countP_eq_length_filter] at hcount

end Finding

namespace Names

/-! ### The first item of every key -/

section FirstByKey

variable {α : Type} {key : α → Option Position}

theorem firstByKey_eq_self {seen : List Position} {as : List α}
    (distinct : (as.filterMap key).Nodup) (fresh : ∀ k ∈ as.filterMap key, k ∉ seen) :
    firstByKey key seen as = as := by
  induction as generalizing seen with
  | nil => rfl
  | cons a as ih =>
    cases hk : key a with
    | none =>
      rw [List.filterMap_cons_none hk] at distinct fresh
      simp [firstByKey, hk, ih distinct fresh]
    | some k =>
      rw [List.filterMap_cons_some hk] at distinct fresh
      have hseen : k ∉ seen := fresh k List.mem_cons_self
      have hrest : ∀ j ∈ as.filterMap key, j ∉ k :: seen := by
        intro j hj
        rw [List.mem_cons, not_or]
        refine ⟨?_, fresh j (List.mem_cons_of_mem k hj)⟩
        rintro rfl
        exact (List.nodup_cons.1 distinct).1 hj
      simp [firstByKey, hk, hseen, ih (List.nodup_cons.1 distinct).2 hrest]

theorem mem_of_mem_firstByKey {seen : List Position} {as : List α} {a : α}
    (h : a ∈ firstByKey key seen as) : a ∈ as ∧ ∀ k ∈ key a, k ∉ seen := by
  induction as generalizing seen with
  | nil => simp [firstByKey] at h
  | cons b as ih =>
    cases hk : key b with
    | none =>
      simp only [firstByKey, hk, List.mem_cons] at h
      rcases h with rfl | h
      · exact ⟨List.mem_cons_self, by simp [hk]⟩
      · exact ⟨List.mem_cons_of_mem b (ih h).1, (ih h).2⟩
    | some k =>
      simp only [firstByKey, hk] at h
      split at h
      next => exact ⟨List.mem_cons_of_mem b (ih h).1, (ih h).2⟩
      next hseen =>
        rw [List.mem_cons] at h
        rcases h with rfl | h
        · exact ⟨List.mem_cons_self, by simpa [hk] using hseen⟩
        · refine ⟨List.mem_cons_of_mem b (ih h).1, fun j hj hmem => ?_⟩
          exact (ih h).2 j hj (List.mem_cons_of_mem k hmem)

theorem exists_mem_firstByKey {seen : List Position} {as : List α} {a : α} {k : Position}
    (mem : a ∈ as) (hk : key a = some k) (fresh : k ∉ seen) :
    ∃ b ∈ firstByKey key seen as, key b = some k := by
  induction as generalizing seen with
  | nil => cases mem
  | cons b as ih =>
    cases hb : key b with
    | none =>
      have hmem : a ∈ as := by
        rcases List.mem_cons.1 mem with rfl | h
        · simp [hk] at hb
        · exact h
      obtain ⟨c, hc, hck⟩ := ih hmem fresh
      exact ⟨c, by simp [firstByKey, hb, hc], hck⟩
    | some j =>
      by_cases hj : j = k
      · subst hj
        exact ⟨b, by simp [firstByKey, hb, fresh], hb⟩
      · have hmem : a ∈ as := by
          rcases List.mem_cons.1 mem with rfl | h
          · exact absurd (Option.some.inj (hb.symm.trans hk)) hj
          · exact h
        by_cases hseen : j ∈ seen
        · obtain ⟨c, hc, hck⟩ := ih hmem fresh
          exact ⟨c, by simp [firstByKey, hb, hseen, hc], hck⟩
        · have hfresh : k ∉ j :: seen := by simp [Ne.symm hj, fresh]
          obtain ⟨c, hc, hck⟩ := ih hmem hfresh
          exact ⟨c, by simp [firstByKey, hb, hseen, hc], hck⟩

theorem nodup_firstByKey {seen : List Position} {as : List α} (keyed : ∀ a ∈ as, key a ≠ none) :
    (firstByKey key seen as).Nodup := by
  induction as generalizing seen with
  | nil => exact List.nodup_nil
  | cons a as ih =>
    have hrest : ∀ b ∈ as, key b ≠ none := fun b hb => keyed b (List.mem_cons_of_mem a hb)
    cases hk : key a with
    | none => exact absurd hk (keyed a List.mem_cons_self)
    | some k =>
      simp only [firstByKey, hk]
      split
      next => exact ih hrest
      next =>
        refine List.nodup_cons.2 ⟨fun hmem => ?_, ih hrest⟩
        exact (mem_of_mem_firstByKey hmem).2 k hk List.mem_cons_self

end FirstByKey

namespace ColumnCheck

variable (c : ColumnCheck)

/-! ### Where verdicts stand -/

@[simp] theorem start_suggesting (f : Finding) (candidates : List String) (name : String) :
    (suggesting f candidates name).start = f.start := by
  unfold suggesting
  split <;> rfl

@[simp] theorem mark_suggesting (f : Finding) (candidates : List String) (name : String) :
    (suggesting f candidates name).mark = f.mark := by
  unfold suggesting
  split <;> rfl

theorem memberVerdict_starts (table : String) (column : Ident) :
    ((c.memberVerdict table column).map Finding.start).Sublist [column.start] := by
  unfold memberVerdict
  split
  · simp
  · split
    · simp
    · split <;> simp

theorem unknownName_starts (id : Ident) :
    ((c.unknownName id).map Finding.start).Sublist [id.start] := by
  unfold unknownName
  split
  · simp
  · split <;> simp

theorem knownName_starts (id : Ident) :
    ((c.knownName id).map Finding.start).Sublist [id.start] := by
  unfold knownName
  split
  · split <;> simp
  · simp

theorem nameVerdict_starts (id : Ident) :
    ((c.nameVerdict id).map Finding.start).Sublist [id.start] := by
  unfold nameVerdict
  split
  · simp
  · split
    · exact c.unknownName_starts id
    · exact c.knownName_starts id

theorem qualifierVerdict_starts (id : Ident) :
    ((c.qualifierVerdict id).map Finding.start).Sublist [id.start] := by
  unfold qualifierVerdict
  split <;> simp [unknownQualifier]

theorem pathVerdict_starts (parts : Path) :
    ((c.pathVerdict parts).map Finding.start).Sublist (parts.map Ident.start) := by
  unfold pathVerdict
  split
  next column qualifier front hparts =>
    have hcolumn : column ∈ parts := List.mem_reverse.1 (by simp [hparts])
    have hqualifier : qualifier ∈ parts := List.mem_reverse.1 (by simp [hparts])
    split
    · refine (c.memberVerdict_starts _ column).trans ?_
      exact List.singleton_sublist.2 (List.mem_map_of_mem hcolumn)
    · simp
    · exact List.singleton_sublist.2 (List.mem_map_of_mem hqualifier)
  next => simp

def Target.idents : Target → List Ident
  | .column _ name => [name]
  | .path parts => parts

theorem targetVerdict_starts (t : Target) :
    ((c.targetVerdict t).map Finding.start).Sublist (t.idents.map Ident.start) := by
  cases t with
  | column table name => exact c.memberVerdict_starts table name
  | path parts => exact c.pathVerdict_starts parts

/-- What a verdict is given on: a path, the qualifier of a star, a target, or a name alone. -/
inductive Judged
  | path (parts : Path)
  | star (qualifier : Ident)
  | target (target : Target)
  | name (id : Ident)
  deriving DecidableEq, Repr

def Judged.idents : Judged → List Ident
  | .path parts => parts
  | .star qualifier => [qualifier]
  | .target t => t.idents
  | .name id => [id]

def verdict : Judged → List Finding
  | .path parts => c.pathVerdict parts
  | .star qualifier => c.qualifierVerdict qualifier
  | .target t => c.targetVerdict t
  | .name id => c.nameVerdict id

theorem verdict_starts (j : Judged) :
    ((c.verdict j).map Finding.start).Sublist (j.idents.map Ident.start) := by
  cases j with
  | path parts => exact c.pathVerdict_starts parts
  | star qualifier => exact c.qualifierVerdict_starts qualifier
  | target t => exact c.targetVerdict_starts t
  | name id => exact c.nameVerdict_starts id

/-! ### The names that are judged -/

def judged (s : Statement) : List Judged :=
  (pathsOf s.visits).map .path ++ (s.visits.flatMap Visit.starQualifiers).map .star ++
    (targets s).map .target ++ (namesOf s.visits).map .name

theorem judged_idents (s : Statement) :
    (judged s).flatMap Judged.idents =
      (pathsOf s.visits).flatten ++ s.visits.flatMap Visit.starQualifiers ++
        (targets s).flatMap Target.idents ++ namesOf s.visits := by
  simp [judged, List.flatMap_append, List.flatMap_map, Judged.idents, List.flatMap_id']

theorem targets_sublist (s : Statement) :
    ((targets s).flatMap Target.idents).Sublist s.written := by
  cases s with
  | insert target a columns source operands =>
    simp only [targets, Statement.written]
    split
    · simp [List.flatMap_map, Target.idents]
    · simp
  | update target names values sources filter tail =>
    simp only [targets, Statement.written, List.flatMap_assoc]
    rw [← List.flatMap_id]
    refine List.Sublist.flatMap_right names fun parts _ => ?_
    split
    next column =>
      split
      next name _ _ _ _ => cases tableName name <;> simp [Target.idents]
      next => simp
    next => simp [Target.idents]
  | query | delete | explain | prepare | define | other => simp [targets]

def judgedAt (v : Visit) : List Ident :=
  v.path?.getD [] ++ v.starQualifiers ++ v.written ++ v.name?.toList

theorem starQualifiers_sublist (q : Query) :
    (Visit.enter q).starQualifiers.Sublist (q.body.items.flatMap SelectItem.idents) := by
  rw [Visit.starQualifiers, List.filterMap_eq_flatMap_toList]
  refine List.Sublist.flatMap_right q.body.items fun item _ => ?_
  cases item with
  | qualifiedStar qualifier _ =>
    change qualifier.getLast?.toList.Sublist qualifier
    cases hlast : qualifier.getLast? with
    | none => exact List.nil_sublist _
    | some last => exact List.singleton_sublist.2 (List.mem_of_getLast? hlast)
  | plain | aliased | star => simp

theorem judgedAt_sublist (v : Visit) : (judgedAt v).Sublist v.idents := by
  cases v with
  | statement s =>
    cases s with
    | insert target a columns source operands =>
      simp [judgedAt, Visit.path?, Visit.starQualifiers, Visit.items, Visit.written, Visit.name?,
        Visit.idents, Statement.written, Statement.ownIdents]
    | query | update | delete | explain | prepare | define | other =>
      simp [judgedAt, Visit.path?, Visit.starQualifiers, Visit.items, Visit.written, Visit.name?,
        Visit.idents, Statement.ownIdents]
  | enter q =>
    have hstars := (starQualifiers_sublist q).trans
      (List.sublist_append_right (q.ctes.flatMap (·.header.idents)) _)
    simpa [judgedAt, Visit.path?, Visit.written, Visit.name?, Visit.idents] using hstars
  | expr e =>
    cases e <;> simp [judgedAt, Visit.path?, Visit.starQualifiers, Visit.items, Visit.written,
      Visit.name?, Visit.idents]
  | leave | factor =>
    simp [judgedAt, Visit.path?, Visit.starQualifiers, Visit.items, Visit.written, Visit.name?]

theorem flatten_pathsOf (visits : List Visit) :
    (pathsOf visits).flatten = visits.flatMap fun v => v.path?.getD [] := by
  induction visits with
  | nil => rfl
  | cons v visits ih =>
    rw [List.flatMap_cons, ← ih, pathsOf, pathsOf]
    cases hp : v.path? with
    | none => simp [hp]
    | some parts => simp [hp]

theorem written_sublist (s : Statement) : s.written.Sublist (s.visits.flatMap Visit.written) := by
  cases s <;> simp [Statement.visits, Visit.written]

theorem judged_subperm (s : Statement) :
    ((judged s).flatMap Judged.idents).Subperm s.idents := by
  have hnames : namesOf s.visits = s.visits.flatMap fun v => v.name?.toList :=
    List.filterMap_eq_flatMap_toList _ _
  have hsplit : ((judged s).flatMap Judged.idents).Sublist
      (s.visits.flatMap (fun v => v.path?.getD []) ++ s.visits.flatMap Visit.starQualifiers ++
        s.visits.flatMap Visit.written ++ s.visits.flatMap fun v => v.name?.toList) := by
    rw [judged_idents, flatten_pathsOf, hnames]
    refine (List.Sublist.append (List.Sublist.refl _) ?_).append (List.Sublist.refl _)
    exact (targets_sublist s).trans (written_sublist s)
  have hperm : (s.visits.flatMap (fun v => v.path?.getD []) ++
      s.visits.flatMap Visit.starQualifiers ++ s.visits.flatMap Visit.written ++
      s.visits.flatMap fun v => v.name?.toList).Perm (s.visits.flatMap judgedAt) := by
    refine (((List.flatMap_append_perm _ _ _).append_right _).append_right _).trans ?_
    exact ((List.flatMap_append_perm _ _ _).append_right _).trans (List.flatMap_append_perm _ _ _)
  have hidents : (s.visits.flatMap judgedAt).Sublist s.idents :=
    List.Sublist.flatMap_right s.visits fun v _ => judgedAt_sublist v
  exact hsplit.subperm.trans (hperm.subperm.trans hidents.subperm)

/-! ### Sweeps -/

theorem namesOf_subset {visits rest : List Visit} (h : visits ⊆ rest) :
    namesOf visits ⊆ namesOf rest := List.filterMap_subset _ h

theorem changeFilter_subset (s : Statement) : exprOptionVisits (changeFilter s) ⊆ s.visits := by
  intro v hv
  cases s with
  | update target names values sources filter tail =>
    simp only [changeFilter] at hv
    simp [Statement.visits, hv]
  | delete sources using_ filter tail =>
    simp only [changeFilter] at hv
    simp [Statement.visits, hv]
  | query | insert | explain | prepare | define | other =>
    simp [changeFilter, exprOptionVisits] at hv

theorem mem_sweep {s : Statement} {id : Ident} : id ∈ sweep s ↔ id ∈ namesOf s.visits := by
  refine ⟨fun h => ?_, fun h => by simp [sweep, h]⟩
  simp only [sweep, List.mem_append, List.mem_flatMap] at h
  rcases h with ((⟨select, hselect, hid⟩ | ⟨select, hselect, hid⟩) | hid) | hid
  · have hitems := List.Subset.trans (Select.items_subset select) (Statement.selects_subset hselect)
    exact namesOf_subset hitems hid
  · have hfilter :=
      List.Subset.trans (Select.filter_subset select) (Statement.selects_subset hselect)
    exact namesOf_subset hfilter hid
  · exact namesOf_subset (changeFilter_subset s) hid
  · exact hid

/-- What a check judges of a statement, in the order of its findings. -/
def checked (s : Statement) : List Judged :=
  (pathsOf s.visits).map .path ++ c.symbols.starQualifiers.map .star ++
    (firstByKey targetKey [] (targets s)).map .target ++
    (namesToCheck (c.excluded s ++ (targets s).filterMap targetKey) (sweep s)).map .name

theorem findings_eq_flatMap (s : Statement) : c.findings s = (c.checked s).flatMap c.verdict := by
  simp only [checked, List.flatMap_append, List.flatMap_map]
  rfl

theorem checked_congr {d : ColumnCheck} (symbols : d.symbols = c.symbols) (s : Statement) :
    d.checked s = c.checked s := by
  simp only [checked, excluded, symbols]

theorem mem_judged_of_mem_checked {s : Statement} (collected : c.symbols = .collect s) {j : Judged}
    (hj : j ∈ c.checked s) : j ∈ judged s := by
  have hstars : c.symbols.starQualifiers = s.visits.flatMap Visit.starQualifiers := by
    rw [collected]
    rfl
  rw [checked, hstars] at hj
  simp only [List.mem_append, List.mem_map] at hj
  rcases hj with ((⟨parts, hparts, rfl⟩ | ⟨qualifier, hqualifier, rfl⟩) | ⟨t, ht, rfl⟩) |
    ⟨id, hid, rfl⟩
  · simp [judged, hparts]
  · simpa [judged] using List.mem_flatMap.1 hqualifier
  · simp [judged, (mem_of_mem_firstByKey ht).1]
  · simp [judged, mem_sweep.1 (List.mem_filter.1 (mem_of_mem_firstByKey hid).1).1]

/-- Whatever the sweeps come upon more than once, names with places of their own are checked in some
order, each one once. -/
theorem namesToCheck_perm {s : Statement} (places : DistinctPlaces (namesOf s.visits))
    (seen : List Position) :
    (namesToCheck seen (sweep s)).Perm
      ((namesOf s.visits).filter fun id => !seen.contains id.start) := by
  have hkeyed : ∀ id ∈ (sweep s).filter (·.key.isSome), id.key ≠ none := by
    intro id hid
    exact Option.isSome_iff_ne_none.1 (List.mem_filter.1 hid).2
  have hnames : (namesOf s.visits).Nodup := List.Nodup.of_map _ places.distinct
  refine (List.perm_ext_iff_of_nodup (nodup_firstByKey hkeyed) (hnames.filter _)).2 fun id => ?_
  constructor
  · intro h
    obtain ⟨hmem, hfresh⟩ := mem_of_mem_firstByKey h
    have hid : id ∈ namesOf s.visits := mem_sweep.1 (List.mem_filter.1 hmem).1
    have hstart := hfresh id.start (places.key_eq hid)
    exact List.mem_filter.2 ⟨hid, by simpa using hstart⟩
  · intro h
    obtain ⟨hid, hstart⟩ := List.mem_filter.1 h
    have hkey := places.key_eq hid
    have hmem : id ∈ (sweep s).filter (·.key.isSome) :=
      List.mem_filter.2 ⟨mem_sweep.2 hid, by simp [hkey]⟩
    have hfresh : id.start ∉ seen := by simpa using hstart
    obtain ⟨other, hother, hsame⟩ := exists_mem_firstByKey hmem hkey hfresh
    have hin : other ∈ namesOf s.visits :=
      mem_sweep.1 (List.mem_filter.1 (mem_of_mem_firstByKey hother).1).1
    have hplace : other.start = id.start :=
      Option.some.inj ((places.key_eq hin).symm.trans hsame)
    rw [← places.eq_of_start hin hid hplace]
    exact hother

/-! ### Names that are part of something else -/

/-- The names where a visit takes place that are part of something else. -/
def partsAt (v : Visit) : List Ident :=
  v.path?.getD [] ++ v.starQualifiers ++ v.uses.flatMap TableUse.idents ++ v.aliases.map (·.1) ++
    v.targets

theorem partsAt_subset (v : Visit) : partsAt v ⊆ v.idents := by
  intro i hi
  simp only [partsAt, List.mem_append] at hi
  rcases hi with (((hi | hi) | hi) | hi) | hi
  · exact (judgedAt_sublist v).subset (by simp [judgedAt, hi])
  · exact (judgedAt_sublist v).subset (by simp [judgedAt, hi])
  · exact uses_idents_subset v hi
  · exact aliases_subset v hi
  · exact targets_subset v hi

theorem exists_part_of_mem_excluded {s : Statement} (collected : c.symbols = .collect s)
    {k : Position} (h : k ∈ c.excluded s) :
    ∃ v ∈ s.visits, ∃ i ∈ partsAt v, i.key = some k := by
  have hparts : ∃ i, i.key = some k ∧
      (i ∈ (pathsOf s.visits).flatten ∨ i ∈ s.visits.flatMap Visit.starQualifiers ∨
        i ∈ (s.visits.flatMap Visit.uses).flatMap TableUse.idents ∨
        i ∈ (c.symbols.definitions).map (·.name) ∨ i ∈ s.visits.flatMap Visit.targets) := by
    rw [excluded, collected] at h
    rcases List.mem_append.1 h with h | h
    · obtain ⟨i, hi, hk⟩ := List.mem_filterMap.1 h
      refine ⟨i, hk, ?_⟩
      rw [collected]
      rcases List.mem_append.1 hi with hi | hi
      · rcases List.mem_append.1 hi with hi | hi
        · rcases List.mem_append.1 hi with hi | hi
          · exact Or.inl hi
          · exact Or.inr (Or.inl hi)
        · exact Or.inr (Or.inr (Or.inl hi))
      · exact Or.inr (Or.inr (Or.inr (Or.inl hi)))
    · obtain ⟨i, hi, hk⟩ := List.mem_filterMap.1 h
      exact ⟨i, hk, Or.inr (Or.inr (Or.inr (Or.inr hi)))⟩
  obtain ⟨i, hk, hi⟩ := hparts
  rw [flatten_pathsOf, collected] at hi
  rcases hi with hi | hi | hi | hi | hi
  · obtain ⟨v, hv, hi⟩ := List.mem_flatMap.1 hi
    exact ⟨v, hv, i, by simp [partsAt, hi], hk⟩
  · obtain ⟨v, hv, hi⟩ := List.mem_flatMap.1 hi
    exact ⟨v, hv, i, by simp [partsAt, hi], hk⟩
  · rw [List.flatMap_assoc] at hi
    obtain ⟨v, hv, hi⟩ := List.mem_flatMap.1 hi
    exact ⟨v, hv, i, List.mem_append_left _ (List.mem_append_left _
      (List.mem_append_right _ hi)), hk⟩
  · obtain ⟨d, hd, rfl⟩ := List.mem_map.1 hi
    obtain ⟨v, hv, hd⟩ := exists_visit_of_mem_definitionsFrom (Position.sortOn_perm _ |>.subset hd)
    exact ⟨v, hv, d.name, List.mem_append_left _ (List.mem_append_right _ hd), hk⟩
  · obtain ⟨v, hv, hi⟩ := List.mem_flatMap.1 hi
    exact ⟨v, hv, i, List.mem_append_right _ hi, hk⟩

theorem not_mem_excluded {s : Statement} (collected : c.symbols = .collect s)
    (places : DistinctPlaces s.idents) {id : Ident} (h : id ∈ namesOf s.visits) :
    id.start ∉ c.excluded s := by
  intro hmem
  obtain ⟨v, hv, i, hi, hk⟩ := c.exists_part_of_mem_excluded collected hmem
  obtain ⟨w, hw, hname⟩ := List.mem_filterMap.1 h
  have hw' : w = .expr (.name id) := by
    cases w with
    | expr e => cases e <;> simp_all [Visit.name?]
    | statement | enter | leave | factor => simp [Visit.name?] at hname
  have hiv : i ∈ v.idents := partsAt_subset v hi
  have hplace : i.start = id.start := by
    have hkey := places.key_eq (List.mem_flatMap.2 ⟨v, hv, hiv⟩)
    exact Option.some.inj (hkey.symm.trans hk)
  have hsame : v = w := places.eq_of_mem_idents hv hw hiv (by simp [hw', Visit.idents]) hplace
  rw [hsame, hw'] at hi
  simp [partsAt, Visit.path?, Visit.starQualifiers, Visit.items, Visit.uses, Visit.aliases,
    Visit.opaqueAlias, Visit.targets, Visit.columnLists] at hi

/-! ### One verdict for every name -/

theorem targetKey_eq_some {s : Statement} {t : Target} {k : Position}
    (places : DistinctPlaces ((targets s).flatMap Target.idents)) (ht : t ∈ targets s)
    (hk : targetKey t = some k) : ∃ id ∈ t.idents, id.start = k := by
  cases t with
  | column table name =>
    have hname : name ∈ (targets s).flatMap Target.idents :=
      List.mem_flatMap.2 ⟨_, ht, List.mem_singleton.2 rfl⟩
    refine ⟨name, List.mem_singleton.2 rfl, ?_⟩
    exact Option.some.inj ((places.key_eq hname).symm.trans hk)
  | path parts => simp [targetKey] at hk

theorem targetKeys_sublist {s : Statement}
    (places : DistinctPlaces ((targets s).flatMap Target.idents)) :
    ((targets s).filterMap targetKey).Sublist
      (((targets s).flatMap Target.idents).map Ident.start) := by
  rw [List.filterMap_eq_flatMap_toList, List.map_flatMap]
  refine List.Sublist.flatMap_right (targets s) fun t ht => ?_
  cases hk : targetKey t with
  | none => simp
  | some k =>
    obtain ⟨id, hid, rfl⟩ := targetKey_eq_some places ht hk
    exact List.singleton_sublist.2 (List.mem_map_of_mem hid)

/-- What is found depends on the sweeps in its order only: names with places of their own get one
verdict each. -/
theorem findings_perm {s : Statement} (collected : c.symbols = .collect s)
    (places : DistinctPlaces s.idents) : (c.findings s).Perm ((judged s).flatMap c.verdict) := by
  have hjudged := places.of_subperm (judged_subperm s)
  rw [judged_idents] at hjudged
  have htargets : DistinctPlaces ((targets s).flatMap Target.idents) :=
    hjudged.of_subperm
      ((List.sublist_append_right _ _).trans (List.sublist_append_left _ _)).subperm
  have hnames : DistinctPlaces (namesOf s.visits) :=
    hjudged.of_subperm (List.sublist_append_right _ _).subperm
  have hstars : c.symbols.starQualifiers = s.visits.flatMap Visit.starQualifiers := by
    rw [collected]
    rfl
  have hwritten : firstByKey targetKey [] (targets s) = targets s :=
    firstByKey_eq_self (htargets.distinct.sublist (targetKeys_sublist htargets)) (by simp)
  have hfilter : (namesOf s.visits).filter (fun id =>
      !(c.excluded s ++ (targets s).filterMap targetKey).contains id.start) =
        namesOf s.visits := by
    refine List.filter_eq_self.2 fun id hid => ?_
    have hapart : id.start ∉ (targets s).filterMap targetKey := by
      intro hmem
      have htarget := (targetKeys_sublist htargets).subset hmem
      have hnodup := hjudged.distinct
      simp only [List.map_append] at hnodup
      exact (List.nodup_append.1 hnodup).2.2 _ (List.mem_append_right _ htarget) _
        (List.mem_map_of_mem hid) rfl
    simp [hapart, c.not_mem_excluded collected places hid]
  have hverdicts : (judged s).flatMap c.verdict =
      (pathsOf s.visits).flatMap c.pathVerdict ++
        (s.visits.flatMap Visit.starQualifiers).flatMap c.qualifierVerdict ++
        (targets s).flatMap c.targetVerdict ++ (namesOf s.visits).flatMap c.nameVerdict := by
    simp only [judged, List.flatMap_append, List.flatMap_map]
    rfl
  have hsweep := namesToCheck_perm hnames (c.excluded s ++ (targets s).filterMap targetKey)
  rw [hfilter] at hsweep
  rw [hverdicts, findings, hstars, hwritten]
  exact (hsweep.flatMap_right c.nameVerdict).append_left _

theorem verdicts_starts (js : List Judged) :
    ((js.flatMap c.verdict).map Finding.start).Sublist
      ((js.flatMap Judged.idents).map Ident.start) := by
  rw [List.map_flatMap, List.map_flatMap]
  exact List.Sublist.flatMap_right js fun j _ => c.verdict_starts j

theorem findings_starts_nodup {s : Statement} (collected : c.symbols = .collect s)
    (places : DistinctPlaces s.idents) : ((c.findings s).map Finding.start).Nodup := by
  have hjudged := places.of_subperm (judged_subperm s)
  rw [((c.findings_perm collected places).map Finding.start).nodup_iff]
  exact hjudged.distinct.sublist (c.verdicts_starts (judged s))

theorem mem_findings_iff {s : Statement} (collected : c.symbols = .collect s)
    (places : DistinctPlaces s.idents) {f : Finding} :
    f ∈ c.findings s ↔ ∃ j ∈ judged s, f ∈ c.verdict j := by
  rw [(c.findings_perm collected places).mem_iff, List.mem_flatMap]

theorem filter_verdicts_eq_nil {js : List Judged} {p : Position}
    (h : p ∉ (js.flatMap Judged.idents).map Ident.start) :
    (js.flatMap c.verdict).filter (·.start == p) = [] := by
  refine List.filter_eq_nil_iff.2 fun f hf hstart => h ?_
  rw [← beq_iff_eq.1 hstart]
  exact (c.verdicts_starts js).subset (List.mem_map_of_mem hf)

theorem eq_of_perm_of_length_le {α : Type} {as bs : List α} (h : as.Perm bs)
    (hlength : as.length ≤ 1) : as = bs := by
  match as, hlength with
  | [], _ => exact h.nil_eq
  | [a], _ => exact (List.singleton_perm.1 h)

/-- What is found at the place of a name is what the verdict on it says. -/
theorem findings_at {s : Statement} (collected : c.symbols = .collect s)
    (places : DistinctPlaces s.idents) {j : Judged} (hj : j ∈ judged s) {i : Ident}
    (hi : i ∈ j.idents) :
    (c.findings s).filter (·.start == i.start) =
      (c.verdict j).filter (·.start == i.start) := by
  have hjudged := (places.of_subperm (judged_subperm s)).distinct
  have hperm := (c.findings_perm collected places).filter (·.start == i.start)
  have hlength := Finding.length_filter_start_le (c.findings_starts_nodup collected places) i.start
  refine (eq_of_perm_of_length_le hperm hlength).trans ?_
  obtain ⟨before, after, hsplit⟩ := List.append_of_mem hj
  have hstart : i.start ∈ j.idents.map Ident.start := List.mem_map_of_mem hi
  simp only [hsplit, List.flatMap_append, List.flatMap_cons, List.map_append] at hjudged
  obtain ⟨_, hrest, hbefore⟩ := List.nodup_append.1 hjudged
  obtain ⟨_, _, hafter⟩ := List.nodup_append.1 hrest
  have hnot_before : i.start ∉ (before.flatMap Judged.idents).map Ident.start := fun h =>
    hbefore _ h _ (List.mem_append_left _ hstart) rfl
  have hnot_after : i.start ∉ (after.flatMap Judged.idents).map Ident.start := fun h =>
    hafter _ hstart _ h rfl
  rw [hsplit, List.flatMap_append, List.flatMap_cons, List.filter_append, List.filter_append,
    c.filter_verdicts_eq_nil hnot_before, c.filter_verdicts_eq_nil hnot_after, List.nil_append,
    List.append_nil]

theorem reportedAt_findings {s : Statement} (collected : c.symbols = .collect s)
    (places : DistinctPlaces s.idents) {j : Judged} (hj : j ∈ judged s) {i : Ident}
    (hi : i ∈ j.idents) :
    Finding.reportedAt (c.findings s) i = Finding.reportedAt (c.verdict j) i := by
  rw [Finding.reportedAt, c.findings_at collected places hj hi, ← Finding.reportedAt]

/-! ### Paths -/

theorem pathVerdict_concat (front : Path) (qualifier column : Ident) :
    c.pathVerdict (front ++ [qualifier, column]) =
      match c.qualified qualifier.value with
      | .table table => c.memberVerdict table column
      | .unchecked => []
      | .unknown => [unknownQualifier qualifier] := by
  have hreverse : (front ++ [qualifier, column]).reverse =
      column :: qualifier :: front.reverse := by simp
  unfold pathVerdict
  split
  next column' qualifier' rest hparts =>
    rw [hreverse, List.cons.injEq, List.cons.injEq] at hparts
    obtain ⟨rfl, rfl, _⟩ := hparts
    rfl
  next hshort => exact absurd hreverse (hshort _ _ _)

theorem exists_of_mem_pathVerdict {parts : Path} {f : Finding}
    (hf : f ∈ c.pathVerdict parts) :
    ∃ front qualifier column, parts = front ++ [qualifier, column] ∧
      (f.start = qualifier.start ∨ f.start = column.start) := by
  rw [pathVerdict] at hf
  split at hf
  next column qualifier front hreverse =>
    refine ⟨front.reverse, qualifier, column, ?_, ?_⟩
    · rw [← List.reverse_reverse parts, hreverse]
      simp
    · split at hf
      next table _ =>
        have hstart := (c.memberVerdict_starts table column).subset (List.mem_map_of_mem hf)
        exact Or.inr (List.mem_singleton.1 hstart)
      next => cases hf
      next =>
        obtain rfl := List.mem_singleton.1 hf
        exact Or.inl rfl
  next => cases hf

def pathMember (parts : Path) : Option (String × Ident) :=
  match parts.reverse with
  | column :: qualifier :: _ =>
    match c.qualified qualifier.value with
    | .table table => some (table, column)
    | _ => none
  | _ => none

/-- The table and the column that are looked up for what is judged. -/
def member : Judged → Option (String × Ident)
  | .path parts => c.pathMember parts
  | .target (.column table name) => some (table, name)
  | .target (.path parts) => c.pathMember parts
  | .star _ => none
  | .name _ => none

theorem pathVerdict_of_pathMember {parts : Path} {table : String} {column : Ident}
    (h : c.pathMember parts = some (table, column)) :
    c.pathVerdict parts = c.memberVerdict table column ∧ column ∈ parts := by
  unfold pathMember at h
  unfold pathVerdict
  have hmem : ∀ i, i ∈ parts.reverse → i ∈ parts := fun i => List.mem_reverse.1
  match hparts : parts.reverse with
  | [] => simp [hparts] at h
  | [_] => simp [hparts] at h
  | last :: qualifier :: _ =>
    simp only [hparts] at h hmem
    cases stands : c.qualified qualifier.value with
    | table t =>
      simp only [stands, Option.some.injEq, Prod.mk.injEq] at h
      obtain ⟨rfl, rfl⟩ := h
      exact ⟨by simp only [stands], hmem last List.mem_cons_self⟩
    | unchecked => simp [stands] at h
    | unknown => simp [stands] at h

theorem verdict_of_member {j : Judged} {table : String} {column : Ident}
    (h : c.member j = some (table, column)) :
    c.verdict j = c.memberVerdict table column ∧ column ∈ j.idents := by
  cases j with
  | path parts => exact c.pathVerdict_of_pathMember h
  | star qualifier => cases h
  | name id => cases h
  | target t =>
    cases t with
    | path parts => exact c.pathVerdict_of_pathMember h
    | column table column =>
      cases h
      exact ⟨rfl, List.mem_singleton.2 rfl⟩

theorem path_mem_judged {s : Statement} {parts : Path} (h : parts ∈ pathsOf s.visits) :
    .path parts ∈ judged s := by
  simp [judged, h]

theorem mem_findings_of_path {s : Statement} {parts : Path} (h : parts ∈ pathsOf s.visits)
    {f : Finding} (hf : f ∈ c.pathVerdict parts) : f ∈ c.findings s := by
  have hall : f ∈ (pathsOf s.visits).flatMap c.pathVerdict := List.mem_flatMap.2 ⟨parts, h, hf⟩
  simp [findings, hall]

theorem starts_ne_of_path {s : Statement} (places : DistinctPlaces s.idents) {front : Path}
    {qualifier column : Ident} (hpath : front ++ [qualifier, column] ∈ pathsOf s.visits) :
    qualifier.start ≠ column.start := by
  have hjudged := (places.of_subperm (judged_subperm s)).distinct
  rw [List.map_flatMap, List.nodup_flatMap] at hjudged
  have hnodup := hjudged.1 _ (path_mem_judged hpath)
  simp only [Judged.idents, List.map_append, List.nodup_append] at hnodup
  simpa using hnodup.2.1

/-- Where a qualifier stands for a table, the column is judged by the table and its qualifier is not
reported. -/
theorem reportedAt_of_table {s : Statement} (collected : c.symbols = .collect s)
    (places : DistinctPlaces s.idents) {front : Path} {qualifier column : Ident}
    (hpath : front ++ [qualifier, column] ∈ pathsOf s.visits) {table : String}
    (htable : c.qualified qualifier.value = .table table) :
    Finding.reportedAt (c.findings s) qualifier = [] ∧
      Finding.reportedAt (c.findings s) column =
        (c.memberVerdict table column).map Finding.mark := by
  have hverdict : c.pathVerdict (front ++ [qualifier, column]) = c.memberVerdict table column := by
    rw [pathVerdict_concat, htable]
  have hstarts := c.memberVerdict_starts table column
  have hat : ∀ i ∈ front ++ [qualifier, column], Finding.reportedAt (c.findings s) i =
      Finding.reportedAt (c.memberVerdict table column) i := by
    intro i hi
    rw [← hverdict]
    exact c.reportedAt_findings collected places (path_mem_judged hpath) hi
  constructor
  · rw [hat qualifier (by simp)]
    exact Finding.reportedAt_eq_nil hstarts (starts_ne_of_path places hpath).symm
  · rw [hat column (by simp), Finding.reportedAt_of_starts hstarts]

theorem length_memberVerdict_le (table : String) (column : Ident) :
    (c.memberVerdict table column).length ≤ 1 := by
  simpa using (c.memberVerdict_starts table column).length_le

theorem length_pathVerdict_le (parts : Path) : (c.pathVerdict parts).length ≤ 1 := by
  unfold pathVerdict
  split
  · split
    · exact c.length_memberVerdict_le _ _
    · exact Nat.zero_le 1
    · exact Nat.le_refl 1
  · exact Nat.zero_le 1

/-- Names that have places of their own are judged one by one, each by one verdict of at most one
finding, and no two findings start at one place. -/
theorem findings_judge_names_once {s : Statement} (collected : c.symbols = .collect s)
    (places : DistinctPlaces s.idents) :
    (c.findings s).Perm
      ((pathsOf s.visits).flatMap c.pathVerdict ++
        c.symbols.starQualifiers.flatMap c.qualifierVerdict ++
        (targets s).flatMap c.targetVerdict ++
        ((namesOf s.visits).filter
          fun id => !(c.excluded s).contains id.start).flatMap c.nameVerdict) ∧
    (∀ parts, (c.pathVerdict parts).length ≤ 1) ∧
    (∀ id, (c.qualifierVerdict id).length ≤ 1) ∧
    (∀ t, (c.targetVerdict t).length ≤ 1) ∧
    (∀ id, (c.nameVerdict id).length ≤ 1) ∧
    ((c.findings s).map Finding.start).Nodup := by
  refine ⟨?_, c.length_pathVerdict_le, ?_, ?_, ?_, c.findings_starts_nodup collected places⟩
  · have hstars : c.symbols.starQualifiers = s.visits.flatMap Visit.starQualifiers := by
      rw [collected]
      rfl
    have hnames : (namesOf s.visits).filter (fun id => !(c.excluded s).contains id.start) =
        namesOf s.visits := by
      refine List.filter_eq_self.2 fun id hid => ?_
      simp [c.not_mem_excluded collected places hid]
    have hperm := c.findings_perm collected places
    simp only [judged, List.flatMap_append, List.flatMap_map] at hperm
    rw [hstars, hnames]
    exact hperm
  · intro id
    simpa using (c.qualifierVerdict_starts id).length_le
  · intro t
    cases t with
    | column table name => exact c.length_memberVerdict_le table name
    | path parts => exact c.length_pathVerdict_le parts
  · intro id
    simpa using (c.nameVerdict_starts id).length_le

/-- `SELECT o.a, b FROM t AS o WHERE c ORDER BY d`: `b` and `c` are swept twice. -/
def sweptTwice : Statement :=
  .query (.mk []
    (.select (.mk []
      [.plain (.path [.onLine "o" 7, .onLine "a" 9]), .plain (.name (.onLine "b" 12))]
      [.mk (.table [.onLine "t" 19] (some ⟨.onLine "o" 24, []⟩) false []) []] []
      (some (.name (.onLine "c" 32))) []))
    [.name (.onLine "d" 43)])

theorem sweptTwice_judged_once :
    let c : ColumnCheck := ⟨Catalog.initial.provider, .collect sweptTwice, .empty, .generic, true⟩
    DistinctPlaces sweptTwice.idents ∧
    (sweep sweptTwice).length = 5 ∧ (namesOf sweptTwice.visits).length = 3 ∧
    (c.findings sweptTwice).Perm
      ((pathsOf sweptTwice.visits).flatMap c.pathVerdict ++
        c.symbols.starQualifiers.flatMap c.qualifierVerdict ++
        (targets sweptTwice).flatMap c.targetVerdict ++
        ((namesOf sweptTwice.visits).filter
          fun id => !(c.excluded sweptTwice).contains id.start).flatMap c.nameVerdict) ∧
    ((c.findings sweptTwice).map Finding.start).Nodup := by
  intro c
  have places : DistinctPlaces sweptTwice.idents := ⟨by decide, by decide⟩
  have once := c.findings_judge_names_once (s := sweptTwice) rfl places
  exact ⟨places, by decide, by decide, once.1, once.2.2.2.2.2⟩

end ColumnCheck

end Names

end SqlAudit
