import SqlAudit.Proofs.Names.Rules

/-!
Names in double quotes. A dialect decides whether such a name is a string where it stands alone, and
nothing else about the columns of a statement; where names have places of their own, what is found
under one reading is what is found under the other, less what stands at these names.
-/

namespace SqlAudit

open Sql

namespace Sql

/-- Names of which those that have places have different ones. Where some have none, the empty place
at the origin, which these are reported at, is no other name's place. -/
structure PlacesApart (ids : List Ident) : Prop where
  distinct : (ids.filterMap Ident.key).Nodup
  unplaced : ∀ i ∈ ids, i.place = none → ∀ j ∈ ids, j.place ≠ some .origin

theorem subperm_flatMap {α β : Type} {f g : α → List β} (sub : ∀ a, (f a).Subperm (g a))
    (as : List α) : (as.flatMap f).Subperm (as.flatMap g) := by
  induction as with
  | nil => exact List.nil_subperm
  | cons a as ih =>
    rw [List.flatMap_cons, List.flatMap_cons]
    exact (sub a).append ih

theorem keys_sublist (ids : List Ident) :
    (ids.filterMap Ident.key).Sublist (ids.map Ident.start) := by
  induction ids with
  | nil => exact .slnil
  | cons i ids ih =>
    rw [List.map_cons]
    by_cases hkey : i.key = none
    · rw [List.filterMap_cons_none hkey]
      exact ih.cons i.start
    · rw [List.filterMap_cons_some (Ident.key_eq_some hkey)]
      exact ih.cons_cons i.start

namespace PlacesApart

variable {ids part : List Ident}

theorem of_starts (h : (ids.map Ident.start).Nodup) : PlacesApart ids where
  distinct := h.sublist (keys_sublist ids)
  unplaced i hi hplace j hj horigin := by
    have hstart : i.start = j.start := by
      rw [Ident.start, Ident.start, Ident.range, Ident.range, hplace, horigin]
      rfl
    have hsame : i = j := List.inj_on_of_nodup_map h hi hj hstart
    rw [hsame, horigin] at hplace
    cases hplace

theorem of_subperm (h : PlacesApart ids) (sub : part.Subperm ids) : PlacesApart part where
  distinct := by
    obtain ⟨mid, perm, sublist⟩ := sub
    exact (perm.filterMap Ident.key).nodup_iff.1 (h.distinct.sublist (sublist.filterMap Ident.key))
  unplaced i hi hplace j hj := h.unplaced i (sub.subset hi) hplace j (sub.subset hj)

theorem eq_of_place {α : Type} {as : List α} {idents : α → List Ident}
    (h : PlacesApart (as.flatMap idents)) {a b : α} (ha : a ∈ as) (hb : b ∈ as) {i j : Ident}
    (hi : i ∈ idents a) (hj : j ∈ idents b) {r : Range} (hir : i.range = r)
    (hjr : j.place = some r) : a = b := by
  have himem : i ∈ as.flatMap idents := List.mem_flatMap.2 ⟨a, ha, hi⟩
  have hjmem : j ∈ as.flatMap idents := List.mem_flatMap.2 ⟨b, hb, hj⟩
  have hplace : i.place = some r := by
    cases hplace : i.place with
    | none =>
      rw [Ident.range, hplace, Option.getD_none] at hir
      exact absurd (hjr.trans (congrArg some hir.symm)) (h.unplaced i himem hplace j hjmem)
    | some r' =>
      rw [Ident.range, hplace, Option.getD_some] at hir
      rw [hir]
  have hkeys : (as.flatMap fun a => (idents a).filterMap Ident.key).Nodup := by
    have hdistinct := h.distinct
    rwa [List.filterMap_flatMap] at hdistinct
  have hikey : r.start ∈ (idents a).filterMap Ident.key :=
    List.mem_filterMap.2 ⟨i, hi, by rw [Ident.key, hplace, Option.map_some]⟩
  have hjkey : r.start ∈ (idents b).filterMap Ident.key :=
    List.mem_filterMap.2 ⟨j, hj, by rw [Ident.key, hjr, Option.map_some]⟩
  exact eq_of_mem_flatMap hkeys ha hb hikey hjkey

end PlacesApart

def quotedNamesOf (visits : List Visit) : List Ident :=
  (namesOf visits).filter (·.quote == some '"')

end Sql

namespace Finding

def isOnColumnAt (ids : List Ident) (f : Finding) : Bool :=
  (f.rule == .columnNotFound || f.rule == .ambiguousColumn) && ids.any (·.place == some f.range)

theorem filter_isOnColumnAt_eq_self {rules : List Rule} {found : List Finding}
    (h : OnlyOf rules found) (ids : List Ident) (column : .columnNotFound ∉ rules)
    (ambiguous : .ambiguousColumn ∉ rules) :
    found.filter (fun f => !f.isOnColumnAt ids) = found := by
  refine List.filter_eq_self.2 fun f hf => ?_
  have hrule := h f hf
  have hcolumn : f.rule ≠ .columnNotFound := fun same => column (same ▸ hrule)
  have hambiguous : f.rule ≠ .ambiguousColumn := fun same => ambiguous (same ▸ hrule)
  simp [isOnColumnAt, hcolumn, hambiguous]

end Finding

namespace Names

open Finding

@[simp] theorem range_suggesting (f : Finding) (candidates : List String) (name : String) :
    (suggesting f candidates name).range = f.range :=
  congrArg Prod.snd (ColumnCheck.mark_suggesting f candidates name)

namespace ColumnCheck

variable (c : ColumnCheck)

/-! ### Where a verdict stands -/

theorem range_of_mem_memberVerdict {table : String} {column : Ident} {f : Finding}
    (hf : f ∈ c.memberVerdict table column) : f.range = column.range := by
  unfold memberVerdict at hf
  split at hf
  · cases hf
  · split at hf
    · cases hf
    · split at hf
      · cases hf
      · rw [List.mem_singleton.1 hf, range_suggesting]
        rfl

theorem range_of_mem_pathVerdict {parts : Path} {f : Finding} (hf : f ∈ c.pathVerdict parts) :
    ∃ i ∈ parts, f.range = i.range := by
  unfold pathVerdict at hf
  split at hf
  next column qualifier front hparts =>
    have hcolumn : column ∈ parts := List.mem_reverse.1 (by simp [hparts])
    have hqualifier : qualifier ∈ parts := List.mem_reverse.1 (by simp [hparts])
    split at hf
    · exact ⟨column, hcolumn, c.range_of_mem_memberVerdict hf⟩
    · cases hf
    · refine ⟨qualifier, hqualifier, ?_⟩
      rw [List.mem_singleton.1 hf]
      rfl
  next => cases hf

theorem range_of_mem_nameVerdict {id : Ident} {f : Finding} (hf : f ∈ c.nameVerdict id) :
    f.range = id.range := by
  unfold nameVerdict at hf
  split at hf
  · cases hf
  · split at hf
    · unfold unknownName at hf
      split at hf
      · rw [List.mem_singleton.1 hf]
        rfl
      · split at hf
        · rw [List.mem_singleton.1 hf, range_suggesting]
          rfl
        · cases hf
    · unfold knownName at hf
      split at hf
      · split at hf
        · rw [List.mem_singleton.1 hf]
          rfl
        · cases hf
      · cases hf

theorem range_of_mem_verdict {j : Judged} {f : Finding} (hf : f ∈ c.verdict j) :
    ∃ i ∈ j.idents, f.range = i.range := by
  cases j with
  | path parts => exact c.range_of_mem_pathVerdict hf
  | star qualifier =>
    refine ⟨qualifier, List.mem_singleton.2 rfl, ?_⟩
    change f ∈ c.qualifierVerdict qualifier at hf
    unfold qualifierVerdict at hf
    split at hf
    · rw [List.mem_singleton.1 hf]
      rfl
    · cases hf
  | target t =>
    cases t with
    | column table name =>
      exact ⟨name, List.mem_singleton.2 rfl, c.range_of_mem_memberVerdict hf⟩
    | path parts => exact c.range_of_mem_pathVerdict hf
  | name id => exact ⟨id, List.mem_singleton.2 rfl, c.range_of_mem_nameVerdict hf⟩

theorem mem_names_of_mem_checked {s : Statement} {id : Ident} (h : .name id ∈ c.checked s) :
    id ∈ namesOf s.visits ∧ id.key.isSome = true := by
  have hname : id ∈ namesToCheck (c.excluded s ++ (targets s).filterMap targetKey) (sweep s) := by
    simpa [checked] using h
  obtain ⟨hswept, hkey⟩ := List.mem_filter.1 (mem_of_mem_firstByKey hname).1
  exact ⟨mem_sweep.1 hswept, hkey⟩

/-! ### Reading quoted names as strings -/

def under (dialect : Dialect) : ColumnCheck := { c with dialect }

theorem verdict_under {dialect : Dialect}
    (same : dialect.doubleQuotesAreStrings = c.dialect.doubleQuotesAreStrings) (j : Judged) :
    (c.under dialect).verdict j = c.verdict j := by
  have htext : (c.under dialect).isText = c.isText := by
    funext id
    unfold isText
    rw [← same]
    rfl
  cases j with
  | name id =>
    change (c.under dialect).nameVerdict id = c.nameVerdict id
    unfold nameVerdict isNoColumn
    rw [htext]
    rfl
  | path | star | target => rfl

/-- Only a name that stands alone in double quotes can be a string under one dialect and not under
another. -/
theorem verdict_under_of_ne {dialect : Dialect} {j : Judged}
    (plain : ∀ id, j = .name id → id.quote ≠ some '"') :
    (c.under dialect).verdict j = c.verdict j := by
  cases j with
  | name id =>
    have htext : (c.under dialect).isText id = c.isText id := by
      have hquote := plain id rfl
      unfold isText
      split
      · rfl
      next h => exact absurd h hquote
      · rfl
    change (c.under dialect).nameVerdict id = c.nameVerdict id
    unfold nameVerdict isNoColumn
    rw [htext]
    rfl
  | path | star | target => rfl

theorem nameVerdict_eq_nil_of_isText {id : Ident} (h : c.isText id = true) :
    c.nameVerdict id = [] := by
  have hno : c.isNoColumn id = true := by simp [isNoColumn, h]
  rw [nameVerdict, hno, if_pos rfl]

/-- What is found on something that is checked, where names in double quotes are strings: what is
found where they are names, less what stands at one of them. -/
theorem verdict_strings {ids : List Ident} {js : List Judged}
    (places : PlacesApart (js.flatMap Judged.idents))
    (names : ∀ id ∈ ids, .name id ∈ js ∧ id.quote = some '"') {dialect : Dialect}
    (strings : dialect.doubleQuotesAreStrings = true) {j : Judged} (hj : j ∈ js)
    (quoted : ∀ id, j = .name id → id.quote = some '"' → id ∈ ids ∧ id.key.isSome) :
    (c.under dialect).verdict j = (c.verdict j).filter fun f => !f.isOnColumnAt ids := by
  by_cases hname : ∃ id, j = .name id ∧ id.quote = some '"'
  · obtain ⟨id, rfl, hquote⟩ := hname
    obtain ⟨hid, hkey⟩ := quoted id rfl hquote
    have htext : (c.under dialect).isText id = true := by
      rw [isText, hquote]
      exact strings
    have hplace : id.place = some id.range := by
      rw [Ident.key, Option.isSome_map] at hkey
      obtain ⟨r, hr⟩ := Option.isSome_iff_exists.1 hkey
      rw [Ident.range, hr, Option.getD_some]
    refine ((c.under dialect).nameVerdict_eq_nil_of_isText htext).trans ?_
    refine (List.filter_eq_nil_iff.2 fun f hf => ?_).symm
    have hrule := c.nameVerdict_onlyOf id f hf
    have hat : ids.any (·.place == some f.range) = true := by
      rw [c.range_of_mem_nameVerdict hf, ← hplace]
      exact List.any_eq_true.2 ⟨id, hid, beq_self_eq_true id.place⟩
    simp only [List.mem_cons, List.not_mem_nil, or_false] at hrule
    rcases hrule with hrule | hrule <;> simp [isOnColumnAt, hat, hrule]
  · rw [c.verdict_under_of_ne fun id hid hquote => hname ⟨id, hid, hquote⟩]
    refine (List.filter_eq_self.2 fun f hf => ?_).symm
    have hat : ids.any (·.place == some f.range) = false := by
      refine List.any_eq_false.2 fun id hid hplace => hname ⟨id, ?_, (names id hid).2⟩
      obtain ⟨i, hi, hrange⟩ := c.range_of_mem_verdict hf
      exact places.eq_of_place hj (names id hid).1 hi (List.mem_singleton.2 rfl) hrange.symm
        (beq_iff_eq.1 hplace)
    rw [isOnColumnAt, hat, Bool.and_false]
    rfl

end ColumnCheck

variable {p : Provider} {warn : Bool}

theorem columnFindings_under {dialect other : Dialect}
    (same : dialect.doubleQuotesAreStrings = other.doubleQuotesAreStrings) (symbols : Symbols)
    (s : Statement) :
    columnFindings p dialect warn symbols s = columnFindings p other warn symbols s := by
  let c : ColumnCheck := ⟨p, symbols, .ofSymbols p symbols, other, warn⟩
  change (c.under dialect).findings s = c.findings s
  rw [ColumnCheck.findings_eq_flatMap, ColumnCheck.findings_eq_flatMap,
    ColumnCheck.checked_congr c (d := c.under dialect) rfl]
  exact List.flatMap_congr fun j _ => c.verdict_under same j

theorem columnFindings_strings {statements : List Statement}
    (places : PlacesApart (statements.flatMap Statement.idents)) {s : Statement}
    (hs : s ∈ statements) {dialect other : Dialect}
    (strings : dialect.doubleQuotesAreStrings = true) :
    columnFindings p dialect warn (.collect s) s =
      (columnFindings p other warn (.collect s) s).filter fun f =>
        !f.isOnColumnAt (statements.flatMap fun s => quotedNamesOf s.visits) := by
  let c : ColumnCheck := ⟨p, .collect s, .ofSymbols p (.collect s), other, warn⟩
  change (c.under dialect).findings s = (c.findings s).filter _
  rw [ColumnCheck.findings_eq_flatMap, ColumnCheck.findings_eq_flatMap,
    ColumnCheck.checked_congr c (d := c.under dialect) rfl, List.filter_flatMap]
  have hjudged : PlacesApart ((statements.flatMap ColumnCheck.judged).flatMap
      ColumnCheck.Judged.idents) := by
    refine places.of_subperm ?_
    rw [List.flatMap_assoc]
    exact subperm_flatMap ColumnCheck.judged_subperm statements
  have hnames : ∀ id ∈ statements.flatMap (fun s => quotedNamesOf s.visits),
      ColumnCheck.Judged.name id ∈ statements.flatMap ColumnCheck.judged ∧
        id.quote = some '"' := by
    intro id hid
    obtain ⟨s', hs', hid⟩ := List.mem_flatMap.1 hid
    obtain ⟨hname, hquote⟩ := List.mem_filter.1 hid
    refine ⟨List.mem_flatMap.2 ⟨s', hs', ?_⟩, beq_iff_eq.1 hquote⟩
    simp [ColumnCheck.judged, hname]
  refine List.flatMap_congr fun j hj => ?_
  refine c.verdict_strings hjudged hnames strings
    (List.mem_flatMap.2 ⟨s, hs, c.mem_judged_of_mem_checked rfl hj⟩) fun id hid hquote => ?_
  subst hid
  obtain ⟨hname, hkey⟩ := c.mem_names_of_mem_checked hj
  refine ⟨List.mem_flatMap.2 ⟨s, hs, List.mem_filter.2 ⟨hname, ?_⟩⟩, hkey⟩
  rw [hquote, beq_self_eq_true]

end Names

end SqlAudit
