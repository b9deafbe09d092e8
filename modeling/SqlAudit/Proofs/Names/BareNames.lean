import SqlAudit.Proofs.Names.CommonTable
import SqlAudit.Proofs.Text.Joining

/-!
Names without a qualifier in a statement whose common table bears the name of catalog tables. The
columns of those tables are candidates for such a name like all others: they may make it ambiguous,
or keep it from being missed.
-/

namespace SqlAudit.Names

open Sql Text

theorem columns_othersOf {name : String} {known : List KnownTable}
    (owned : ∀ k ∈ known, ∀ info ∈ k.columns,
      (lower info.table = lower name ↔ k.key = lower name)) :
    (othersOf name known).flatMap (·.columns) =
      (known.flatMap (·.columns)).filter (lower ·.table != lower name) := by
  induction known with
  | nil => rfl
  | cons k ks ih =>
    have hrest := ih fun l hl => owned l (List.mem_cons_of_mem k hl)
    have hk := owned k List.mem_cons_self
    rw [List.flatMap_cons, List.filter_append, ← hrest, othersOf, List.filter_cons]
    by_cases hkey : k.key = lower name
    · have hnone : k.columns.filter (lower ·.table != lower name) = [] := by
        rw [List.filter_eq_nil_iff]
        intro info hinfo
        simp [(hk info hinfo).2 hkey]
      simp [hkey, hnone, othersOf]
    · have hall : k.columns.filter (lower ·.table != lower name) = k.columns := by
        rw [List.filter_eq_self]
        intro info hinfo
        simpa using fun same => hkey ((hk info hinfo).1 same)
      simp [hkey, hall, othersOf]

theorem forall_known_iff (name : String) {known : List KnownTable} {P : KnownTable → Prop} :
    (∀ k ∈ known, P k) ↔ (∀ k ∈ othersOf name known, P k) ∧ ∀ k ∈ namesakesOf name known, P k := by
  constructor
  · intro hall
    exact ⟨fun k hk => hall k (List.mem_filter.1 hk).1, fun k hk => hall k (List.mem_filter.1 hk).1⟩
  · rintro ⟨hothers, hnamesakes⟩ k hk
    by_cases hkey : k.key = lower name
    · exact hnamesakes k (List.mem_filter.2 ⟨hk, beq_iff_eq.2 hkey⟩)
    · exact hothers k (List.mem_filter.2 ⟨hk, bne_iff_ne.2 hkey⟩)

theorem known_eq_nil_iff (name : String) (known : List KnownTable) :
    known = [] ↔ othersOf name known = [] ∧ namesakesOf name known = [] := by
  simp only [List.eq_nil_iff_forall_not_mem]
  exact forall_known_iff (P := fun _ => False) name

namespace Hides

open ColumnCheck

variable {s : Statement} {name : String} {c : Catalog} {dialect : Dialect} {warn : Bool}

theorem exists_table_of_mem_known (h : Hides s name) (wf : c.WellFormed) {k : KnownTable}
    (hk : k ∈ knownOf c.provider s) :
    ∃ t : TableDef, k.columns = t.columnInfos ∧
      (lower t.name.name = lower name ↔ k.key = lower name) := by
  obtain ⟨u, hu, hname, hgiven⟩ := exists_use_of_mem_known hk
  obtain ⟨t, n, hn, htable, hcolumns⟩ :=
    wf.exists_table_of_columns? (columnsGiven_eq_some.1 hgiven).1
  refine ⟨t, hcolumns, ?_⟩
  rw [lower_eq_of_sameName htable, KnownTable.key, ← hname]
  constructor
  · intro same
    rw [(h.plain_use hu).eq_plain hn same] at same
    exact same
  · intro same
    obtain ⟨hschema, hdot⟩ := (h.plain_use hu).of_eq same
    rw [hschema] at hn
    rw [TableText.eq_plain_of_mem_lookupNames hdot hn]
    exact same

theorem lower_table_iff (h : Hides s name) (wf : c.WellFormed) {k : KnownTable}
    (hk : k ∈ knownOf c.provider s) {info : ColumnInfo} (hinfo : info ∈ k.columns) :
    lower info.table = lower name ↔ k.key = lower name := by
  obtain ⟨t, hcolumns, hiff⟩ := h.exists_table_of_mem_known wf hk
  rw [hcolumns] at hinfo
  rw [TableDef.table_of_mem_columnInfos hinfo]
  exact hiff

theorem owners_without (h : Hides s name) (wf : c.WellFormed) (dialect : Dialect) (warn : Bool)
    (column : String) :
    (ofStatement (c.without name).provider dialect warn s).scope.owners column =
      ((ofStatement c.provider dialect warn s).scope.owners column).filter
        (lower · != lower name) := by
  have hrespects : ∀ a b, sameName a b = true →
      (lower a != lower name) = (lower b != lower name) := by
    intro a b hab
    rw [lower_eq_of_sameName hab]
  rw [scope_ofStatement.owners_eq, scope_ofStatement.owners_eq, h.knownOf_without,
    ← ownersOf_filter hrespects, columns_othersOf fun k hk info => h.lower_table_iff wf hk]
  simp only [List.filter_filter, Bool.and_comm]

theorem exists_other_owner_iff (h : Hides s name) (wf : c.WellFormed) (dialect : Dialect)
    (warn : Bool) (column : String) :
    (∃ table ∈ (ofStatement c.provider dialect warn s).scope.owners column,
      lower table ≠ lower name) ↔
      ∃ k ∈ othersOf name (knownOf c.provider s), k.hasColumn column := by
  rw [exists_owner_iff (q := fun table => table ≠ lower name)]
  constructor
  · rintro ⟨k, hk, info, hinfo, hname, htable⟩
    have hkey := mt (h.lower_table_iff wf hk hinfo).2 htable
    exact ⟨k, List.mem_filter.2 ⟨hk, bne_iff_ne.2 hkey⟩, info, hinfo, hname⟩
  · rintro ⟨k, hk, info, hinfo, hname⟩
    obtain ⟨hk, hkey⟩ := List.mem_filter.1 hk
    exact ⟨k, hk, info, hinfo, hname, mt (h.lower_table_iff wf hk hinfo).1 (bne_iff_ne.1 hkey)⟩

theorem exists_namesake_owner_iff (h : Hides s name) (wf : c.WellFormed) (dialect : Dialect)
    (warn : Bool) (column : String) :
    (∃ table ∈ (ofStatement c.provider dialect warn s).scope.owners column,
      lower table = lower name) ↔
      ∃ k ∈ namesakesOf name (knownOf c.provider s), k.hasColumn column := by
  rw [exists_owner_iff (q := fun table => table = lower name)]
  constructor
  · rintro ⟨k, hk, info, hinfo, hname, htable⟩
    have hkey := (h.lower_table_iff wf hk hinfo).1 htable
    exact ⟨k, List.mem_filter.2 ⟨hk, beq_iff_eq.2 hkey⟩, info, hinfo, hname⟩
  · rintro ⟨k, hk, info, hinfo, hname⟩
    obtain ⟨hk, hkey⟩ := List.mem_filter.1 hk
    exact ⟨k, hk, info, hinfo, hname, (h.lower_table_iff wf hk hinfo).2 (beq_iff_eq.1 hkey)⟩

theorem length_owners_lt_two (h : Hides s name) (wf : c.WellFormed) (dialect : Dialect)
    (warn : Bool) {column : String}
    (none : ∀ k ∈ othersOf name (knownOf c.provider s), ¬k.hasColumn column) :
    ((ofStatement c.provider dialect warn s).scope.owners column).length < 2 := by
  rw [← Nat.not_le, two_le_length_owners]
  rintro ⟨k, hk, l, hl, i, hi, j, hj, hiname, hjname, hdiff⟩
  have hkey : ∀ m ∈ knownOf c.provider s, m.hasColumn column → m.key = lower name := by
    intro m hm hcolumn
    by_contra apart
    exact none m (List.mem_filter.2 ⟨hm, bne_iff_ne.2 apart⟩) hcolumn
  have hsame : k.key = l.key :=
    (hkey k hk ⟨i, hi, hiname⟩).trans (hkey l hl ⟨j, hj, hjname⟩).symm
  have hkeys : ((knownOf c.provider s).map KnownTable.key).Nodup :=
    List.pairwise_map.2 (pairwise_knownTablesOf c.provider (Symbols.collect s).tables)
  have hkl : k = l := List.inj_on_of_nodup_map hkeys hk hl hsame
  subst hkl
  obtain ⟨t, hcolumns, _⟩ := h.exists_table_of_mem_known wf hk
  rw [hcolumns] at hi hj
  rw [TableDef.table_of_mem_columnInfos hi, TableDef.table_of_mem_columnInfos hj,
    sameName_refl] at hdiff
  cases hdiff

end Hides

/-! ### Verdicts -/

namespace ColumnCheck

variable (c : ColumnCheck)

theorem ambiguousMessage_ne (column : String) {owners all : List String}
    (sub : owners.Sublist all) (fewer : owners.length < all.length) (some : owners ≠ []) :
    ambiguousMessage column owners ≠ ambiguousMessage column all := by
  intro same
  rw [ambiguousMessage, ambiguousMessage, String.append_right_inj] at same
  exact intercalate_ne (by decide) sub fewer some same

end ColumnCheck

/-- A name that stands alone is judged alike whether or not the columns of some tables, the namesakes
of a common table, are known besides those of others. -/
structure NameUnmoved (c : ColumnCheck) (namesakes others : List KnownTable) (id : Ident) :
    Prop where
  ambiguous : c.warnAmbiguous = true → (∃ k ∈ others, k.hasColumn id.value) →
    ∀ k ∈ namesakes, ¬k.hasColumn id.value
  known : (∀ k ∈ others, ¬k.hasColumn id.value) → (∃ k ∈ namesakes, k.hasColumn id.value) →
    c.symbols.isTable id.value = false ∧ (others = [] ∨ Lint.looksLikeColumn id.value = false)
  unknown : (∀ k ∈ others, ¬k.hasColumn id.value) → (∀ k ∈ namesakes, ¬k.hasColumn id.value) →
    c.symbols.isTable id.value = true ∨ Lint.looksLikeColumn id.value = false ∨ others ≠ [] ∨
      namesakes = []

namespace Hides

open ColumnCheck

variable {s : Statement} {name : String} {c : Catalog} {dialect : Dialect} {warn : Bool}

theorem knownName_briefs_eq_iff (h : Hides s name) (wf : c.WellFormed) {id : Ident}
    (other : ∃ k ∈ othersOf name (knownOf c.provider s), k.hasColumn id.value) :
    ((ofStatement (c.without name).provider dialect warn s).knownName id).map Finding.brief =
        ((ofStatement c.provider dialect warn s).knownName id).map Finding.brief ↔
      (warn = true → ∀ k ∈ namesakesOf name (knownOf c.provider s), ¬k.hasColumn id.value) := by
  have hother := (h.exists_other_owner_iff wf dialect warn id.value).2 other
  have hnamesake := h.exists_namesake_owner_iff wf dialect warn id.value
  have howners := h.owners_without wf dialect warn id.value
  rw [knownName_briefs, knownName_briefs, howners]
  generalize (ofStatement c.provider dialect warn s).scope.owners id.value = owners at *
  change (if warn = true ∧ _ then _ else _) = (if warn = true ∧ _ then _ else _) ↔ _
  cases warn with
  | false => simp
  | true =>
    have hsome : owners.filter (lower · != lower name) ≠ [] := by
      obtain ⟨table, htable, apart⟩ := hother
      exact List.ne_nil_of_mem (List.mem_filter.2 ⟨htable, bne_iff_ne.2 apart⟩)
    by_cases hany : ∃ k ∈ namesakesOf name (knownOf c.provider s), k.hasColumn id.value
    -- the message lists fewer owners then, or there is none
    · have hfewer : (owners.filter (lower · != lower name)).length < owners.length := by
        obtain ⟨table, htable, same⟩ := hnamesake.2 hany
        exact List.length_filter_lt_length_iff_exists.2 ⟨table, htable, by simp [same]⟩
      have htwo : 2 ≤ owners.length := by
        have hpos := List.length_pos_iff.2 hsome
        omega
      have hne := ambiguousMessage_ne id.value List.filter_sublist hfewer hsome
      obtain ⟨k, hk, hcolumn⟩ := hany
      have hright : ¬∀ k ∈ namesakesOf name (knownOf c.provider s), ¬k.hasColumn id.value :=
        fun hnone => hnone k hk hcolumn
      simp only [htwo, and_self, if_true, true_imp_iff, hright, iff_false]
      split
      next => simp [hne]
      next => simp
    · have hall : owners.filter (lower · != lower name) = owners := by
        rw [List.filter_eq_self]
        intro table htable
        rw [bne_iff_ne]
        intro same
        exact hany (hnamesake.1 ⟨table, htable, same⟩)
      rw [hall]
      simpa using hany

theorem unknownName_briefs_eq_iff (h : Hides s name) {id : Ident} :
    ((ofStatement (c.without name).provider dialect warn s).unknownName id).map Finding.brief =
        ((ofStatement c.provider dialect warn s).unknownName id).map Finding.brief ↔
      (Symbols.collect s).isTable id.value = true ∨ Lint.looksLikeColumn id.value = false ∨
        othersOf name (knownOf c.provider s) ≠ [] ∨
          namesakesOf name (knownOf c.provider s) = [] := by
  have hafter : (ofStatement (c.without name).provider dialect warn s).symbols = .collect s := rfl
  have hbefore : (ofStatement c.provider dialect warn s).symbols = .collect s := rfl
  have hknown := known_eq_nil_iff name (knownOf c.provider s)
  simp only [unknownName_briefs, hasTables_iff, h.knownOf_without, hafter, hbefore, ne_eq, hknown]
  by_cases htable : (Symbols.collect s).isTable id.value = true
  · simp [htable]
  · by_cases hlooks : Lint.looksLikeColumn id.value = true
    · by_cases hothers : othersOf name (knownOf c.provider s) = []
      · by_cases hnamesakes : namesakesOf name (knownOf c.provider s) = []
        · simp [hothers, hnamesakes]
        · simp [htable, hlooks, hothers, hnamesakes]
      · simp [hothers]
    · simp [hlooks]

theorem unknownName_briefs_eq_nil_iff (h : Hides s name) {id : Ident} :
    ((ofStatement (c.without name).provider dialect warn s).unknownName id).map Finding.brief = [] ↔
      (Symbols.collect s).isTable id.value = false ∧
        (othersOf name (knownOf c.provider s) = [] ∨ Lint.looksLikeColumn id.value = false) := by
  have hafter : (ofStatement (c.without name).provider dialect warn s).symbols = .collect s := rfl
  simp only [unknownName_briefs, hasTables_iff, h.knownOf_without, hafter]
  by_cases htable : (Symbols.collect s).isTable id.value = true
  · simp [htable]
  · by_cases hothers : othersOf name (knownOf c.provider s) = []
    · simp [htable, hothers]
    · simp [htable, hothers]

/-- Leaving out the tables of the name changes what is said about a name as `NameUnmoved` tells. -/
theorem nameVerdict_briefs_eq_iff (h : Hides s name) (wf : c.WellFormed) (id : Ident) :
    ((ofStatement (c.without name).provider dialect warn s).nameVerdict id).map Finding.brief =
        ((ofStatement c.provider dialect warn s).nameVerdict id).map Finding.brief ↔
      (ofStatement c.provider dialect warn s).isNoColumn id = true ∨
        NameUnmoved (ofStatement c.provider dialect warn s)
          (namesakesOf name (knownOf c.provider s)) (othersOf name (knownOf c.provider s)) id := by
  have hkind : (ofStatement (c.without name).provider dialect warn s).isNoColumn id =
      (ofStatement c.provider dialect warn s).isNoColumn id := rfl
  have hafter :
      ((ofStatement (c.without name).provider dialect warn s).scope.candidates id.value).isNone =
          true ↔
        ∀ k ∈ othersOf name (knownOf c.provider s), ¬k.hasColumn id.value := by
    rw [candidates_isNone_iff, h.knownOf_without]
  have hbefore :
      ((ofStatement c.provider dialect warn s).scope.candidates id.value).isNone = true ↔
        (∀ k ∈ othersOf name (knownOf c.provider s), ¬k.hasColumn id.value) ∧
          ∀ k ∈ namesakesOf name (knownOf c.provider s), ¬k.hasColumn id.value := by
    rw [candidates_isNone_iff, forall_known_iff name]
  rw [nameVerdict, nameVerdict, hkind]
  cases (ofStatement c.provider dialect warn s).isNoColumn id with
  | true => simp
  | false =>
    rw [if_neg Bool.false_ne_true, if_neg Bool.false_ne_true, or_iff_right Bool.false_ne_true]
    by_cases hother : ∃ k ∈ othersOf name (knownOf c.provider s), k.hasColumn id.value
    · have hnot : ¬∀ k ∈ othersOf name (knownOf c.provider s), ¬k.hasColumn id.value := by
        obtain ⟨k, hk, hcolumn⟩ := hother
        exact fun hnone => hnone k hk hcolumn
      rw [if_neg (mt hafter.1 hnot), if_neg (mt hbefore.1 fun hall => hnot hall.1),
        h.knownName_briefs_eq_iff wf hother]
      constructor
      · intro hambiguous
        exact ⟨fun hwarn _ => hambiguous hwarn, fun hnone => absurd hnone hnot,
          fun hnone => absurd hnone hnot⟩
      · intro hunmoved hwarn
        exact hunmoved.ambiguous hwarn hother
    · have hnone : ∀ k ∈ othersOf name (knownOf c.provider s), ¬k.hasColumn id.value :=
        fun k hk hcolumn => hother ⟨k, hk, hcolumn⟩
      rw [if_pos (hafter.2 hnone)]
      by_cases hnamesake : ∃ k ∈ namesakesOf name (knownOf c.provider s), k.hasColumn id.value
      · have hnot : ¬∀ k ∈ namesakesOf name (knownOf c.provider s), ¬k.hasColumn id.value := by
          obtain ⟨k, hk, hcolumn⟩ := hnamesake
          exact fun hnone => hnone k hk hcolumn
        have hsilent : ((ofStatement c.provider dialect warn s).knownName id).map Finding.brief =
            [] := by
          have howners := h.length_owners_lt_two wf dialect warn hnone
          rw [knownName_briefs, if_neg fun htwo => Nat.not_le.2 howners htwo.2]
        rw [if_neg (mt hbefore.1 fun hall => hnot hall.2), hsilent, h.unknownName_briefs_eq_nil_iff]
        constructor
        · intro hknown
          exact ⟨fun _ hsome => absurd hsome hother, fun _ _ => hknown,
            fun _ hnone => absurd hnone hnot⟩
        · intro hunmoved
          exact hunmoved.known hnone hnamesake
      · have hno : ∀ k ∈ namesakesOf name (knownOf c.provider s), ¬k.hasColumn id.value :=
          fun k hk hcolumn => hnamesake ⟨k, hk, hcolumn⟩
        rw [if_pos (hbefore.2 ⟨hnone, hno⟩), h.unknownName_briefs_eq_iff]
        constructor
        · intro hunknown
          exact ⟨fun _ hsome => absurd hsome hother, fun _ hsome => absurd hsome hnamesake,
            fun _ _ => hunknown⟩
        · intro hunmoved
          exact hunmoved.unknown hnone hno

end Hides

end SqlAudit.Names
