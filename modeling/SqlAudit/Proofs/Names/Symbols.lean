import SqlAudit.Names.Symbols
import SqlAudit.Proofs.Names.FirstOfKind
import SqlAudit.Proofs.Sql.Occurrences
import SqlAudit.Proofs.Text.Folding

/-!
What the names of a statement say about its table uses: every table is among the texts, once, and an
alias stands for the table of the last use that defines it.
-/

namespace SqlAudit

namespace Position

variable {α : Type} {start : α → Position}

theorem insertOn_perm (items : List α) (a : α) : (insertOn start items a).Perm (a :: items) := by
  unfold insertOn
  refine List.perm_middle.trans ?_
  rw [List.takeWhile_append_dropWhile]

theorem sortOn_perm (items : List α) : (sortOn start items).Perm items := by
  induction items using List.reverseRecOn with
  | nil => exact List.Perm.refl _
  | append_singleton items a ih =>
    rw [sortOn, List.foldl_append, ← sortOn]
    exact (insertOn_perm _ a).trans ((ih.cons a).trans (List.perm_append_singleton a items).symm)

theorem before_iff {a b : Position} :
    a.before b = true ↔ a.line < b.line ∨ a.line = b.line ∧ a.column < b.column := by
  simp [before]

theorem before_asymm {a b : Position} (h : a.before b = true) : b.before a = false := by
  rw [Bool.eq_false_iff, ne_eq, before_iff]
  rw [before_iff] at h
  omega

theorem before_trans {a b c : Position} (h : a.before b = true) (h' : b.before c = true) :
    a.before c = true := by
  rw [before_iff] at h h' ⊢
  omega

def Sorted (start : α → Position) (items : List α) : Prop :=
  items.Pairwise fun a b => (start b).before (start a) = false

theorem insertOn_cons (b : α) (items : List α) (a : α) :
    insertOn start (b :: items) a =
      if (start a).before (start b) then a :: b :: items else b :: insertOn start items a := by
  unfold insertOn
  cases h : (start a).before (start b) <;> simp [h]

theorem Sorted.insertOn {items : List α} (h : Sorted start items) (a : α) :
    Sorted start (insertOn start items a) := by
  induction items with
  | nil => exact List.pairwise_singleton _ _
  | cons b items ih =>
    obtain ⟨first, rest⟩ := List.pairwise_cons.1 h
    rw [insertOn_cons]
    split
    next earlier =>
      refine List.pairwise_cons.2 ⟨fun c hc => ?_, h⟩
      rcases List.mem_cons.1 hc with rfl | hc
      · exact before_asymm earlier
      · rw [Bool.eq_false_iff]
        exact fun hbefore =>
          Bool.eq_false_iff.1 (first c hc) (before_trans hbefore earlier)
    next notEarlier =>
      refine List.pairwise_cons.2 ⟨fun c hc => ?_, ih rest⟩
      rcases List.mem_cons.1 ((insertOn_perm items a).subset hc) with rfl | hc
      · exact Bool.eq_false_iff.2 notEarlier
      · exact first c hc

theorem sorted_sortOn (start : α → Position) (items : List α) :
    Sorted start (sortOn start items) := by
  induction items using List.reverseRecOn with
  | nil => exact List.Pairwise.nil
  | append_singleton items a ih =>
    rw [sortOn, List.foldl_append, ← sortOn]
    exact ih.insertOn a

end Position

namespace Names

open Sql Text

/-! ### Texts of tables -/

theorem distinctTexts_eq (uses : List TableUse) :
    distinctTexts uses = (uses.map (·.text)).eraseDupsBy fun t t' => t'.same t := by
  rw [← List.foldl_eq_eraseDupsBy]
  rfl

theorem TableText.same_refl (t : TableText) : t.same t = true := by simp [TableText.same]

theorem exists_use_of_mem_distinctTexts {uses : List TableUse} {t : TableText}
    (h : t ∈ distinctTexts uses) : ∃ u ∈ uses, u.text = t := by
  rw [distinctTexts_eq] at h
  exact List.mem_map.1 (List.mem_of_mem_eraseDupsBy h)

theorem exists_mem_distinctTexts {uses : List TableUse} {u : TableUse} (h : u ∈ uses) :
    ∃ t ∈ distinctTexts uses, t.same u.text = true := by
  rw [distinctTexts_eq]
  exact List.exists_mem_eraseDupsBy TableText.same_refl (List.mem_map_of_mem h)

theorem TableUse.sameName_of_same {t : TableText} {u : TableUse} (h : t.same u.text = true) :
    sameName t.name u.table.value = true := (Bool.and_eq_true_iff.1 h).1

theorem exists_mem_distinctTexts_name_iff {uses : List TableUse} {name : String} :
    (∃ t ∈ distinctTexts uses, sameName t.name name = true) ↔
      ∃ u ∈ uses, sameName u.table.value name = true := by
  constructor
  · rintro ⟨t, ht, hname⟩
    obtain ⟨u, hu, rfl⟩ := exists_use_of_mem_distinctTexts ht
    exact ⟨u, hu, hname⟩
  · rintro ⟨u, hu, hname⟩
    obtain ⟨t, ht, hsame⟩ := exists_mem_distinctTexts hu
    exact ⟨t, ht, sameName_trans (TableUse.sameName_of_same hsame) hname⟩

/-! ### Aliases of tables -/

theorem get?_aliasTables_concat (us : List TableUse) (u : TableUse) (key : String) :
    (aliasTables (us ++ [u])).get? key =
      if u.alias?.any (lower ·.value == key) then some u.table.value
      else (aliasTables us).get? key := by
  rw [aliasTables, List.foldl_append, ← aliasTables, List.foldl_cons, List.foldl_nil]
  cases u.alias? with
  | none => simp
  | some a => simp [OrderedMap.get?_insert]

theorem exists_use_of_get?_aliasTables {uses : List TableUse} {key table : String}
    (h : (aliasTables uses).get? key = some table) :
    ∃ u ∈ uses, ∃ a ∈ u.alias?, lower a.value = key ∧ u.table.value = table := by
  induction uses using List.reverseRecOn with
  | nil => simp [aliasTables] at h
  | append_singleton us u ih =>
    rw [get?_aliasTables_concat] at h
    split at h
    next hu =>
      obtain ⟨a, ha, hkey⟩ := (Option.any_eq_true _ _).1 hu
      exact ⟨u, by simp, a, ha, beq_iff_eq.1 hkey, Option.some.inj h⟩
    next =>
      obtain ⟨v, hv, rest⟩ := ih h
      exact ⟨v, List.mem_append_left _ hv, rest⟩

theorem get?_aliasTables_eq_none {uses : List TableUse} {key : String} :
    (aliasTables uses).get? key = none ↔ ∀ u ∈ uses, ∀ a ∈ u.alias?, lower a.value ≠ key := by
  induction uses using List.reverseRecOn with
  | nil => simp [aliasTables]
  | append_singleton us u ih =>
    rw [get?_aliasTables_concat]
    cases ha : u.alias? with
    | none => simp [ih, or_imp, forall_and, ha]
    | some a =>
      by_cases hkey : lower a.value = key
      · simp [hkey, ha, or_imp, forall_and]
      · simp [hkey, ih, ha, or_imp, forall_and]

theorem contains_aliasTables_iff {uses : List TableUse} {key : String} :
    (aliasTables uses).contains key = true ↔ ∃ u ∈ uses, ∃ a ∈ u.alias?, lower a.value = key := by
  rw [← OrderedMap.isSome_get?, Option.isSome_iff_ne_none, ne_eq, get?_aliasTables_eq_none]
  simp only [not_forall, not_not, exists_prop]

/-! ### What the names of a statement are -/

namespace Symbols

variable {s : Statement}

theorem isTable_collect_iff {name : String} :
    (collect s).isTable name = true ↔
      ∃ u ∈ (collect s).uses, sameName u.table.value name = true := by
  rw [isTable, List.any_eq_true]
  exact exists_mem_distinctTexts_name_iff

theorem contains_aliases_collect_iff {key : String} :
    (collect s).aliases.contains key = true ↔
      ∃ u ∈ (collect s).uses, ∃ a ∈ u.alias?, lower a.value = key := contains_aliasTables_iff

theorem isQualifier_of_noAlias {name : String}
    (noAlias : (collect s).aliases.get? (lower name) = none) :
    (collect s).isQualifier name = ((collect s).isOpaque name || (collect s).isTable name) := by
  have hcontains : (collect s).aliases.contains (lower name) = false := by
    rw [← OrderedMap.isSome_get?, noAlias]
    rfl
  rw [isQualifier, hcontains, Bool.false_or, isTable]
  congr 1
  rw [Bool.eq_iff_iff, List.any_eq_true, List.any_eq_true]
  refine exists_congr fun t => and_congr_right fun ht => ?_
  obtain ⟨u, hu, rfl⟩ := exists_use_of_mem_distinctTexts ht
  have hother : u.text.alias?.any (sameName · name) = false := by
    rw [Bool.eq_false_iff]
    intro hany
    obtain ⟨text, htext, hname⟩ := (Option.any_eq_true _ _).1 hany
    obtain ⟨a, ha, rfl⟩ := Option.map_eq_some_iff.1 htext
    exact get?_aliasTables_eq_none.1 noAlias u hu a ha (lower_eq_of_sameName hname)
  rw [hother, Bool.or_false]

end Symbols

/-! ### Names that are part of something else -/

def TableUse.idents (u : TableUse) : List Ident := u.table :: u.schema.toList ++ u.alias?.toList

theorem TableUse.idents_ofPath_subperm (name : Path) (a : Option Ident) :
    ((TableUse.ofPath name a).flatMap TableUse.idents).Subperm (name ++ a.toList) := by
  have hperm : (name.reverse ++ a.toList).Perm (name ++ a.toList) :=
    (List.reverse_perm name).append_right _
  refine List.Subperm.trans ?_ hperm.subperm
  unfold TableUse.ofPath
  match name.reverse with
  | [] => simp
  | [table] => simp [TableUse.idents, List.Subperm.refl]
  | table :: schema :: front =>
    have hfront : (table :: schema :: a.toList).Sublist (table :: schema :: (front ++ a.toList)) :=
      ((List.sublist_append_right front a.toList).cons_cons schema).cons_cons table
    simpa [TableUse.idents] using hfront.subperm

theorem uses_idents_subperm (v : Visit) : (v.uses.flatMap TableUse.idents).Subperm v.idents := by
  unfold Visit.uses
  split
  next target a columns _ _ =>
    have hpath := TableUse.idents_ofPath_subperm target a
    exact hpath.trans (List.sublist_append_left _ columns).subperm
  next name a _ =>
    have hpath := TableUse.idents_ofPath_subperm name (a.map (·.name))
    refine hpath.trans ((List.subperm_append_left name).2 ?_)
    cases a with
    | none => simp
    | some a => simp [TableAlias.idents]
  next => simp

theorem uses_idents_subset (v : Visit) : v.uses.flatMap TableUse.idents ⊆ v.idents :=
  (uses_idents_subperm v).subset

theorem collect_uses_subperm (s : Statement) :
    ((Symbols.collect s).uses.flatMap TableUse.idents).Subperm s.idents := by
  change ((s.visits.flatMap Visit.uses).flatMap TableUse.idents).Subperm
    (s.visits.flatMap Visit.idents)
  rw [List.flatMap_assoc]
  induction s.visits with
  | nil => simp
  | cons v visits ih =>
    rw [List.flatMap_cons, List.flatMap_cons]
    exact (uses_idents_subperm v).append ih

theorem idents_subset_of_mem_uses {s : Statement} {u : TableUse}
    (hu : u ∈ (Symbols.collect s).uses) : u.idents ⊆ s.idents := fun _ hi =>
  (collect_uses_subperm s).subset (List.mem_flatMap.2 ⟨u, hu, hi⟩)

theorem alias_idents_subset (f : Factor) :
    f.alias?.toList.flatMap TableAlias.idents ⊆ (Visit.factor f).idents := by
  cases f <;> simp [Visit.idents, Factor.idents, Factor.alias?]

theorem name_mem_of_opaqueAlias {v : Visit} {a : TableAlias} (h : v.opaqueAlias = some a) :
    a.name ∈ v.idents := by
  have hfactor : ∃ f, v = .factor f ∧ f.alias? = some a := by
    unfold Visit.opaqueAlias at h
    split at h
    · exact ⟨_, rfl, h⟩
    · exact ⟨_, rfl, h⟩
    · exact ⟨_, rfl, h⟩
    · exact ⟨_, rfl, h⟩
    · cases h
  obtain ⟨f, rfl, hf⟩ := hfactor
  refine alias_idents_subset f ?_
  simp [hf, TableAlias.idents]

theorem aliases_subset (v : Visit) : v.aliases.map (·.1) ⊆ v.idents := by
  intro i hi
  obtain ⟨⟨j, kind⟩, hj, rfl⟩ := List.mem_map.1 hi
  simp only [Visit.aliases, List.mem_append] at hj
  rcases hj with (hj | hj) | hj
  · obtain ⟨a, ha, heq⟩ := List.mem_map.1 hj
    obtain ⟨u, hu, hua⟩ := List.mem_filterMap.1 ha
    refine uses_idents_subset v (List.mem_flatMap.2 ⟨u, hu, ?_⟩)
    rw [← (Prod.mk.inj heq).1]
    simp [TableUse.idents, hua]
  · obtain ⟨a, ha, heq⟩ := List.mem_map.1 hj
    rw [← (Prod.mk.inj heq).1]
    exact name_mem_of_opaqueAlias (Option.mem_toList.1 ha)
  · obtain ⟨item, hitem, hname⟩ := List.mem_filterMap.1 hj
    cases v with
    | enter q =>
      have hin : j ∈ item.idents := by
        cases item <;> simp_all [SelectItem.idents]
      exact List.mem_append_right _ (List.mem_flatMap.2 ⟨item, hitem, hin⟩)
    | statement | leave | factor | expr => cases hitem

theorem targets_subset (v : Visit) : v.targets ⊆ v.idents := by
  intro i hi
  cases v with
  | enter q => exact List.mem_append_left _ hi
  | factor f =>
    refine alias_idents_subset f ?_
    obtain ⟨a, ha, hcolumn⟩ := List.mem_flatMap.1 hi
    exact List.mem_flatMap.2 ⟨a, ha, List.mem_cons_of_mem _ hcolumn⟩
  | statement | leave | expr => cases hi

theorem exists_visit_of_mem_definitionsFrom {depth : Nat} {visits : List Visit}
    {d : AliasDefinition} (h : d ∈ definitionsFrom depth visits) :
    ∃ v ∈ visits, d.name ∈ v.aliases.map (·.1) := by
  induction visits generalizing depth with
  | nil => cases h
  | cons v visits ih =>
    rw [definitionsFrom, List.mem_append] at h
    rcases h with h | h
    · obtain ⟨a, ha, rfl⟩ := List.mem_map.1 h
      exact ⟨v, List.mem_cons_self, List.mem_map_of_mem ha⟩
    · obtain ⟨w, hw, hd⟩ := ih h
      exact ⟨w, List.mem_cons_of_mem v hw, hd⟩

end Names

end SqlAudit
