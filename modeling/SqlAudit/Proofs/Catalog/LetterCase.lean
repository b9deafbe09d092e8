import SqlAudit.Catalog.Provider
import SqlAudit.Proofs.Catalog.Keys
import SqlAudit.Proofs.Text.Folding

/-!
What is asked of a catalog, in another letter case. A catalog finds schemas and tables by names that
ignore the case of ASCII letters, and where a text gives such a name it is split at the same period.
-/

namespace SqlAudit

open Text

namespace TableName

def foldCase (n : TableName) : TableName := ⟨n.schema.map foldAscii, foldAscii n.name⟩

theorem isDot_toLower (c : Char) : (c.toLower != '.') = (c != '.') :=
  toLower_invariant (f := fun c => c != '.') (by decide) c

theorem takeWhile_map_toLower (s : List Char) :
    (s.map Char.toLower).takeWhile (· != '.') = (s.takeWhile (· != '.')).map Char.toLower := by
  rw [List.takeWhile_map]
  congr 2
  funext c
  exact isDot_toLower c

theorem ofText_foldAscii (s : String) : ofText (foldAscii s) = (ofText s).foldCase := by
  simp only [ofText, foldAscii, String.toList_ofList, takeWhile_map_toLower, List.length_map,
    ← List.map_drop]
  cases s.toList.drop (s.toList.takeWhile (· != '.')).length with
  | nil => rfl
  | cons c rest =>
    have hdot := isDot_toLower c
    by_cases hc : c = '.'
    · subst hc
      simp [within, foldCase, foldAscii]
    · have hlower : c.toLower ≠ '.' := by
        rw [bne_iff_ne.2 hc, bne_iff_ne] at hdot
        exact hdot
      rw [List.map_cons]
      split
      next hcons => exact absurd (List.cons.inj hcons).1 hlower
      next =>
        split
        next hcons => exact absurd (List.cons.inj hcons).1 hc
        next => rfl

theorem name_ofText_foldAscii (s : String) :
    (ofText (foldAscii s)).name = foldAscii (ofText s).name := by
  rw [ofText_foldAscii, foldCase]

theorem sameName_ofText {a b : String} (h : sameName a b = true) :
    sameName (ofText a).name (ofText b).name = true := by
  rw [sameName_iff, ← name_ofText_foldAscii, ← name_ofText_foldAscii, sameName_iff.1 h]

end TableName

namespace Provider

/-- A provider whose answers do not depend on the case of ASCII letters. -/
structure IgnoresCase (p : Provider) : Prop where
  tablesIn : ∀ schema, p.tablesIn (foldAscii schema) = p.tablesIn schema
  columnsOf : ∀ name, p.columnsOf (foldAscii name) = p.columnsOf name
  columnsIn : ∀ schema table, p.columnsIn schema (foldAscii table) = p.columnsIn schema table

theorem IgnoresCase.columns? {p : Provider} (h : p.IgnoresCase) (schema : Option String)
    (table : String) :
    p.columns? (schema.map foldAscii) (foldAscii table) = p.columns? schema table := by
  have hgiven : ((schema.map foldAscii).bind fun s => p.columnsOf (s ++ "." ++ foldAscii table)) =
      schema.bind fun s => p.columnsOf (s ++ "." ++ table) := by
    cases schema with
    | none => rfl
    | some s =>
      have hdot : foldAscii "." = "." := by decide
      have htext : foldAscii s ++ "." ++ foldAscii table = foldAscii (s ++ "." ++ table) := by
        rw [foldAscii_append, foldAscii_append, hdot]
      rw [Option.map_some, Option.bind_some, Option.bind_some, htext, h.columnsOf]
  have hany : (p.columnsIn · (foldAscii table)) = (p.columnsIn · table) :=
    funext fun s => h.columnsIn s table
  rw [Provider.columns?, Provider.columns?, h.columnsOf, hgiven, hany]

end Provider

namespace Catalog

variable (c : Catalog)

theorem schema?_foldAscii (schema : String) : c.schema? (foldAscii schema) = c.schema? schema :=
  OrderedMap.find?_congr (sameName_foldAscii schema)

theorem table?_foldCase (n : TableName) : c.table? n.foldCase = c.table? n := by
  have htable : ∀ s : Schema, s.table? (foldAscii n.name) = s.table? n.name :=
    fun s => OrderedMap.find?_congr (sameName_foldAscii n.name)
  have hschema : c.schema? (c.schemaName n.foldCase) = c.schema? (c.schemaName n) := by
    obtain ⟨schema, name⟩ := n
    cases schema with
    | none => rfl
    | some schema => exact c.schema?_foldAscii schema
  rw [table?, table?, hschema]
  simp only [TableName.foldCase, htable]

/-- Every catalog answers alike in every letter case. -/
theorem ignoresCase : c.provider.IgnoresCase where
  tablesIn schema := by
    change (c.schema? (foldAscii schema)).map _ = (c.schema? schema).map _
    rw [schema?_foldAscii]
  columnsOf name := by
    change (c.table? (.ofText (foldAscii name))).map _ = (c.table? (.ofText name)).map _
    rw [TableName.ofText_foldAscii, table?_foldCase]
  columnsIn schema table := by
    have htable : ∀ s : Schema, s.table? (foldAscii table) = s.table? table :=
      fun s => OrderedMap.find?_congr (sameName_foldAscii table)
    change ((c.schema? schema).bind (·.table? (foldAscii table))).map _ =
      ((c.schema? schema).bind (·.table? table)).map _
    simp only [htable]

end Catalog

end SqlAudit
