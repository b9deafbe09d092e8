import SqlAudit.Catalog.Provider
import SqlAudit.Proofs.Catalog.WellFormed

/-!
What a catalog answers about the columns of a table. For names without a period the answer is that
of the first table that fits: the one of the default schema, then the one of the schema given, then
the one of any schema.
-/

namespace SqlAudit

open Text

def DotFree (s : String) : Prop := '.' ∉ s.toList

instance (s : String) : Decidable (DotFree s) := inferInstanceAs (Decidable ('.' ∉ s.toList))

namespace TableName

theorem ne_of_dotFree {s : String} (h : DotFree s) : ∀ c ∈ s.toList, (c != '.') = true := by
  intro c hc
  rw [bne_iff_ne]
  rintro rfl
  exact h hc

theorem takeWhile_eq_self_of_dotFree {s : String} (h : DotFree s) :
    s.toList.takeWhile (· != '.') = s.toList := by
  have hall : (s.toList ++ []).takeWhile (· != '.') = s.toList ++ [].takeWhile (· != '.') :=
    List.takeWhile_append_of_pos (ne_of_dotFree h)
  simpa using hall

theorem ofText_of_dotFree {name : String} (h : DotFree name) : ofText name = plain name := by
  simp only [ofText, takeWhile_eq_self_of_dotFree h, List.drop_length]

theorem ofText_within {schema : String} (h : DotFree schema) (name : String) :
    ofText (schema ++ "." ++ name) = within schema name := by
  have hchars : (schema ++ "." ++ name).toList = schema.toList ++ '.' :: name.toList := by simp
  have htake : (schema.toList ++ '.' :: name.toList).takeWhile (· != '.') = schema.toList := by
    rw [List.takeWhile_append_of_pos (ne_of_dotFree h)]
    simp
  simp only [ofText, hchars, htake, List.drop_left, String.ofList_toList]

end TableName

namespace TableDef

theorem columnInfos_isEmpty (t : TableDef) : t.columnInfos.isEmpty = t.columns.isEmpty := by
  simp [columnInfos, OrderedMap.values, OrderedMap.isEmpty]

theorem table_of_mem_columnInfos {t : TableDef} {info : ColumnInfo} (h : info ∈ t.columnInfos) :
    info.table = t.name.name := by
  obtain ⟨c, _, rfl⟩ := List.mem_map.1 h
  rfl

theorem WellFormed.hasColumn_iff {t : TableDef} (h : t.WellFormed) (name : String) :
    t.hasColumn name = true ↔ t.columnInfos.any (sameName ·.name name) = true := by
  rw [hasColumn, column?, OrderedMap.isSome_find?, List.any_eq_true]
  constructor
  · rintro ⟨e, he, hname⟩
    refine ⟨⟨t.name.name, e.2.name, e.2.type, e.2.nullable⟩, ?_, ?_⟩
    · exact List.mem_map.2 ⟨e.2, List.mem_map_of_mem he, rfl⟩
    · rw [← h e he]
      exact hname
  · rintro ⟨info, hinfo, hname⟩
    obtain ⟨column, hcolumn, rfl⟩ := List.mem_map.1 hinfo
    obtain ⟨e, he, rfl⟩ := List.mem_map.1 hcolumn
    refine ⟨e, he, ?_⟩
    rw [h e he]
    exact hname

end TableDef

namespace Catalog

variable (c : Catalog)

/-- The table whose columns are looked up for a table given by texts. -/
def tableFor? (schema : Option String) (name : String) : Option TableDef :=
  (c.table? (.ofText name)).or <|
    (schema.bind fun s => c.table? (.ofText (s ++ "." ++ name))).or <|
      (c.schemas.values.map (·.name)).findSome? fun s => c.table? (.within s name)

theorem columns?_eq_tableFor? (schema : Option String) (name : String) :
    c.provider.columns? schema name = (c.tableFor? schema name).map (·.columnInfos) := by
  have anywhere : (c.provider.columnsIn · name) =
      fun s => (c.table? (.within s name)).map (·.columnInfos) := rfl
  have given : (schema.bind fun s => c.provider.columnsOf (s ++ "." ++ name)) =
      (schema.bind fun s => c.table? (.ofText (s ++ "." ++ name))).map (·.columnInfos) := by
    cases schema <;> rfl
  have plain : c.provider.columnsOf name = (c.table? (.ofText name)).map (·.columnInfos) := rfl
  rw [Provider.columns?, tableFor?, plain, given, anywhere, Option.map_or, Option.map_or,
    List.map_findSome?]
  rfl

def firstTable? (schema : Option String) (name : String) : Option TableDef :=
  (c.table? (.plain name)).or <|
    (schema.bind fun s => c.table? (.within s name)).or <|
      (c.schemas.values.map (·.name)).findSome? fun s => c.table? (.within s name)

variable {c}

theorem table?_congr {a b : TableName} (schema : sameName (c.schemaName a) (c.schemaName b) = true)
    (name : sameName a.name b.name = true) : c.table? a = c.table? b := by
  simp only [table?, schema?, Schema.table?, OrderedMap.find?_congr schema,
    OrderedMap.find?_congr name]

theorem table?_within_default {schema name : String}
    (h : sameName schema c.defaultSchema = true) :
    c.table? (.within schema name) = c.table? (.plain name) := by
  have hfind := OrderedMap.find?_congr (m := c.schemas) h
  simp only [table?, schema?, schemaName, TableName.within, TableName.plain, Option.getD_some,
    Option.getD_none, hfind]

theorem tableFor?_eq_firstTable? {schema : Option String} {name : String} (hname : DotFree name)
    (hschema : ∀ s ∈ schema, DotFree s) : c.tableFor? schema name = c.firstTable? schema name := by
  rw [tableFor?, firstTable?, TableName.ofText_of_dotFree hname]
  cases schema with
  | none => rw [Option.bind_none, Option.bind_none]
  | some s => rw [Option.bind_some, Option.bind_some, TableName.ofText_within (hschema s rfl)]

theorem columns?_eq_firstTable? {schema : Option String} {name : String}
    (hname : DotFree name) (hschema : ∀ s ∈ schema, DotFree s) :
    c.provider.columns? schema name = (c.firstTable? schema name).map (·.columnInfos) := by
  rw [columns?_eq_tableFor?, tableFor?_eq_firstTable? hname hschema]

theorem firstTable?_of_plain {schema : Option String} {name : String} {t : TableDef}
    (h : c.table? (.plain name) = some t) : c.firstTable? schema name = some t := by
  rw [firstTable?, h, Option.some_or]

end Catalog

end SqlAudit
