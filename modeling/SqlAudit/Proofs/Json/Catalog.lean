import SqlAudit.Json.Catalog
import SqlAudit.Proofs.Catalog.DistinctKeys
import SqlAudit.Proofs.Json.RoundTrip

/-!
A catalog that is saved and loaded is the catalog it was, with schemas, tables and columns in their
order. The only condition is that no key of a map occurs twice; catalogs that are built and catalogs
that are loaded meet it.
-/

namespace SqlAudit

/-! ### Maps -/

namespace OrderedMap

variable {α : Type}

theorem entries_foldl_insert (es : List (String × α)) {m : OrderedMap α}
    (h : (m.keys ++ es.map (·.1)).Nodup) :
    (es.foldl (fun m e => m.insert e.1 e.2) m).entries = m.entries ++ es := by
  induction es generalizing m with
  | nil => rw [List.foldl_nil, List.append_nil]
  | cons e es ih =>
    have hfresh : m.contains e.1 = false := by
      rw [← Bool.not_eq_true, contains_iff_mem_keys]
      intro hmem
      exact (List.nodup_append.1 h).2.2 _ hmem _ List.mem_cons_self rfl
    have hentries := entries_insert_of_new hfresh e.2
    have hkeys : (m.insert e.1 e.2).keys = m.keys ++ [e.1] := by
      rw [keys, hentries, List.map_append]
      rfl
    rw [List.foldl_cons, ih, hentries, List.append_assoc, List.singleton_append]
    rw [hkeys, List.append_assoc, List.singleton_append]
    exact h

theorem mapM_entries {encode : α → Json} {decode : Json → Option α} (es : List (String × α))
    (h : ∀ e ∈ es, decode (encode e.2) = some e.2) :
    (es.map fun e => (e.1, encode e.2)).mapM (fun f => (decode f.2).map (f.1, ·)) = some es := by
  induction es with
  | nil => rfl
  | cons e es ih =>
    rw [List.forall_mem_cons] at h
    rw [List.map_cons, List.mapM_cons, h.1, ih h.2]
    rfl

theorem exists_of_mem_mapM {β γ : Type} {f : β → Option γ} {as : List β} {bs : List γ}
    (h : as.mapM f = some bs) {b : γ} (hb : b ∈ bs) : ∃ a, f a = some b := by
  induction as generalizing bs with
  | nil =>
    cases h
    cases hb
  | cons a as ih =>
    rw [List.mapM_cons] at h
    obtain ⟨b', hb', h⟩ := Option.bind_eq_some_iff.1 h
    obtain ⟨bs', hbs', h⟩ := Option.bind_eq_some_iff.1 h
    cases h
    rcases List.mem_cons.1 hb with rfl | hb
    · exact ⟨a, hb'⟩
    · exact ih hbs' hb

theorem distinctKeys_foldl_insert (es : List (String × α)) {m : OrderedMap α}
    (h : m.DistinctKeys) : (es.foldl (fun m e => m.insert e.1 e.2) m).DistinctKeys :=
  List.foldlRecOn es _ h fun _ h e _ => h.insert e.1 e.2

theorem mem_foldl_insert {es : List (String × α)} {m : OrderedMap α} {e : String × α}
    (h : e ∈ (es.foldl (fun m e => m.insert e.1 e.2) m).entries) : e ∈ m.entries ∨ e ∈ es := by
  induction es generalizing m with
  | nil => exact Or.inl h
  | cons d es ih =>
    rcases ih h with hmem | hmem
    · rcases mem_insert hmem with hmem | rfl
      · exact Or.inl hmem
      · exact Or.inr List.mem_cons_self
    · exact Or.inr (List.mem_cons_of_mem d hmem)

theorem of_map?_eq_some {decode : Json → Option α} {j : Json} {m : OrderedMap α}
    (h : Json.map? decode j = some m) :
    m.DistinctKeys ∧ ∀ e ∈ m.entries, ∃ value, decode value = some e.2 := by
  unfold Json.map? at h
  split at h
  next fields =>
    obtain ⟨es, hes, rfl⟩ := Option.map_eq_some_iff.1 h
    refine ⟨distinctKeys_foldl_insert es distinctKeys_empty, fun e he => ?_⟩
    have hmem : e ∈ es := (mem_foldl_insert he).resolve_left List.not_mem_nil
    obtain ⟨f, hf⟩ := exists_of_mem_mapM hes hmem
    obtain ⟨value, hvalue, rfl⟩ := Option.map_eq_some_iff.1 hf
    exact ⟨f.2, hvalue⟩
  next => cases h

theorem map?_toJson {m : OrderedMap α} {encode : α → Json} {decode : Json → Option α}
    (distinct : m.DistinctKeys) (h : ∀ e ∈ m.entries, decode (encode e.2) = some e.2) :
    Json.map? decode (m.toJson encode) = some m := by
  have hentries := entries_foldl_insert (m := empty) m.entries distinct
  have hmap : m.entries.foldl (fun m e => m.insert e.1 e.2) empty = m := congrArg mk hentries
  rw [toJson, Json.map?, mapM_entries m.entries h, Option.map_some, hmap]

theorem numerals_toJson {encode : α → Json} {m : OrderedMap α}
    (h : ∀ e ∈ m.entries, (encode e.2).Numerals) : (m.toJson encode).Numerals := by
  rw [toJson, Json.Numerals]
  generalize m.entries = es at h
  induction es with
  | nil => trivial
  | cons e es ih =>
    rw [List.forall_mem_cons] at h
    exact ⟨h.1, ih h.2⟩

end OrderedMap

/-! ### Records -/

theorem Decoder.exists_of_required {V α : Type} {fields : List (String × V)} {name : String}
    {decode : V → Option α} {a : α} (h : required fields name decode = some a) :
    ∃ v, decode v = some a := by
  unfold required at h
  split at h
  next v _ => exact ⟨v, h⟩
  next => cases h

theorem TableName.ofJson?_toJson (n : TableName) : ofJson? n.toJson = some n := by
  obtain ⟨schema, name⟩ := n
  cases schema <;> rfl

theorem TableName.numerals_toJson (n : TableName) : n.toJson.Numerals := by
  obtain ⟨schema, name⟩ := n
  cases schema <;> trivial

namespace ColumnDef

theorem ofJson?_toJson (c : ColumnDef) : ofJson? c.toJson = some c := by
  obtain ⟨name, type, nullable, isPrimaryKey, default⟩ := c
  cases default <;> rfl

theorem numerals_toJson (c : ColumnDef) : c.toJson.Numerals := by
  obtain ⟨name, type, nullable, isPrimaryKey, default⟩ := c
  cases default <;> trivial

end ColumnDef

theorem TableKind.choice?_label (k : TableKind) :
    Json.choice? all label (.string k.label) = some k := by
  cases k <;> rfl

namespace TableDef

theorem ofJson?_toJson {t : TableDef} (distinct : t.DistinctKeys) : ofJson? t.toJson = some t := by
  have hcolumns := OrderedMap.map?_toJson distinct fun e _ => e.2.ofJson?_toJson
  have hread : ofJson? t.toJson = do
      let name ← TableName.ofJson? t.name.toJson
      let kind ← Json.choice? TableKind.all TableKind.label (.string t.kind.label)
      let columns ← Json.map? ColumnDef.ofJson? (t.columns.toJson ColumnDef.toJson)
      return ⟨name, kind, columns⟩ := rfl
  rw [hread, t.name.ofJson?_toJson, t.kind.choice?_label, hcolumns]
  rfl

theorem distinctKeys_of_ofJson? {j : Json} {t : TableDef} (h : ofJson? j = some t) :
    t.DistinctKeys := by
  obtain ⟨fields, -, h⟩ := Option.bind_eq_some_iff.1 h
  obtain ⟨name, -, h⟩ := Option.bind_eq_some_iff.1 h
  obtain ⟨kind, -, h⟩ := Option.bind_eq_some_iff.1 h
  obtain ⟨columns, hcolumns, h⟩ := Option.bind_eq_some_iff.1 h
  cases h
  obtain ⟨value, hvalue⟩ := Decoder.exists_of_required hcolumns
  exact (OrderedMap.of_map?_eq_some hvalue).1

theorem numerals_toJson (t : TableDef) : t.toJson.Numerals :=
  ⟨t.name.numerals_toJson, trivial,
    OrderedMap.numerals_toJson fun e _ => e.2.numerals_toJson, trivial⟩

end TableDef

namespace Schema

theorem ofJson?_toJson {s : Schema} (distinct : s.DistinctKeys) : ofJson? s.toJson = some s := by
  have htables := OrderedMap.map?_toJson distinct.tables fun e he =>
    TableDef.ofJson?_toJson (distinct.columns e he)
  have hread : ofJson? s.toJson = do
      let tables ← Json.map? TableDef.ofJson? (s.tables.toJson TableDef.toJson)
      return ⟨s.name, tables⟩ := rfl
  rw [hread, htables]
  rfl

theorem distinctKeys_of_ofJson? {j : Json} {s : Schema} (h : ofJson? j = some s) :
    s.DistinctKeys := by
  obtain ⟨fields, -, h⟩ := Option.bind_eq_some_iff.1 h
  obtain ⟨name, -, h⟩ := Option.bind_eq_some_iff.1 h
  obtain ⟨tables, htables, h⟩ := Option.bind_eq_some_iff.1 h
  cases h
  obtain ⟨value, hvalue⟩ := Decoder.exists_of_required htables
  obtain ⟨hkeys, hvalues⟩ := OrderedMap.of_map?_eq_some hvalue
  refine ⟨hkeys, fun e he => ?_⟩
  obtain ⟨j, hj⟩ := hvalues e he
  exact TableDef.distinctKeys_of_ofJson? hj

theorem numerals_toJson (s : Schema) : s.toJson.Numerals :=
  ⟨trivial, OrderedMap.numerals_toJson fun e _ => e.2.numerals_toJson, trivial⟩

end Schema

namespace Catalog

theorem ofJson?_toJson {c : Catalog} (distinct : c.DistinctKeys) : ofJson? c.toJson = some c := by
  have hschemas := OrderedMap.map?_toJson distinct.schemas fun e he =>
    Schema.ofJson?_toJson (distinct.tables e he)
  have hread : ofJson? c.toJson = do
      let schemas ← Json.map? Schema.ofJson? (c.schemas.toJson Schema.toJson)
      return ⟨schemas, c.defaultSchema⟩ := rfl
  rw [hread, hschemas]
  rfl

theorem distinctKeys_of_ofJson? {j : Json} {c : Catalog} (h : ofJson? j = some c) :
    c.DistinctKeys := by
  obtain ⟨fields, -, h⟩ := Option.bind_eq_some_iff.1 h
  obtain ⟨schemas, hschemas, h⟩ := Option.bind_eq_some_iff.1 h
  obtain ⟨defaultSchema, -, h⟩ := Option.bind_eq_some_iff.1 h
  cases h
  obtain ⟨value, hvalue⟩ := Decoder.exists_of_required hschemas
  obtain ⟨hkeys, hvalues⟩ := OrderedMap.of_map?_eq_some hvalue
  refine ⟨hkeys, fun e he => ?_⟩
  obtain ⟨j, hj⟩ := hvalues e he
  exact Schema.distinctKeys_of_ofJson? hj

theorem numerals_toJson (c : Catalog) : c.toJson.Numerals :=
  ⟨OrderedMap.numerals_toJson fun e _ => e.2.numerals_toJson, trivial, trivial⟩

/-- A catalog that is saved is loaded again, whatever characters its texts hold. -/
theorem load_save (c : Catalog) (distinct : c.DistinctKeys) :
    (Json.parse? c.toJson.pretty).bind ofJson? = some c := by
  rw [Json.parse?_pretty c.numerals_toJson, Option.bind_some, ofJson?_toJson distinct]

/-- A table of another schema and a view, with quotes, backslashes, control characters and letters
beyond ASCII in keys and names. -/
def oddNames : Catalog :=
  let price : ColumnDef := ⟨"price \"net\"", "NUMERIC(8, 2)", false, true, some "0\\\n"⟩
  let size : ColumnDef := ⟨"größe", "", true, false, none⟩
  let orders : TableDef := ⟨⟨some "a\tb", "orders"⟩, .table, ⟨[("\x01", price), ("größe", size)]⟩⟩
  let recent : TableDef := ⟨⟨none, "文"⟩, .view, ⟨[("*", size)]⟩⟩
  ⟨⟨[("public", ⟨"public", ⟨[("文", recent), ("ORDERS", orders)]⟩⟩), ("", ⟨"", ⟨[]⟩⟩)]⟩, "public"⟩

theorem load_save_oddNames :
    oddNames.DistinctKeys ∧
      (Json.parse? oddNames.toJson.pretty).bind ofJson? = some oddNames :=
  ⟨by decide, load_save oddNames (by decide)⟩

end Catalog

end SqlAudit
