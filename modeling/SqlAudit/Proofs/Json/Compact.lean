import SqlAudit.Proofs.Json.RoundTrip

/-!
Values printed on one line are read back. The parts of an array or an object stand behind one another
with a comma between them and nothing else.
-/

namespace SqlAudit.Json

def onOneLine (parts : List String) : List Char := (",".intercalate parts).toList

theorem onOneLine_singleton (part : String) : onOneLine [part] = part.toList := by
  simp [onOneLine]

theorem onOneLine_cons (part : String) {parts : List String} (h : parts ≠ []) :
    onOneLine (part :: parts) = part.toList ++ ',' :: onOneLine parts := by
  rw [onOneLine, String.intercalate_cons_of_ne_nil h, onOneLine]
  simp

theorem compactItems_ne_nil {items : List Json} (h : items ≠ []) : compactItems items ≠ [] := by
  cases items with
  | nil => exact absurd rfl h
  | cons v vs =>
    rw [compactItems]
    exact List.cons_ne_nil _ _

theorem compactFields_ne_nil {fields : List (String × Json)} (h : fields ≠ []) :
    compactFields fields ≠ [] := by
  cases fields with
  | nil => exact absurd rfl h
  | cons f fs =>
    rw [compactFields]
    exact List.cons_ne_nil _ _

theorem toList_compact_array (items : List Json) :
    (compact (.array items)).toList = '[' :: (onOneLine (compactItems items) ++ [']']) := by
  rw [compact, onOneLine]
  simp

theorem toList_compact_object (fields : List (String × Json)) :
    (compact (.object fields)).toList = '\x7b' :: (onOneLine (compactFields fields) ++ ['\x7d']) := by
  rw [compact, onOneLine]
  simp

mutual

theorem value?_compact (j : Json) (numerals : Numerals j) (rest : List Char)
    (ends : EndsNumeral rest) (fuel : Nat) (enough : (compact j).toList.length < fuel) :
    value? fuel ((compact j).toList ++ rest) = some (j, rest) := by
  obtain ⟨fuel, rfl⟩ := exists_succ enough
  cases j with
  | null =>
    rw [compact]
    rfl
  | bool b =>
    rw [compact]
    cases b <;> rfl
  | number text =>
    rw [Numerals] at numerals
    rw [compact]
    exact value?_numeral numerals fuel ends
  | string s =>
    rw [compact, toList_quote, List.cons_append, List.append_assoc, List.singleton_append, value?,
      skipSpace_cons (by decide)]
    simp only [stringAfterQuote?_quote, Option.map_some]
  | array items =>
    by_cases hempty : items = []
    · rw [hempty, compact, compactItems]
      rfl
    rw [toList_compact_array] at enough ⊢
    rw [Numerals] at numerals
    have hitems := items?_compactItems items hempty numerals rest fuel (by simp at enough; omega)
    simpa using value?_array hitems
  | object fields =>
    by_cases hempty : fields = []
    · rw [hempty, compact, compactFields]
      rfl
    rw [toList_compact_object] at enough ⊢
    rw [Numerals] at numerals
    have hfields := fields?_compactFields fields hempty numerals rest fuel
      (by simp at enough; omega)
    simpa using value?_object hfields

theorem items?_compactItems (items : List Json) (nonempty : items ≠ []) (numerals : ItemNumerals items)
    (rest : List Char) (fuel : Nat) (enough : (onOneLine (compactItems items)).length + 1 < fuel) :
    items? fuel (onOneLine (compactItems items) ++ ']' :: rest) = some (items, rest) := by
  obtain ⟨fuel, rfl⟩ := exists_succ enough
  cases items with
  | nil => exact absurd rfl nonempty
  | cons v vs =>
    rw [ItemNumerals] at numerals
    have hvalue := value?_compact v numerals.1
    by_cases hlast : vs = []
    · rw [hlast, compactItems, compactItems, onOneLine_singleton] at enough ⊢
      exact items?_last (w := []) (isSpaces_of_all rfl)
        (hvalue _ (endsNumeral_cons (by decide) rest) fuel (by omega))
    have hmore := items?_compactItems vs hlast numerals.2 rest fuel
    rw [compactItems, onOneLine_cons _ (compactItems_ne_nil hlast)] at enough ⊢
    simp only [List.length_append, List.length_cons] at enough
    rw [List.append_assoc, List.cons_append]
    exact items?_more (hvalue _ (endsNumeral_cons (by decide) _) fuel (by omega))
      (hmore (by omega))

theorem fields?_compactFields (fields : List (String × Json)) (nonempty : fields ≠ [])
    (numerals : FieldNumerals fields) (rest : List Char) (fuel : Nat)
    (enough : (onOneLine (compactFields fields)).length + 1 < fuel) :
    fields? fuel (onOneLine (compactFields fields) ++ '\x7d' :: rest) = some (fields, rest) := by
  obtain ⟨fuel, rfl⟩ := exists_succ enough
  cases fields with
  | nil => exact absurd rfl nonempty
  | cons f fs =>
    obtain ⟨k, v⟩ := f
    rw [FieldNumerals] at numerals
    have hcolon : (quote k ++ ":" ++ compact v).toList =
        (quote k).toList ++ ':' :: (compact v).toList := by
      simp
    have hvalue := value?_compact v numerals.1
    by_cases hlast : fs = []
    · rw [hlast, compactFields, compactFields, onOneLine_singleton, hcolon] at enough ⊢
      simp only [List.length_append, List.length_cons] at enough
      rw [List.append_assoc, List.cons_append]
      exact fields?_last (w := []) k (isSpaces_of_all rfl)
        (hvalue _ (endsNumeral_cons (by decide) rest) fuel (by omega))
    have hmore := fields?_compactFields fs hlast numerals.2 rest fuel
    rw [compactFields, onOneLine_cons _ (compactFields_ne_nil hlast), hcolon] at enough ⊢
    simp only [List.length_append, List.length_cons] at enough
    rw [List.append_assoc, List.append_assoc, List.cons_append, List.cons_append]
    exact fields?_more k (hvalue _ (endsNumeral_cons (by decide) _) fuel (by omega))
      (hmore (by omega))

end

/-- A value whose numbers are numerals is read back from the line it is printed on. -/
theorem parse?_compact {j : Json} (numerals : Numerals j) : parse? j.compact = some j := by
  have hread := value?_compact j numerals [] endsNumeral_nil (j.compact.toList.length + 1)
    (Nat.lt_succ_self _)
  rw [List.append_nil] at hread
  simp only [parse?, hread]
  rfl

end SqlAudit.Json
