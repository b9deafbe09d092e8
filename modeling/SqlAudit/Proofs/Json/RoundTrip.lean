import SqlAudit.Proofs.Json.Text

/-!
Values printed over several lines are read back. The induction follows the printer; the reader needs
no more steps than the printed text has characters.
-/

namespace SqlAudit.Json

mutual

/-- Whether all numbers of a value are written as numbers are read. -/
def Numerals : Json → Prop
  | null => True
  | bool _ => True
  | number text => IsNumeral text
  | string _ => True
  | array items => ItemNumerals items
  | object fields => FieldNumerals fields

def ItemNumerals : List Json → Prop
  | [] => True
  | v :: vs => Numerals v ∧ ItemNumerals vs

def FieldNumerals : List (String × Json) → Prop
  | [] => True
  | (_, v) :: fs => Numerals v ∧ FieldNumerals fs

end

def onLines (margin : String) (parts : List String) : List Char :=
  (("," ++ ("\n" ++ margin)).intercalate parts).toList

theorem onLines_singleton (margin part : String) : onLines margin [part] = part.toList := by
  simp [onLines]

theorem onLines_cons (margin part : String) {parts : List String} (h : parts ≠ []) :
    onLines margin (part :: parts) =
      part.toList ++ ',' :: ('\n' :: margin.toList ++ onLines margin parts) := by
  rw [onLines, String.intercalate_cons_of_ne_nil h, onLines]
  simp

theorem toList_block_nil (opening closing margin : String) :
    (block opening closing margin []).toList = opening.toList ++ closing.toList := by
  rw [block, String.toList_append]

theorem toList_block (opening closing margin : String) {parts : List String} (h : parts ≠ []) :
    (block opening closing margin parts).toList =
      opening.toList ++ ('\n' :: (margin ++ "  ").toList ++ (onLines (margin ++ "  ") parts ++
        ('\n' :: margin.toList ++ closing.toList))) := by
  cases parts with
  | nil => exact absurd rfl h
  | cons part parts => simp [block, onLines]

theorem isSpaces_newline {margin : String} (h : IsSpaces margin.toList) :
    IsSpaces ('\n' :: margin.toList) := by
  rw [IsSpaces, List.forall_mem_cons]
  exact ⟨by decide, h⟩

theorem isSpaces_inner {margin : String} (h : IsSpaces margin.toList) :
    IsSpaces (margin ++ "  ").toList := by
  rw [String.toList_append, IsSpaces, List.forall_mem_append]
  exact ⟨h, isSpaces_of_all rfl⟩

theorem prettyItems_ne_nil (margin : String) {items : List Json} (h : items ≠ []) :
    prettyItems margin items ≠ [] := by
  cases items with
  | nil => exact absurd rfl h
  | cons v vs =>
    rw [prettyItems]
    exact List.cons_ne_nil _ _

theorem prettyFields_ne_nil (margin : String) {fields : List (String × Json)} (h : fields ≠ []) :
    prettyFields margin fields ≠ [] := by
  cases fields with
  | nil => exact absurd rfl h
  | cons f fs =>
    rw [prettyFields]
    exact List.cons_ne_nil _ _

theorem exists_succ {n fuel : Nat} (h : n < fuel) : ∃ k, fuel = k + 1 :=
  Nat.exists_eq_succ_of_ne_zero (Nat.ne_of_gt (Nat.zero_lt_of_lt h))

mutual

theorem value?_prettyAt (j : Json) (numerals : Numerals j) (margin : String)
    (spaces : IsSpaces margin.toList) (rest : List Char) (ends : EndsNumeral rest) (fuel : Nat)
    (enough : (prettyAt margin j).toList.length < fuel) :
    value? fuel ((prettyAt margin j).toList ++ rest) = some (j, rest) := by
  obtain ⟨fuel, rfl⟩ := exists_succ enough
  cases j with
  | null =>
    rw [prettyAt]
    rfl
  | bool b =>
    rw [prettyAt]
    cases b <;> rfl
  | number text =>
    rw [Numerals] at numerals
    rw [prettyAt]
    exact value?_numeral numerals fuel ends
  | string s =>
    rw [prettyAt, toList_quote, List.cons_append, List.append_assoc, List.singleton_append, value?,
      skipSpace_cons (by decide)]
    simp only [stringAfterQuote?_quote, Option.map_some]
  | array items =>
    rw [prettyAt] at enough ⊢
    by_cases hempty : items = []
    · rw [hempty, prettyItems, toList_block_nil]
      rfl
    rw [toList_block _ _ _ (prettyItems_ne_nil _ hempty)] at enough ⊢
    rw [Numerals] at numerals
    have hitems := items?_prettyItems items hempty numerals (margin ++ "  ") (isSpaces_inner spaces)
      ('\n' :: margin.toList) rest (isSpaces_newline spaces) fuel (by simp at enough; omega)
    have hblank := isSpaces_newline (isSpaces_inner spaces)
    rw [← items?_append hblank] at hitems
    simpa using value?_array hitems
  | object fields =>
    rw [prettyAt] at enough ⊢
    by_cases hempty : fields = []
    · rw [hempty, prettyFields, toList_block_nil]
      rfl
    rw [toList_block _ _ _ (prettyFields_ne_nil _ hempty)] at enough ⊢
    rw [Numerals] at numerals
    have hfields := fields?_prettyFields fields hempty numerals (margin ++ "  ")
      (isSpaces_inner spaces) ('\n' :: margin.toList) rest (isSpaces_newline spaces) fuel
      (by simp at enough; omega)
    have hblank := isSpaces_newline (isSpaces_inner spaces)
    rw [← fields?_append hblank] at hfields
    simpa using value?_object hfields

theorem items?_prettyItems (items : List Json) (nonempty : items ≠ []) (numerals : ItemNumerals items)
    (margin : String) (spaces : IsSpaces margin.toList) (w rest : List Char) (blank : IsSpaces w)
    (fuel : Nat) (enough : (onLines margin (prettyItems margin items)).length + 1 < fuel) :
    items? fuel (onLines margin (prettyItems margin items) ++ (w ++ ']' :: rest)) =
      some (items, rest) := by
  obtain ⟨fuel, rfl⟩ := exists_succ enough
  cases items with
  | nil => exact absurd rfl nonempty
  | cons v vs =>
    rw [ItemNumerals] at numerals
    have hvalue := value?_prettyAt v numerals.1 margin spaces
    by_cases hlast : vs = []
    · rw [hlast, prettyItems, prettyItems, onLines_singleton] at enough ⊢
      exact items?_last blank
        (hvalue _ (endsNumeral_spaces blank (by decide) rest) fuel (by omega))
    have hmore := items?_prettyItems vs hlast numerals.2 margin spaces w rest blank fuel
    rw [prettyItems, onLines_cons _ _ (prettyItems_ne_nil _ hlast)] at enough ⊢
    simp only [List.length_append, List.length_cons] at enough
    have hitems := hmore (by omega)
    rw [← items?_append (isSpaces_newline spaces)] at hitems
    simp only [List.append_assoc, List.cons_append] at hitems ⊢
    exact items?_more (hvalue _ (endsNumeral_cons (by decide) _) fuel (by omega)) hitems

theorem fields?_prettyFields (fields : List (String × Json)) (nonempty : fields ≠ [])
    (numerals : FieldNumerals fields) (margin : String) (spaces : IsSpaces margin.toList)
    (w rest : List Char) (blank : IsSpaces w) (fuel : Nat)
    (enough : (onLines margin (prettyFields margin fields)).length + 1 < fuel) :
    fields? fuel (onLines margin (prettyFields margin fields) ++ (w ++ '\x7d' :: rest)) =
      some (fields, rest) := by
  obtain ⟨fuel, rfl⟩ := exists_succ enough
  cases fields with
  | nil => exact absurd rfl nonempty
  | cons f fs =>
    obtain ⟨k, v⟩ := f
    rw [FieldNumerals] at numerals
    have hcolon : (quote k ++ ": " ++ prettyAt margin v).toList =
        (quote k).toList ++ ':' :: ' ' :: (prettyAt margin v).toList := by
      simp
    have hspace : ∀ s, value? fuel (' ' :: s) = value? fuel s :=
      value?_append (w := [' ']) (isSpaces_of_all rfl) fuel
    have hvalue := value?_prettyAt v numerals.1 margin spaces
    by_cases hlast : fs = []
    · rw [hlast, prettyFields, prettyFields, onLines_singleton, hcolon] at enough ⊢
      simp only [List.length_append, List.length_cons] at enough
      simp only [List.append_assoc, List.cons_append]
      refine fields?_last k blank ?_
      rw [hspace]
      exact hvalue _ (endsNumeral_spaces blank (by decide) rest) fuel (by omega)
    have hmore := fields?_prettyFields fs hlast numerals.2 margin spaces w rest blank fuel
    rw [prettyFields, onLines_cons _ _ (prettyFields_ne_nil _ hlast), hcolon] at enough ⊢
    simp only [List.length_append, List.length_cons] at enough
    have hfields := hmore (by omega)
    rw [← fields?_append (isSpaces_newline spaces)] at hfields
    simp only [List.append_assoc, List.cons_append] at hfields ⊢
    refine fields?_more k ?_ hfields
    rw [hspace]
    exact hvalue _ (endsNumeral_cons (by decide) _) fuel (by omega)

end

/-- A value whose numbers are numerals is read back from the text it is printed as. -/
theorem parse?_pretty {j : Json} (numerals : Numerals j) : parse? j.pretty = some j := by
  have hread := value?_prettyAt j numerals "" (isSpaces_of_all rfl) [] endsNumeral_nil
    (j.pretty.toList.length + 1) (Nat.lt_succ_self _)
  rw [List.append_nil] at hread
  rw [parse?, pretty]
  rw [pretty] at hread
  simp only [hread]
  rfl

end SqlAudit.Json
