import Mathlib.Data.List.Basic
import SqlAudit.Json.Parse
import SqlAudit.Json.Print

/-!
Reading JSON that has been written. A string is read back whatever characters it holds, and a value
is read back from the lines it is printed on, if its numbers are written as numbers are read.
-/

namespace SqlAudit.Json

/-! ### Strings -/

theorem hexValue?_hexDigit : ∀ n < 16, hexValue? (hexDigit n) = some n := by decide

theorem escape?_control {c : Char} (h : c.toNat < 0x20) (rest : List Char) :
    escape? ('u' :: '0' :: '0' :: hexDigit (c.toNat / 16) :: hexDigit (c.toNat % 16) :: rest) =
      some (c, rest) := by
  have hzero : hexValue? '0' = some 0 := by decide
  have hhigh := hexValue?_hexDigit (c.toNat / 16) (by omega)
  have hlow := hexValue?_hexDigit (c.toNat % 16) (by omega)
  have hcode : ((0 * 16 + 0) * 16 + c.toNat / 16) * 16 + c.toNat % 16 = c.toNat := by omega
  have hunit : unit? ('0' :: '0' :: hexDigit (c.toNat / 16) :: hexDigit (c.toNat % 16) :: rest) =
      some (c.toNat, rest) := by
    simp only [unit?, hzero, hhigh, hlow, hcode]
  have hnotLow : (decide (0xDC00 ≤ c.toNat) && decide (c.toNat ≤ 0xDFFF)) = false := by
    simp only [Bool.and_eq_false_iff, decide_eq_false_iff_not]
    omega
  have hnotHigh : (decide (0xD800 ≤ c.toNat) && decide (c.toNat ≤ 0xDBFF)) = false := by
    simp only [Bool.and_eq_false_iff, decide_eq_false_iff_not]
    omega
  simp only [escape?, unicodeEscape?, hunit, hnotLow, hnotHigh, Bool.false_eq_true, if_false,
    Char.ofNat_toNat]

theorem stringBody?_escape {c : Char} {w : List Char} (fuel : Nat) (rest : List Char)
    (h : escape? (w ++ rest) = some (c, rest)) :
    stringBody? (fuel + 1) ('\\' :: (w ++ rest)) =
      (stringBody? fuel rest).map fun r => (c :: r.1, r.2) := by
  simp [stringBody?, h]

theorem stringBody?_escapeChar (c : Char) (fuel : Nat) (rest : List Char) :
    stringBody? (fuel + 1) (escapeChar c ++ rest) =
      (stringBody? fuel rest).map fun r => (c :: r.1, r.2) := by
  unfold escapeChar
  split
  · exact stringBody?_escape (w := ['"']) fuel rest rfl
  · exact stringBody?_escape (w := ['\\']) fuel rest rfl
  · exact stringBody?_escape (w := ['n']) fuel rest rfl
  · exact stringBody?_escape (w := ['r']) fuel rest rfl
  · exact stringBody?_escape (w := ['t']) fuel rest rfl
  next hquote hslash _ _ _ =>
    split
    next h =>
      obtain rfl : c = '\x08' := Char.toNat_inj.1 h
      exact stringBody?_escape (w := ['b']) fuel rest rfl
    next =>
      split
      next h =>
        obtain rfl : c = '\x0c' := Char.toNat_inj.1 h
        exact stringBody?_escape (w := ['f']) fuel rest rfl
      next =>
        split
        next h =>
          exact stringBody?_escape
            (w := ['u', '0', '0', hexDigit (c.toNat / 16), hexDigit (c.toNat % 16)]) fuel rest
            (escape?_control h rest)
        next h =>
          rw [List.singleton_append, stringBody?, if_neg hquote, if_neg hslash, if_neg h]

theorem stringBody?_escapeChars (s rest : List Char) {fuel : Nat} (h : s.length < fuel) :
    stringBody? fuel (escapeChars s ++ '"' :: rest) = some (s, rest) := by
  induction s generalizing fuel with
  | nil =>
    obtain ⟨fuel, rfl⟩ := Nat.exists_eq_succ_of_ne_zero (Nat.ne_of_gt h)
    simp [escapeChars, stringBody?]
  | cons c s ih =>
    obtain ⟨fuel, rfl⟩ := Nat.exists_eq_succ_of_ne_zero (Nat.ne_of_gt (Nat.zero_lt_of_lt h))
    have hrest := ih (Nat.lt_of_succ_lt_succ h)
    rw [escapeChars, List.flatMap_cons, List.append_assoc, stringBody?_escapeChar]
    rw [escapeChars] at hrest
    rw [hrest, Option.map_some]

theorem escapeChar_ne_nil (c : Char) : escapeChar c ≠ [] := by
  unfold escapeChar
  split <;> try exact List.cons_ne_nil _ _
  split_ifs <;> exact List.cons_ne_nil _ _

theorem length_le_escapeChars (s : List Char) : s.length ≤ (escapeChars s).length := by
  induction s with
  | nil => exact Nat.zero_le _
  | cons c s ih =>
    have hc := List.length_pos_of_ne_nil (escapeChar_ne_nil c)
    rw [escapeChars] at ih ⊢
    rw [List.flatMap_cons, List.length_append, List.length_cons]
    omega

theorem toList_quote (s : String) :
    (quote s).toList = '"' :: (escapeChars s.toList ++ ['"']) := by
  simp [quote]

theorem stringAfterQuote?_quote (s : String) (rest : List Char) :
    stringAfterQuote? (escapeChars s.toList ++ '"' :: rest) = some (s, rest) := by
  have hlength := length_le_escapeChars s.toList
  rw [stringAfterQuote?, stringBody?_escapeChars s.toList rest, Option.map_some,
    String.ofList_toList]
  rw [List.length_append]
  omega

/-! ### Blanks -/

def IsSpaces (w : List Char) : Prop := ∀ c ∈ w, isSpace c = true

theorem isSpaces_of_all {w : List Char} (h : w.all isSpace = true) : IsSpaces w :=
  List.all_eq_true.1 h

theorem skipSpace_append {w : List Char} (h : IsSpaces w) (s : List Char) :
    skipSpace (w ++ s) = skipSpace s := by
  rw [skipSpace, List.dropWhile_append_of_pos h, skipSpace]

theorem skipSpace_cons {c : Char} (h : isSpace c = false) (s : List Char) :
    skipSpace (c :: s) = c :: s := by
  rw [skipSpace, List.dropWhile_cons, h]
  rfl

theorem value?_append {w : List Char} (h : IsSpaces w) (fuel : Nat) (s : List Char) :
    value? fuel (w ++ s) = value? fuel s := by
  cases fuel with
  | zero => rfl
  | succ fuel => rw [value?, value?, skipSpace_append h]

theorem items?_append {w : List Char} (h : IsSpaces w) (fuel : Nat) (s : List Char) :
    items? fuel (w ++ s) = items? fuel s := by
  cases fuel with
  | zero => rfl
  | succ fuel => rw [items?, items?, value?_append h]

theorem fields?_append {w : List Char} (h : IsSpaces w) (fuel : Nat) (s : List Char) :
    fields? fuel (w ++ s) = fields? fuel s := by
  cases fuel with
  | zero => rfl
  | succ fuel => rw [fields?, fields?, skipSpace_append h]

/-! ### Numbers -/

def continuesNumeral (c : Char) : Bool := c.isDigit || c == '.' || c == 'e' || c == 'E'

/-- What stands after a number does not belong to it. -/
def EndsNumeral (rest : List Char) : Prop := ∀ c ∈ rest.head?, continuesNumeral c = false

/-- A text that is read as a number, whatever follows it. -/
structure IsNumeral (text : String) : Prop where
  starts : ∃ c ∈ text.toList.head?, c = '-' ∨ c.isDigit = true
  read : ∀ rest, EndsNumeral rest → number? (text.toList ++ rest) = some (text, rest)

theorem value?_numeral {text : String} (h : IsNumeral text) (fuel : Nat) {rest : List Char}
    (ends : EndsNumeral rest) :
    value? (fuel + 1) (text.toList ++ rest) = some (.number text, rest) := by
  have hread := h.read rest ends
  obtain ⟨c, hc, hstart⟩ := h.starts
  obtain ⟨cs, hcs⟩ : ∃ cs, text.toList = c :: cs := by
    cases htext : text.toList with
    | nil => rw [htext] at hc; cases hc
    | cons d cs =>
      rw [htext] at hc
      exact ⟨cs, by rw [Option.mem_some.1 hc]⟩
  rw [hcs, List.cons_append] at hread ⊢
  have hother : ∀ d, d ≠ '-' → d.isDigit = false → c ≠ d := by
    rintro d hsign hdigit rfl
    rcases hstart with h | h
    · exact hsign h
    · rw [hdigit] at h
      cases h
  have hspace : isSpace c = false := by
    simp only [isSpace, Bool.or_eq_false_iff, beq_eq_false_iff_ne]
    exact ⟨⟨⟨hother _ (by decide) (by decide), hother _ (by decide) (by decide)⟩,
      hother _ (by decide) (by decide)⟩, hother _ (by decide) (by decide)⟩
  rw [value?, skipSpace_cons hspace]
  split
  case h_7 => rw [hread, Option.map_some]
  all_goals
    next hcons =>
      exact absurd (List.cons.inj hcons).1 (hother _ (by decide) (by decide))

theorem endsNumeral_nil : EndsNumeral [] := fun _ hc => nomatch hc

theorem endsNumeral_cons {c : Char} (h : continuesNumeral c = false) (rest : List Char) :
    EndsNumeral (c :: rest) := by
  intro d hd
  rwa [← Option.mem_some.1 hd]

theorem continuesNumeral_of_isSpace {c : Char} (h : isSpace c = true) :
    continuesNumeral c = false := by
  simp only [isSpace, Bool.or_eq_true, beq_iff_eq] at h
  rcases h with ((rfl | rfl) | rfl) | rfl <;> decide

theorem endsNumeral_spaces {w : List Char} (blank : IsSpaces w) {c : Char}
    (h : continuesNumeral c = false) (rest : List Char) : EndsNumeral (w ++ c :: rest) := by
  cases w with
  | nil => exact endsNumeral_cons h rest
  | cons d w =>
    exact endsNumeral_cons (continuesNumeral_of_isSpace (blank d List.mem_cons_self)) _

/-! ### Arrays and objects -/

theorem isSpaces_takeWhile (s : List Char) : IsSpaces (s.takeWhile isSpace) :=
  isSpaces_of_all List.all_takeWhile

theorem items?_skipSpace (fuel : Nat) (s : List Char) :
    items? fuel (skipSpace s) = items? fuel s := by
  rw [← items?_append (isSpaces_takeWhile s) fuel (skipSpace s), skipSpace,
    List.takeWhile_append_dropWhile]

theorem fields?_skipSpace (fuel : Nat) (s : List Char) :
    fields? fuel (skipSpace s) = fields? fuel s := by
  rw [← fields?_append (isSpaces_takeWhile s) fuel (skipSpace s), skipSpace,
    List.takeWhile_append_dropWhile]

theorem items?_bracket (fuel : Nat) (s : List Char) : items? fuel (']' :: s) = none := by
  match fuel with
  | 0 => rfl
  | 1 => rfl
  | fuel + 2 => rfl

theorem fields?_brace (fuel : Nat) (s : List Char) : fields? fuel ('\x7d' :: s) = none := by
  match fuel with
  | 0 => rfl
  | fuel + 1 => rfl

theorem value?_array {fuel : Nat} {s rest : List Char} {vs : List Json}
    (h : items? fuel s = some (vs, rest)) :
    value? (fuel + 1) ('[' :: s) = some (.array vs, rest) := by
  rw [← items?_skipSpace] at h
  have hskip : skipSpace ('[' :: s) = '[' :: s := skipSpace_cons (by decide) s
  simp only [value?, hskip]
  split
  next hs =>
    rw [hs, items?_bracket] at h
    cases h
  next => rw [h, Option.map_some]

theorem value?_object {fuel : Nat} {s rest : List Char} {fs : List (String × Json)}
    (h : fields? fuel s = some (fs, rest)) :
    value? (fuel + 1) ('\x7b' :: s) = some (.object fs, rest) := by
  rw [← fields?_skipSpace] at h
  have hskip : skipSpace ('\x7b' :: s) = '\x7b' :: s := skipSpace_cons (by decide) s
  simp only [value?, hskip]
  split
  next hs =>
    rw [hs, fields?_brace] at h
    cases h
  next => rw [h, Option.map_some]

theorem items?_last {fuel : Nat} {s w rest : List Char} {v : Json} (blank : IsSpaces w)
    (h : value? fuel s = some (v, w ++ ']' :: rest)) : items? (fuel + 1) s = some ([v], rest) := by
  have hskip : skipSpace (w ++ ']' :: rest) = ']' :: rest := by
    rw [skipSpace_append blank, skipSpace_cons (by decide)]
  simp only [items?, h, hskip]

theorem items?_more {fuel : Nat} {s s' rest : List Char} {v : Json} {vs : List Json}
    (h : value? fuel s = some (v, ',' :: s')) (more : items? fuel s' = some (vs, rest)) :
    items? (fuel + 1) s = some (v :: vs, rest) := by
  have hskip : skipSpace (',' :: s') = ',' :: s' := skipSpace_cons (by decide) s'
  simp only [items?, h, hskip, more, Option.map_some]

theorem quote_append (k : String) (s : List Char) :
    (quote k).toList ++ ':' :: s = '"' :: (escapeChars k.toList ++ '"' :: ':' :: s) := by
  rw [toList_quote, List.cons_append, List.append_assoc, List.singleton_append]

theorem skipSpace_quote (s : List Char) : skipSpace ('"' :: s) = '"' :: s :=
  skipSpace_cons (by decide) s

theorem skipSpace_colon (s : List Char) : skipSpace (':' :: s) = ':' :: s :=
  skipSpace_cons (by decide) s

theorem fields?_last {fuel : Nat} {s w rest : List Char} {v : Json} (k : String)
    (blank : IsSpaces w) (h : value? fuel s = some (v, w ++ '\x7d' :: rest)) :
    fields? (fuel + 1) ((quote k).toList ++ ':' :: s) = some ([(k, v)], rest) := by
  have hskip : skipSpace (w ++ '\x7d' :: rest) = '\x7d' :: rest := by
    rw [skipSpace_append blank, skipSpace_cons (by decide)]
  simp only [quote_append, fields?, skipSpace_quote, stringAfterQuote?_quote, skipSpace_colon, h,
    hskip]

theorem fields?_more {fuel : Nat} {s s' rest : List Char} {v : Json} {fs : List (String × Json)}
    (k : String) (h : value? fuel s = some (v, ',' :: s'))
    (more : fields? fuel s' = some (fs, rest)) :
    fields? (fuel + 1) ((quote k).toList ++ ':' :: s) = some ((k, v) :: fs, rest) := by
  have hskip : skipSpace (',' :: s') = ',' :: s' := skipSpace_cons (by decide) s'
  simp only [quote_append, fields?, skipSpace_quote, stringAfterQuote?_quote, skipSpace_colon, h,
    hskip, more, Option.map_some]

end SqlAudit.Json
