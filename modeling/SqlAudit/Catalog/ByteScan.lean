import SqlAudit.Text.Letter

/-!
Cutting a script on the bytes of its UTF-8 form, by their indices. A text can be sliced only between two
of its characters; the scan has no result if it ever slices at an index within a character or outside
the text.
-/

namespace SqlAudit.Catalog.ByteScan

open Text

def slice? (text : String) (start stop : Nat) : Option String :=
  if start ≤ stop ∧ String.Pos.Raw.isValid text ⟨start⟩ ∧ String.Pos.Raw.isValid text ⟨stop⟩ then
    some (String.Pos.Raw.extract text ⟨start⟩ ⟨stop⟩)
  else none

def isTagByte (b : UInt8) : Bool := (Char.ofUInt8 b).isAlphanum || Char.ofUInt8 b == '_'

def skipWhile (test : UInt8 → Bool) (bytes : ByteArray) (i : Nat) : Nat :=
  if h : i < bytes.size then if test bytes[i] then skipWhile test bytes (i + 1) else i else i

/-- The index behind the rest of a quoted text; a doubled quote closes nothing. -/
def quotedEnd (quote : UInt8) (bytes : ByteArray) (i : Nat) : Nat :=
  if h : i < bytes.size then
    if bytes[i] = quote then
      if bytes[i + 1]? = some quote then quotedEnd quote bytes (i + 2) else i + 1
    else quotedEnd quote bytes (i + 1)
  else i

def commentEnd (bytes : ByteArray) (i : Nat) : Nat :=
  if h : i + 1 < bytes.size then
    if bytes[i] = '*'.toUInt8 ∧ bytes[i + 1] = '/'.toUInt8 then i + 2 else commentEnd bytes (i + 1)
  else i

/-- The index of the dollar sign that ends the tag which begins with the one at `i`. -/
def tagEnd? (bytes : ByteArray) (i : Nat) : Option Nat :=
  let stop := skipWhile isTagByte bytes (i + 1)
  if bytes[stop]? = some '$'.toUInt8 then some stop else none

def offset? (tag : List Char) : List Char → Option Nat
  | [] => none
  | c :: rest =>
    if tag.isPrefixOf (c :: rest) then some 0 else (offset? tag rest).map (· + c.utf8Size)

def taggedEnd? (text : String) (i : Nat) : Option Nat :=
  match tagEnd? text.toUTF8 i with
  | none => some (i + 1)
  | some last => do
    let tag ← slice? text i (last + 1)
    let rest ← slice? text (last + 1) text.utf8ByteSize
    match offset? tag.toList rest.toList with
    | some offset => return last + 1 + offset + tag.utf8ByteSize
    | none => return text.utf8ByteSize

/-- The index behind the text or comment that the byte `b` at `i` opens, or behind that byte. -/
def unitEnd? (text : String) (b : UInt8) (i : Nat) : Option Nat :=
  let bytes := text.toUTF8
  if b = '\x27'.toUInt8 ∨ b = '"'.toUInt8 ∨ b = '\x60'.toUInt8 then some (quotedEnd b bytes (i + 1))
  else if b = '$'.toUInt8 then taggedEnd? text i
  else if b = '-'.toUInt8 ∧ bytes[i + 1]? = some '-'.toUInt8 then
    some (skipWhile (· != '\n'.toUInt8) bytes i)
  else if b = '/'.toUInt8 ∧ bytes[i + 1]? = some '*'.toUInt8 then some (commentEnd bytes (i + 2))
  else some (i + 1)

theorem le_skipWhile (test : UInt8 → Bool) (bytes : ByteArray) (i : Nat) :
    i ≤ skipWhile test bytes i := by
  fun_induction skipWhile test bytes i with
  | case1 i h test ih => omega
  | case2 | case3 => exact Nat.le_refl _

theorem le_quotedEnd (quote : UInt8) (bytes : ByteArray) (i : Nat) :
    i ≤ quotedEnd quote bytes i := by
  fun_induction quotedEnd quote bytes i <;> omega

theorem le_commentEnd (bytes : ByteArray) (i : Nat) : i ≤ commentEnd bytes i := by
  fun_induction commentEnd bytes i <;> omega

theorem lt_of_tagEnd? {bytes : ByteArray} {i last : Nat} (h : tagEnd? bytes i = some last) :
    i < last := by
  simp only [tagEnd?, Option.ite_none_right_eq_some, Option.some.injEq] at h
  have hle := le_skipWhile isTagByte bytes (i + 1)
  omega

theorem lt_of_taggedEnd? {text : String} {i next : Nat} (inside : i < text.utf8ByteSize)
    (h : taggedEnd? text i = some next) : i < next := by
  rw [taggedEnd?] at h
  split at h
  next =>
    cases h
    exact Nat.lt_succ_self i
  next last hlast =>
    have hlt := lt_of_tagEnd? hlast
    simp only [Option.bind_eq_bind, Option.bind_eq_some_iff] at h
    obtain ⟨tag, -, rest, -, h⟩ := h
    split at h <;> cases h <;> omega

theorem lt_of_unitEnd? {text : String} {i next : Nat} {b : UInt8} (hb : text.toUTF8[i]? = some b)
    (h : unitEnd? text b i = some next) : i < next := by
  obtain ⟨inside, hbyte⟩ := getElem?_eq_some_iff.1 hb
  rw [unitEnd?] at h
  split at h
  next =>
    cases h
    exact le_quotedEnd b text.toUTF8 (i + 1)
  next =>
    split at h
    next => exact lt_of_taggedEnd? inside h
    next =>
      split at h
      next hline =>
        -- The first of the two hyphens does not end the line.
        cases h
        rw [skipWhile, dif_pos inside, hbyte, hline.1, if_pos (by decide)]
        exact le_skipWhile _ text.toUTF8 (i + 1)
      next =>
        split at h <;> cases h
        · have hle := le_commentEnd text.toUTF8 (i + 2)
          omega
        · exact Nat.lt_succ_self i

/-- The statements from a start on, the bytes before `i` being read already. -/
def scan (text : String) (start i : Nat) : Option (List String) :=
  if h : i < text.toUTF8.size then
    if text.toUTF8[i] = ';'.toUInt8 then do
      let piece ← slice? text start i
      let pieces ← scan text (i + 1) (i + 1)
      return if isBlankText piece.toList then pieces else piece :: pieces
    else
      match hnext : unitEnd? text text.toUTF8[i] i with
      | some next => scan text start next
      | none => none
  else do
    let piece ← slice? text start text.utf8ByteSize
    return if isBlankText piece.toList then [] else [piece]
termination_by text.toUTF8.size - i
decreasing_by
  · omega
  · have hlt := lt_of_unitEnd? (getElem?_pos text.toUTF8 i h) hnext
    omega

def pieces? (text : String) : Option (List String) := scan text 0 0

end SqlAudit.Catalog.ByteScan
