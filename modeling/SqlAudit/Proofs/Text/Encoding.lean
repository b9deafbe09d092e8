import Mathlib.Data.String.Basic

/-!
The bytes of a text. A character of ASCII is one byte; the bytes of the others are at least 128, so that
the byte of an ASCII character is found nowhere else.
-/

namespace SqlAudit.Text

/-! ### The UTF-8 form of a text -/

def encode (s : List Char) : List UInt8 := s.flatMap String.utf8EncodeChar

theorem encode_cons (c : Char) (s : List Char) :
    encode (c :: s) = String.utf8EncodeChar c ++ encode s := List.flatMap_cons

theorem encode_append (s t : List Char) : encode (s ++ t) = encode s ++ encode t :=
  List.flatMap_append

theorem encode_singleton (c : Char) : encode [c] = String.utf8EncodeChar c :=
  List.flatMap_singleton ..

theorem toList_toUTF8 (text : String) : text.toUTF8.data.toList = encode text.toList := by
  conv => lhs; rw [← String.ofList_toList (s := text)]
  rw [String.toUTF8_eq_toByteArray, String.toByteArray_ofList, List.utf8Encode,
    List.toList_data_toByteArray]
  rfl

theorem length_encode (s : List Char) : (encode s).length = String.utf8Len s := by
  induction s with
  | nil => rfl
  | cons c s ih =>
    rw [encode_cons, List.length_append, ih, String.length_utf8EncodeChar, String.utf8Len_cons,
      Nat.add_comm]

theorem utf8ByteSize_eq (s : String) : s.utf8ByteSize = (encode s.toList).length := by
  rw [length_encode, ← String.utf8ByteSize_ofList, String.ofList_toList]

theorem utf8EncodeChar_of_ascii {c : Char} (h : c.toNat < 128) :
    String.utf8EncodeChar c = [c.toUInt8] :=
  String.utf8EncodeChar_eq_singleton (Char.utf8Size_eq_one_iff.2 (Nat.le_of_lt_succ h))

theorem high_of_not_ascii {c : Char} (h : ¬ c.toNat < 128) {b : UInt8}
    (hb : b ∈ String.utf8EncodeChar c) : 128 ≤ b.toNat := by
  have hv : ¬ c.val.toNat ≤ 127 := fun hle => h (Nat.lt_succ_of_le hle)
  simp only [String.utf8EncodeChar, if_neg hv] at hb
  split at hb
  · simp only [List.mem_cons, List.not_mem_nil, or_false] at hb
    rcases hb with rfl | rfl <;> rw [UInt8.toNat_ofNat'] <;> omega
  · split at hb
    · simp only [List.mem_cons, List.not_mem_nil, or_false] at hb
      rcases hb with rfl | rfl | rfl <;> rw [UInt8.toNat_ofNat'] <;> omega
    · simp only [List.mem_cons, List.not_mem_nil, or_false] at hb
      rcases hb with rfl | rfl | rfl | rfl <;> rw [UInt8.toNat_ofNat'] <;> omega

theorem toNat_toUInt8 {a : Char} (ascii : a.toNat < 128) : a.toUInt8.toNat = a.toNat := by
  have hmod : a.toUInt8.toNat = a.toNat % 256 := rfl
  omega

theorem eq_toUInt8_iff {a c : Char} (ascii : a.toNat < 128) {b : UInt8}
    (hb : b ∈ String.utf8EncodeChar c) : b = a.toUInt8 ↔ c = a := by
  by_cases hc : c.toNat < 128
  · rw [utf8EncodeChar_of_ascii hc, List.mem_singleton] at hb
    rw [hb, ← UInt8.toNat_inj, toNat_toUInt8 hc, toNat_toUInt8 ascii]
    exact Char.toNat_inj
  · have high := high_of_not_ascii hc hb
    constructor
    · rintro rfl
      rw [toNat_toUInt8 ascii] at high
      omega
    · rintro rfl
      exact absurd ascii hc

theorem toUInt8_eq_iff {a c : Char} (hc : c.toNat < 128) (ha : a.toNat < 128) :
    c.toUInt8 = a.toUInt8 ↔ c = a :=
  eq_toUInt8_iff ha (utf8EncodeChar_of_ascii hc ▸ List.mem_singleton_self _)

theorem length_encode_ascii {c : Char} (ascii : c.toNat < 128) (before s : List Char) :
    (encode (before ++ c :: s)).length = (encode before).length + 1 + (encode s).length := by
  rw [encode_append, encode_cons, utf8EncodeChar_of_ascii ascii, List.length_append,
    List.length_append, List.length_singleton, Nat.add_assoc]

/-! ### Reading on from an index -/

section

variable {bytes : ByteArray} {i : Nat} {c : Char} {s : List Char}

/-- From an index on, the bytes are those of `s`. -/
def Reads (bytes : ByteArray) (i : Nat) (s : List Char) : Prop :=
  bytes.data.toList.drop i = encode s

theorem reads_toUTF8 {text : String} {before : List Char} (h : text.toList = before ++ s) :
    Reads text.toUTF8 (encode before).length s := by
  rw [Reads, toList_toUTF8, h, encode_append, List.drop_left]

theorem getElem?_add_eq (bytes : ByteArray) (i k : Nat) :
    bytes[i + k]? = (bytes.data.toList.drop i)[k]? := by
  rw [List.getElem?_drop, Array.getElem?_toList]
  rfl

theorem Reads.add {t : List Char} (h : Reads bytes i (s ++ t)) :
    Reads bytes (i + (encode s).length) t := by
  rw [Reads, ← List.drop_drop, h, encode_append, List.drop_left]

theorem Reads.next (h : Reads bytes i (c :: s)) :
    Reads bytes (i + (String.utf8EncodeChar c).length) s := by
  have hnext := Reads.add (s := [c]) h
  rwa [encode_singleton] at hnext

theorem Reads.size_le (h : Reads bytes i []) : bytes.size ≤ i := by
  have hlength := congrArg List.length h
  rw [List.length_drop, Array.length_toList] at hlength
  exact Nat.le_of_sub_eq_zero hlength

theorem Reads.exists_first (h : Reads bytes i (c :: s)) :
    ∃ b ∈ String.utf8EncodeChar c, bytes[i]? = some b := by
  have hpos : 0 < (String.utf8EncodeChar c).length := by
    rw [String.length_utf8EncodeChar]
    exact c.utf8Size_pos
  refine ⟨_, List.getElem_mem hpos, ?_⟩
  rw [← Nat.add_zero i, getElem?_add_eq, h, encode_cons, List.getElem?_append_left hpos,
    List.getElem?_eq_getElem hpos]

theorem Reads.lt_size (h : Reads bytes i (c :: s)) : i < bytes.size := by
  obtain ⟨b, -, hi⟩ := h.exists_first
  exact (getElem?_eq_some_iff.1 hi).1

theorem Reads.size_eq (h : Reads bytes i (c :: s)) : bytes.size = i + (encode (c :: s)).length := by
  have hlength := congrArg List.length h
  have hlt := h.lt_size
  rw [List.length_drop, Array.length_toList] at hlength
  rw [← hlength]
  exact (Nat.add_sub_of_le hlt.le).symm

theorem Reads.ascii (h : Reads bytes i (c :: s)) (ascii : c.toNat < 128) :
    bytes[i]? = some c.toUInt8 ∧ Reads bytes (i + 1) s := by
  constructor
  · rw [← Nat.add_zero i, getElem?_add_eq, h, encode_cons, utf8EncodeChar_of_ascii ascii]
    rfl
  · have hnext := h.next
    rwa [utf8EncodeChar_of_ascii ascii] at hnext

theorem Reads.getElem?_eq_iff (h : Reads bytes i s) {a : Char} (ascii : a.toNat < 128) :
    bytes[i]? = some a.toUInt8 ↔ s.head? = some a := by
  cases s with
  | nil =>
    rw [getElem?_neg bytes i (Nat.not_lt.2 h.size_le)]
    simp
  | cons c s =>
    obtain ⟨b, hb, hi⟩ := h.exists_first
    rw [hi, Option.some.injEq, eq_toUInt8_iff ascii hb, List.head?_cons, Option.some.injEq]

/-- What is the same from each byte of `w` to the next is the same before and behind `w`. -/
theorem eq_of_steps {α : Type} {f : Nat → α} {w rest : List UInt8}
    (h : bytes.data.toList.drop i = w ++ rest)
    (step : ∀ j b, i ≤ j → j < i + w.length → b ∈ w → bytes[j]? = some b →
      f j = f (j + 1)) :
    f i = f (i + w.length) := by
  induction w generalizing i with
  | nil => rfl
  | cons b w ih =>
    have hbyte : bytes[i]? = some b := by
      rw [← Nat.add_zero i, getElem?_add_eq, h]
      rfl
    have hnext : bytes.data.toList.drop (i + 1) = w ++ rest := by
      rw [← List.drop_drop, h]
      rfl
    rw [step i b (Nat.le_refl i) (by simp) List.mem_cons_self hbyte, ih hnext, List.length_cons,
      Nat.add_assoc, Nat.add_comm 1]
    intro j b' hij hj hb'
    refine step j b' (Nat.le_of_succ_le hij) ?_ (List.mem_cons_of_mem b hb')
    rw [List.length_cons]
    omega

end

end SqlAudit.Text
