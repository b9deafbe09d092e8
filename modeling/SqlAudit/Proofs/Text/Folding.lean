import Mathlib.Algebra.GroupWithZero.Nat
import SqlAudit.Text.Case

/-!
The two ways of ignoring letter case. Names that agree up to the case of ASCII letters have one
lower-case form; for ASCII names the lower-case form says no more than that.
-/

namespace SqlAudit.Text

def IsAscii (s : String) : Prop := ∀ c ∈ s.toList, c.toNat < 0x80

instance (s : String) : Decidable (IsAscii s) :=
  List.decidableBAll (fun c : Char => c.toNat < 0x80) s.toList

theorem forall_ascii {P : Char → Prop} (h : ∀ n < 0x80, P (Char.ofNat n)) {c : Char}
    (hc : c.toNat < 0x80) : P c := by
  rw [← Char.ofNat_toNat c]
  exact h c.toNat hc

theorem toLower_eq_self_of_not_ascii {c : Char} (h : ¬c.toNat < 0x80) : c.toLower = c := by
  unfold Char.toLower
  split
  next hc =>
    have hle : c.toNat ≤ 'Z'.toNat := hc.2
    exact absurd (Nat.lt_of_le_of_lt hle (by decide)) h
  next => rfl

/-- What holds of the ASCII lower-case form of every ASCII character and does not change other
characters holds of all characters. -/
theorem toLower_invariant {α : Type} {f : Char → α}
    (h : ∀ n < 0x80, f (Char.ofNat n).toLower = f (Char.ofNat n)) (c : Char) :
    f c.toLower = f c := by
  by_cases hc : c.toNat < 0x80
  · exact forall_ascii (P := fun c => f c.toLower = f c) h hc
  · rw [toLower_eq_self_of_not_ascii hc]

theorem lowerChar_toLower (c : Char) : lowerChar c.toLower = lowerChar c :=
  toLower_invariant (by decide) c

theorem isCased_toLower (c : Char) : isCased c.toLower = isCased c :=
  toLower_invariant (by decide) c

theorem isCaseIgnorable_toLower (c : Char) : isCaseIgnorable c.toLower = isCaseIgnorable c :=
  toLower_invariant (by decide) c

theorem isSigma_toLower (c : Char) : (c.toLower.toNat == 0x3A3) = (c.toNat == 0x3A3) :=
  toLower_invariant (f := fun c => c.toNat == 0x3A3) (by decide) c

theorem startsCased_map_toLower (s : List Char) :
    startsCased (s.map Char.toLower) = startsCased s := by
  induction s with
  | nil => rfl
  | cons c s ih =>
    simp only [startsCased, List.map_cons, List.dropWhile_cons, isCaseIgnorable_toLower] at ih ⊢
    cases isCaseIgnorable c with
    | true => exact ih
    | false => exact isCased_toLower c

theorem lowerAfter_map_toLower (before s : List Char) :
    lowerAfter (before.map Char.toLower) (s.map Char.toLower) = lowerAfter before s := by
  induction s generalizing before with
  | nil => rfl
  | cons c s ih =>
    have hrest := ih (c :: before)
    rw [List.map_cons] at hrest
    simp only [List.map_cons, lowerAfter, isSigma_toLower, lowerChar_toLower,
      startsCased_map_toLower, hrest]

theorem lower_foldAscii (s : String) : lower (foldAscii s) = lower s := by
  have h := lowerAfter_map_toLower [] s.toList
  rw [List.map_nil] at h
  rw [lower, lower, foldAscii, String.toList_ofList, h]

theorem lower_eq_of_sameName {a b : String} (h : sameName a b = true) : lower a = lower b := by
  rw [← lower_foldAscii a, ← lower_foldAscii b, sameName_iff.1 h]

theorem lowerAfter_of_ascii (before : List Char) {s : List Char} (h : ∀ c ∈ s, c.toNat < 0x80) :
    lowerAfter before s = s.map Char.toLower := by
  induction s generalizing before with
  | nil => rfl
  | cons c s ih =>
    have hc : c.toNat < 0x80 := h c List.mem_cons_self
    have hsigma : (c.toNat == 0x3A3) = false := by
      rw [beq_eq_false_iff_ne]
      omega
    have hrest := ih (c :: before) fun d hd => h d (List.mem_cons_of_mem c hd)
    simp [lowerAfter, hsigma, lowerChar, hc, hrest]

theorem lower_eq_foldAscii {s : String} (h : IsAscii s) : lower s = foldAscii s := by
  rw [lower, foldAscii, lowerAfter_of_ascii [] h]

theorem lower_eq_iff {a b : String} (ha : IsAscii a) (hb : IsAscii b) :
    lower a = lower b ↔ sameName a b = true := by
  rw [lower_eq_foldAscii ha, lower_eq_foldAscii hb, sameName_iff]

/-! ### Folded texts -/

theorem toLower_toLower (c : Char) : c.toLower.toLower = c.toLower :=
  toLower_invariant (f := Char.toLower) (by decide) c

@[simp] theorem foldAscii_foldAscii (s : String) : foldAscii (foldAscii s) = foldAscii s := by
  have hmap : (s.toList.map Char.toLower).map Char.toLower = s.toList.map Char.toLower := by
    rw [List.map_map]
    exact List.map_congr_left fun c _ => toLower_toLower c
  rw [foldAscii, foldAscii, String.toList_ofList, hmap]

theorem sameName_foldAscii (s : String) : sameName (foldAscii s) s = true := by simp

@[simp] theorem sameName_foldAscii_left (a b : String) :
    sameName (foldAscii a) b = sameName a b := sameName_congr_left (sameName_foldAscii a) b

@[simp] theorem sameName_foldAscii_right (a b : String) :
    sameName a (foldAscii b) = sameName a b := sameName_congr_right (sameName_foldAscii b) a

theorem foldAscii_append (a b : String) : foldAscii (a ++ b) = foldAscii a ++ foldAscii b := by
  simp [foldAscii]

theorem foldAscii_eq_empty_iff {s : String} : foldAscii s = "" ↔ s = "" := by
  rw [← String.toList_inj, ← String.toList_inj, foldAscii, String.toList_ofList]
  simp

@[simp] theorem isEmpty_foldAscii (s : String) : (foldAscii s).isEmpty = s.isEmpty := by
  rw [Bool.eq_iff_iff, String.isEmpty_iff, String.isEmpty_iff, foldAscii_eq_empty_iff]

theorem isStar_toLower (c : Char) : (c.toLower == '*') = (c == '*') :=
  toLower_invariant (f := (· == '*')) (by decide) c

@[simp] theorem foldAscii_beq_star (s : String) : (foldAscii s == "*") = (s == "*") := by
  rw [Bool.eq_iff_iff, beq_iff_eq, beq_iff_eq, ← String.toList_inj, ← String.toList_inj, foldAscii,
    String.toList_ofList]
  change s.toList.map Char.toLower = ['*'] ↔ s.toList = ['*']
  rw [List.map_eq_singleton_iff]
  constructor
  · rintro ⟨c, hs, hc⟩
    have hstar := isStar_toLower c
    rw [hc, beq_self_eq_true, eq_comm, beq_iff_eq] at hstar
    rw [hs, hstar]
  · intro hs
    exact ⟨'*', hs, by decide⟩

theorem toUpper_toLower (c : Char) : c.toLower.toUpper = c.toUpper :=
  toLower_invariant (f := Char.toUpper) (by decide) c

theorem map_toUpper_foldAscii (s : String) :
    (foldAscii s).toList.map Char.toUpper = s.toList.map Char.toUpper := by
  rw [foldAscii, String.toList_ofList, List.map_map]
  exact List.map_congr_left fun c _ => toUpper_toLower c

theorem utf8ByteSize_ofList (cs : List Char) :
    (String.ofList cs).utf8ByteSize = (cs.map Char.utf8Size).sum := by
  induction cs with
  | nil => rfl
  | cons c cs ih =>
    have hcons : String.ofList (c :: cs) = String.singleton c ++ String.ofList cs := by
      rw [← String.toList_inj]
      simp
    rw [hcons, String.utf8ByteSize_append, String.utf8ByteSize_singleton, ih, List.map_cons,
      List.sum_cons]

theorem utf8Size_toLower (c : Char) : c.toLower.utf8Size = c.utf8Size :=
  toLower_invariant (f := Char.utf8Size) (by decide) c

theorem utf8ByteSize_foldAscii (s : String) : (foldAscii s).utf8ByteSize = s.utf8ByteSize := by
  have hs : s.utf8ByteSize = (s.toList.map Char.utf8Size).sum := by
    rw [← utf8ByteSize_ofList, String.ofList_toList]
  have hsizes : (s.toList.map Char.toLower).map Char.utf8Size = s.toList.map Char.utf8Size := by
    rw [List.map_map]
    exact List.map_congr_left fun c _ => utf8Size_toLower c
  rw [foldAscii, utf8ByteSize_ofList, hs, hsizes]

end SqlAudit.Text
