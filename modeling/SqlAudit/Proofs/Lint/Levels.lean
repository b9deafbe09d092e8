import SqlAudit.Lint.Slices

/-!
The level of a keyword: the lexemes behind it outside the parentheses that are opened after it, up to
a token that ends the level. Scans over a text keep a level open for each of several keywords at once,
by the depth that the keyword stands at; here each level is followed by itself.
-/

namespace SqlAudit.Lint

open Sql

/-- The lexemes of a level among lexemes to come, each with the token before it. So far `inner`
parentheses have been opened within the level, and `ends` tells the tokens that end it. -/
def level (ends : Nat → Token → Bool) (inner : Nat) (before : Option Token) :
    List Lexeme → List (Option Token × Lexeme)
  | [] => []
  | l :: rest =>
    if ends inner l.token then []
    else
      (if inner = 0 then [(before, l)] else []) ++
        level ends (depthAfter inner l.token) (some l.token) rest

def endsAt (keywords : List String) (inner : Nat) (t : Token) : Bool :=
  inner = 0 && (t == .rightParen || t.isAnyKeyword keywords)

section

variable {ends : Nat → Token → Bool} {inner : Nat} {before : Option Token} {l : Lexeme}
  {rest : List Lexeme}

theorem level_cons_of_ends (h : ends inner l.token = true) :
    level ends inner before (l :: rest) = [] := by
  rw [level, if_pos h]

theorem level_cons_zero (h : ends 0 l.token = false) :
    level ends 0 before (l :: rest) =
      (before, l) :: level ends (depthAfter 0 l.token) (some l.token) rest := by
  rw [level, if_neg (by simp [h]), if_pos rfl, List.singleton_append]

theorem level_cons_of_pos (h : ends inner l.token = false) (pos : 0 < inner) :
    level ends inner before (l :: rest) =
      level ends (depthAfter inner l.token) (some l.token) rest := by
  rw [level, if_neg (by simp [h]), if_neg (by omega), List.nil_append]

end

theorem endsAt_of_pos {keywords : List String} {inner : Nat} (pos : 0 < inner) (t : Token) :
    endsAt keywords inner t = false := by
  simp [endsAt, Nat.pos_iff_ne_zero.1 pos]

/-! ### Keywords and depths -/

section

variable {t : Token} {k k' : String}

theorem isAnyKeyword_singleton (k : String) (t : Token) : t.isAnyKeyword [k] = t.isKeyword k := by
  cases t with
  | word w =>
    rw [Bool.eq_iff_iff]
    simp [Token.isAnyKeyword, Token.isKeyword]
  | _ => rfl

theorem isAnyKeyword_pair (k k' : String) (t : Token) :
    t.isAnyKeyword [k, k'] = (t.isKeyword k || t.isKeyword k') := by
  cases t with
  | word w =>
    rw [Bool.eq_iff_iff]
    simp [Token.isAnyKeyword, Token.isKeyword, and_or_left]
  | _ => rfl

theorem isKeyword_unique (h : t.isKeyword k = true) (h' : t.isKeyword k' = true) :
    k = k' := by
  cases t with
  | word w =>
    simp only [Token.isKeyword, Bool.and_eq_true, beq_iff_eq] at h h'
    exact h.2.symm.trans h'.2
  | _ => cases h

theorem beq_of_isKeyword {other : Token} (h : t.isKeyword k = true)
    (hother : other.isKeyword k = false) : (t == other) = false :=
  beq_eq_false_iff_ne.2 fun heq => by simp [heq, hother] at h

theorem depthAfter_of_isKeyword (h : t.isKeyword k = true) (depth : Nat) :
    depthAfter depth t = depth := by
  cases t with
  | word w => rfl
  | _ => cases h

end

theorem depthAfter_sub {depth base : Nat} {t : Token} (le : base ≤ depth)
    (inside : t = .rightParen → base < depth) :
    depthAfter (depth - base) t = depthAfter depth t - base := by
  cases t with
  | leftParen => exact (Nat.sub_add_comm le).symm
  | rightParen => exact Nat.sub_right_comm depth base 1
  | _ => rfl

theorem le_depthAfter {depth base : Nat} {t : Token} (le : base ≤ depth)
    (inside : t = .rightParen → base < depth) : base ≤ depthAfter depth t := by
  cases t with
  | leftParen => exact Nat.le_succ_of_le le
  | rightParen => exact Nat.le_sub_one_of_lt (inside rfl)
  | _ => exact le

/-! ### Stacks of depths -/

/-- A stack of depths: they grow toward its top, and none is deeper than the text is. -/
structure Stacked (depth : Nat) (depths : List Nat) : Prop where
  decreasing : depths.Pairwise (· > ·)
  le : ∀ d ∈ depths, d ≤ depth

namespace Stacked

variable {depth d : Nat} {depths : List Nat}

theorem nil (depth : Nat) : Stacked depth [] := ⟨List.Pairwise.nil, nofun⟩

theorem sublist {more : List Nat} (h : Stacked depth more) (sub : depths.Sublist more) :
    Stacked depth depths :=
  ⟨h.decreasing.sublist sub, fun d hd => h.le d (sub.subset hd)⟩

theorem lt_of_mem_tail {top : Nat} (h : Stacked depth (top :: depths)) (hd : d ∈ depths) :
    d < depth :=
  Nat.lt_of_lt_of_le (List.rel_of_pairwise_cons h.decreasing hd) (h.le top (List.mem_cons_self))

theorem head?_eq_iff (h : Stacked depth depths) : depths.head? = some depth ↔ depth ∈ depths := by
  cases depths with
  | nil => simp
  | cons top depths =>
    have below : depth ∉ depths := fun hd => Nat.lt_irrefl depth (h.lt_of_mem_tail hd)
    simp [below, eq_comm]

theorem lt_of_ne_head {top : Nat} (h : Stacked depth (top :: depths)) (ne : top ≠ depth)
    (hd : d ∈ top :: depths) : d < depth := by
  rcases List.mem_cons.1 hd with rfl | hd
  · exact Nat.lt_of_le_of_ne (h.le d List.mem_cons_self) ne
  · exact h.lt_of_mem_tail hd

theorem mem_pop_iff (h : Stacked depth depths) :
    d ∈ (if depths.head? = some depth then depths.tail else depths) ↔ d ∈ depths ∧ d ≠ depth := by
  cases depths with
  | nil => simp
  | cons top depths =>
    by_cases htop : top = depth
    · subst htop
      rw [List.head?_cons, if_pos rfl, List.tail_cons, List.mem_cons]
      constructor
      · intro hd
        exact ⟨.inr hd, Nat.ne_of_lt (h.lt_of_mem_tail hd)⟩
      · rintro ⟨hd, hne⟩
        exact hd.resolve_left hne
    · rw [List.head?_cons, if_neg (by simpa using htop)]
      exact ⟨fun hd => ⟨hd, Nat.ne_of_lt (h.lt_of_ne_head htop hd)⟩, And.left⟩

theorem mem_push_iff (h : Stacked depth depths) :
    d ∈ (if depths.head? = some depth then depths else depth :: depths) ↔
      d ∈ depths ∨ d = depth := by
  split
  next hhead =>
    exact ⟨.inl, fun hd => hd.elim id fun heq => heq ▸ h.head?_eq_iff.1 hhead⟩
  next => rw [List.mem_cons, or_comm]

theorem push (h : Stacked depth depths) (lt : ∀ d ∈ depths, d < depth) :
    Stacked depth (depth :: depths) :=
  ⟨List.pairwise_cons.2 ⟨lt, h.decreasing⟩, List.forall_mem_cons.2 ⟨Nat.le_refl depth, h.le⟩⟩

theorem after {t : Token} (h : Stacked depth depths)
    (inside : t = .rightParen → ∀ d ∈ depths, d < depth) :
    Stacked (depthAfter depth t) depths :=
  ⟨h.decreasing, fun d hd => le_depthAfter (h.le d hd) fun ht => inside ht d hd⟩

end Stacked

end SqlAudit.Lint
