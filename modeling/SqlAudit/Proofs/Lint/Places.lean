import SqlAudit.Proofs.Lint.Levels
import SqlAudit.Proofs.Lint.Slices

/-!
Keywords that are open at later places of a text. Depths are counted from the start of the text, and
a keyword stays open up to a token that ends it; nothing here keeps a stack.
-/

namespace SqlAudit.Lint

open Sql

def tokenAt? (text : List Lexeme) (i : Nat) : Option Token := text[i]?.map (·.token)

def tokenBefore? (text : List Lexeme) : Nat → Option Token
  | 0 => none
  | i + 1 => tokenAt? text i

def depthAt (text : List Lexeme) (i : Nat) : Nat := depthBehind 0 (text.take i)

/-- Whether a keyword stands at a place and no token strictly between it and a later one ends it. What
ends it is asked of its own depth, the depth of a token and the token. -/
def IsOpen (text : List Lexeme) (keyword : String) (ends : Nat → Nat → Token → Bool)
    (j i : Nat) : Prop :=
  (tokenAt? text j).any (·.isKeyword keyword) = true ∧
    ∀ k < i, j < k → (tokenAt? text k).any (ends (depthAt text j) (depthAt text k)) = false

instance (text : List Lexeme) (keyword : String) (ends : Nat → Nat → Token → Bool) (j i : Nat) :
    Decidable (IsOpen text keyword ends j i) :=
  inferInstanceAs (Decidable (_ ∧ _))

def endsDepth (keywords : List String) (own depth : Nat) (t : Token) : Bool :=
  t == .rightParen && depth ≤ own || t.isAnyKeyword keywords && depth == own

variable {text rest : List Lexeme} {l : Lexeme} {t : Token} {i j : Nat} {keyword : String}
  {ends : Nat → Nat → Token → Bool}

theorem endsAt_sub {keywords : List String} {own depth : Nat} (le : own ≤ depth) (t : Token) :
    endsAt keywords (depth - own) t = endsDepth keywords own depth t := by
  have closes : depth ≤ own ↔ depth - own = 0 := by omega
  have same : depth = own ↔ depth - own = 0 := by omega
  rw [Bool.eq_iff_iff]
  simp only [endsAt, endsDepth, Bool.and_eq_true, Bool.or_eq_true, beq_iff_eq, decide_eq_true_eq,
    closes, same, and_comm, and_or_left]

/-! ### The next place -/

theorem tokenAt?_of_drop (h : text.drop i = l :: rest) : tokenAt? text i = some l.token := by
  have here : (text.drop i)[0]? = some l := by rw [h]; rfl
  rw [List.getElem?_drop, Nat.add_zero] at here
  rw [tokenAt?, here]
  rfl

theorem drop_succ_of_drop (h : text.drop i = l :: rest) : text.drop (i + 1) = rest := by
  rw [← List.drop_drop, h]
  rfl

theorem depthAt_succ (h : tokenAt? text i = some t) :
    depthAt text (i + 1) = depthAfter (depthAt text i) t := by
  obtain ⟨l, hl, rfl⟩ := Option.map_eq_some_iff.1 h
  simp [depthAt, depthBehind, List.take_add_one, hl]

theorem map_range_zipIdx_cons {p : Nat → Prop} [DecidablePred p] (l : Lexeme)
    (rest : List Lexeme) (i : Nat) :
    (((l :: rest).zipIdx i).filter fun e => p e.2).map (·.1.range) =
      (if p i then [l.range] else []) ++
        ((rest.zipIdx (i + 1)).filter fun e => p e.2).map (·.1.range) := by
  rw [List.zipIdx_cons, List.filter_cons]
  by_cases marked : p i <;> simp [marked]

/-! ### Keywords that are open -/

theorem isOpen_self_iff (h : tokenAt? text i = some t) :
    IsOpen text keyword ends i (i + 1) ↔ t.isKeyword keyword = true := by
  rw [IsOpen, h]
  refine and_iff_left fun k hk hik => ?_
  omega

theorem isOpen_succ_iff (h : tokenAt? text i = some t) (behind : j < i) :
    IsOpen text keyword ends j (i + 1) ↔
      IsOpen text keyword ends j i ∧ ends (depthAt text j) (depthAt text i) t = false := by
  simp only [IsOpen, Nat.forall_lt_succ_right, h, Option.any_some, and_assoc]
  exact and_congr_right fun _ => and_congr_right fun _ => forall_prop_of_true behind

/-- Open behind a token is what was open before it and is not ended by it, and the token itself if it
is the keyword. -/
theorem exists_isOpen_succ_iff (h : tokenAt? text i = some t) {p : Nat → Prop} :
    (∃ j < i + 1, IsOpen text keyword ends j (i + 1) ∧ p j) ↔
      (∃ j < i,
        (IsOpen text keyword ends j i ∧ ends (depthAt text j) (depthAt text i) t = false) ∧ p j) ∨
      t.isKeyword keyword = true ∧ p i := by
  rw [Nat.exists_lt_succ_right, isOpen_self_iff h]
  refine or_congr_left (exists_congr fun j => and_congr_right fun behind => ?_)
  rw [isOpen_succ_iff h behind]

theorem IsOpen.mono {less : Nat → Nat → Token → Bool} (h : IsOpen text keyword ends j i)
    (le : ∀ own depth t, less own depth t = true → ends own depth t = true) :
    IsOpen text keyword less j i := by
  refine ⟨h.1, fun k hk hjk => ?_⟩
  have goesOn := h.2 k hk hjk
  cases ht : tokenAt? text k with
  | none => rfl
  | some t =>
    rw [ht, Option.any_some, Bool.eq_false_iff] at goesOn
    exact Bool.eq_false_iff.2 fun ended => goesOn (le _ _ t ended)

end SqlAudit.Lint
