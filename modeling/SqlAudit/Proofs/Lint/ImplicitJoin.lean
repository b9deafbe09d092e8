import SqlAudit.Lint.ImplicitJoin
import SqlAudit.Proofs.Lint.Levels

/-!
The commas that implicit joins are told by, FROM by FROM. The scan keeps the depths at which a FROM is
open on a stack; told by its own level, a FROM has a comma there before a clause that ends its list.
-/

namespace SqlAudit.Lint

open Sql

/-- What ends the list of a FROM: a clause or a parenthesis at its level, a semicolon anywhere. -/
def endsSources (inner : Nat) (t : Token) : Bool :=
  t == .semicolon || endsAt fromClosers inner t

def hasComma (inner : Nat) (before : Option Token) (lexemes : List Lexeme) : Bool :=
  (level endsSources inner before lexemes).any (·.2.token == .comma)

def commaBehindFrom : List Lexeme → Bool
  | [] => false
  | l :: rest =>
    l.token.isKeyword "FROM" && hasComma 0 (some l.token) rest || commaBehindFrom rest

variable {depth inner d : Nat} {froms : List Nat} {before : Option Token} {t : Token} {l : Lexeme}
  {rest : List Lexeme}

theorem hasComma_cons_iff :
    hasComma inner before (l :: rest) = true ↔
      endsSources inner l.token = false ∧
        (inner = 0 ∧ l.token = .comma ∨
          hasComma (depthAfter inner l.token) (some l.token) rest = true) := by
  unfold hasComma
  by_cases hends : endsSources inner l.token = true
  · simp [level_cons_of_ends hends, hends]
  rw [Bool.not_eq_true] at hends
  rcases Nat.eq_zero_or_pos inner with rfl | pos
  · simp [level_cons_zero hends, hends]
  · simp [level_cons_of_pos hends pos, hends, Nat.pos_iff_ne_zero.1 pos]

/-! ### One step of the scan -/

theorem endsSources_of_from (h : t.isKeyword "FROM" = true) (inner : Nat) :
    endsSources inner t = false := by
  cases t with
  | word w =>
    simp only [Token.isKeyword, Bool.and_eq_true, beq_iff_eq] at h
    simp [endsSources, endsAt, Token.isAnyKeyword, fromClosers, h.2]
  | _ => cases h

theorem mem_fromsAfter_iff (h : Stacked depth froms) :
    d ∈ fromsAfter depth froms t ↔
      d ∈ froms ∧ endsSources (depth - d) t = false ∨ t.isKeyword "FROM" = true ∧ d = depth := by
  have own (hd : d ∈ froms) : depth - d = 0 ↔ d = depth := by
    have := h.le d hd
    omega
  cases t with
  | rightParen =>
    have hends : endsSources (depth - d) .rightParen = decide (depth - d = 0) := by
      simp [endsSources, endsAt]
    simp only [fromsAfter, List.mem_filter, decide_eq_true_eq, hends, decide_eq_false_iff_not,
      Token.isKeyword, Bool.false_eq_true, false_and, or_false]
    exact and_congr_right fun hd => by
      rw [own hd]
      exact (Nat.lt_iff_le_and_ne.trans (and_iff_right (h.le d hd)))
  | semicolon => simp [fromsAfter, endsSources, Token.isKeyword]
  | word w =>
    change d ∈ (if _ then if _ then froms else _ else if _ then froms.tail else froms) ↔ _
    by_cases hfrom : Token.isKeyword "FROM" (.word w) = true
    · rw [if_pos hfrom, h.mem_push_iff, endsSources_of_from hfrom]
      simp only [hfrom, true_and, and_true]
    · have hends : endsSources (depth - d) (.word w) =
          (decide (depth - d = 0) && Token.isAnyKeyword fromClosers (.word w)) := rfl
      rw [if_neg hfrom, hends]
      simp only [hfrom, Bool.false_eq_true, false_and, or_false]
      by_cases hclose : Token.isAnyKeyword fromClosers (.word w) = true
      · simp only [hclose, Bool.true_and, Bool.and_true, decide_eq_true_eq,
          decide_eq_false_iff_not, h.mem_pop_iff]
        exact and_congr_right fun hd => not_congr (own hd).symm
      · simp [hclose]
  | _ => simp [fromsAfter, endsSources, endsAt, Token.isKeyword, Token.isAnyKeyword]

theorem stacked_fromsAfter (h : Stacked depth froms) (t : Token) :
    Stacked (depthAfter depth t) (fromsAfter depth froms t) := by
  have kept {rest : List Nat} (sub : rest.Sublist froms) (ht : t ≠ .rightParen) :
      Stacked (depthAfter depth t) rest :=
    (h.sublist sub).after fun heq => absurd heq ht
  cases t with
  | rightParen =>
    exact (h.sublist List.filter_sublist).after fun _ d hd =>
      of_decide_eq_true (List.mem_filter.1 hd).2
  | semicolon => exact .nil depth
  | word w =>
    change Stacked _ (if _ then if _ then froms else _ else if _ then froms.tail else froms)
    split
    next =>
      split
      next => exact kept (List.Sublist.refl _) nofun
      next hhead =>
        rw [h.head?_eq_iff] at hhead
        exact h.push fun d hd =>
          Nat.lt_of_le_of_ne (h.le d hd) fun heq => hhead (heq ▸ hd)
    next =>
      split
      next => exact kept (List.tail_sublist _) nofun
      next => exact kept (List.Sublist.refl _) nofun
  | _ => exact kept (List.Sublist.refl _) nofun

theorem exists_hasComma_cons_iff (h : Stacked depth froms) :
    ((∃ d ∈ froms, hasComma (depth - d) before (l :: rest) = true) ∨
        l.token.isKeyword "FROM" = true ∧ hasComma 0 (some l.token) rest = true) ↔
      (l.token = .comma ∧ depth ∈ froms) ∨
        ∃ d ∈ fromsAfter depth froms l.token,
          hasComma (depthAfter depth l.token - d) (some l.token) rest = true := by
  have inside {d : Nat} (hd : d ∈ froms) (hends : endsSources (depth - d) l.token = false) :
      depthAfter (depth - d) l.token = depthAfter depth l.token - d := by
    refine depthAfter_sub (h.le d hd) fun hclose => ?_
    rw [hclose] at hends
    have : depth - d ≠ 0 := fun hzero => by simp [endsSources, endsAt, hzero] at hends
    omega
  have opened (hfrom : l.token.isKeyword "FROM" = true) : depthAfter depth l.token - depth = 0 := by
    rw [depthAfter_of_isKeyword hfrom, Nat.sub_self]
  constructor
  · rintro (⟨d, hd, hcomma⟩ | ⟨hfrom, hcomma⟩)
    · obtain ⟨hends, ⟨hzero, hl⟩ | hcomma⟩ := hasComma_cons_iff.1 hcomma
      · have hdepth : d = depth := Nat.le_antisymm (h.le d hd) (Nat.le_of_sub_eq_zero hzero)
        exact .inl ⟨hl, hdepth ▸ hd⟩
      · rw [inside hd hends] at hcomma
        exact .inr ⟨d, (mem_fromsAfter_iff h).2 (.inl ⟨hd, hends⟩), hcomma⟩
    · refine .inr ⟨depth, (mem_fromsAfter_iff h).2 (.inr ⟨hfrom, rfl⟩), ?_⟩
      rwa [opened hfrom]
  · rintro (⟨hl, hd⟩ | ⟨d, hd, hcomma⟩)
    · refine .inl ⟨depth, hd, hasComma_cons_iff.2 ⟨?_, .inl ⟨Nat.sub_self depth, hl⟩⟩⟩
      simp [hl, endsSources, endsAt, Token.isAnyKeyword]
    · rcases (mem_fromsAfter_iff h).1 hd with ⟨hd, hends⟩ | ⟨hfrom, rfl⟩
      · rw [← inside hd hends] at hcomma
        exact .inl ⟨d, hd, hasComma_cons_iff.2 ⟨hends, .inr hcomma⟩⟩
      · rw [opened hfrom] at hcomma
        exact .inr ⟨hfrom, hcomma⟩

/-! ### The whole scan -/

/-- The scan finds a comma if it has found one, if one stands at the level of an open FROM or at that
of a FROM ahead. -/
theorem isSome_lastFromComma_iff (h : Stacked depth froms) (before : Option Token)
    (last : Option Range) (lexemes : List Lexeme) :
    (lastFromComma depth froms last lexemes).isSome = true ↔
      last.isSome = true ∨ (∃ d ∈ froms, hasComma (depth - d) before lexemes = true) ∨
        commaBehindFrom lexemes = true := by
  induction lexemes generalizing depth froms before last with
  | nil => simp [lastFromComma, hasComma, level, commaBehindFrom]
  | cons l rest ih =>
    have hlast : (if decide (l.token = .comma) && decide (froms.head? = some depth)
          then some l.range else last).isSome = true ↔
        last.isSome = true ∨ l.token = .comma ∧ depth ∈ froms := by
      rw [← h.head?_eq_iff]
      split
      next hc => simpa using .inr (by simpa using hc)
      next hc => simpa using fun h h' => absurd (by simp [h, h']) hc
    rw [lastFromComma, ih (stacked_fromsAfter h l.token) (some l.token), hlast, or_assoc,
      ← or_assoc (b := ∃ d ∈ _, _), ← exists_hasComma_cons_iff h, commaBehindFrom, Bool.or_eq_true,
      Bool.and_eq_true, or_assoc]

theorem isSome_implicitJoin? (slice : List Lexeme) :
    (implicitJoin? slice).isSome = commaBehindFrom slice := by
  rw [Bool.eq_iff_iff, implicitJoin?, isSome_lastFromComma_iff (.nil 0) none none slice]
  simp

end SqlAudit.Lint
