import Mathlib
import SqlAudit.Lint.SelectStar
import SqlAudit.Proofs.Lint.Levels

/-!
The stars that are reported, SELECT by SELECT. The scan keeps the SELECTs that are open on a stack and
meets their stars in the order of the text; told by its own level, each SELECT has the first star there
that starts an item before its FROM.
-/

namespace SqlAudit.Lint

open Sql

/-- What ends the items of a SELECT, at its level: its FROM, another SELECT or a parenthesis. -/
def endsItems : Nat → Token → Bool := endsAt ["SELECT", "FROM"]

def isItemStar (entry : Option Token × Lexeme) : Bool :=
  entry.2.token == .star && startsItem entry.1

def itemStar? (inner : Nat) (before : Option Token) (lexemes : List Lexeme) : Option Range :=
  ((level endsItems inner before lexemes).find? isItemStar).map (·.2.range)

def keywordStar? (l : Lexeme) (behind : List Lexeme) : Option Range :=
  if l.token.isKeyword "SELECT" then itemStar? 0 (some l.token) behind else none

def selectStarsByKeyword : List Lexeme → List Range
  | [] => []
  | l :: rest => (keywordStar? l rest).toList ++ selectStarsByKeyword rest

/-- The star that an open SELECT is still to be reported for. -/
def OpenSelect.star? (depth : Nat) (before : Option Token) (lexemes : List Lexeme)
    (s : OpenSelect) : Option Range :=
  if s.inItems && !s.reported then itemStar? (depth - s.depth) before lexemes else none

variable {depth inner : Nat} {before : Option Token} {l : Lexeme} {rest : List Lexeme}
  {selects : List OpenSelect} {t : Token}

/-! ### One lexeme of a level -/

theorem endsItems_zero (t : Token) :
    endsItems 0 t = (t == .rightParen || (t.isKeyword "SELECT" || t.isKeyword "FROM")) := by
  rw [endsItems, endsAt, isAnyKeyword_pair, decide_eq_true rfl, Bool.true_and]

theorem itemStar?_cons_of_ends (h : endsItems inner l.token = true) :
    itemStar? inner before (l :: rest) = none := by
  rw [itemStar?, level_cons_of_ends h]
  rfl

theorem itemStar?_cons_of_pos (pos : 0 < inner) :
    itemStar? inner before (l :: rest) =
      itemStar? (depthAfter inner l.token) (some l.token) rest := by
  have stays : endsItems inner l.token = false := endsAt_of_pos pos l.token
  rw [itemStar?, level_cons_of_pos stays pos]
  rfl

theorem itemStar?_cons_star (h : endsItems 0 l.token = false)
    (star : isItemStar (before, l) = true) :
    itemStar? 0 before (l :: rest) = some l.range := by
  rw [itemStar?, level_cons_zero h, List.find?_cons_of_pos star]
  rfl

theorem itemStar?_cons_other (h : endsItems 0 l.token = false)
    (other : isItemStar (before, l) = false) :
    itemStar? 0 before (l :: rest) =
      itemStar? (depthAfter 0 l.token) (some l.token) rest := by
  rw [itemStar?, level_cons_zero h, List.find?_cons_of_neg (by simp [other])]
  rfl

namespace OpenSelect

variable {s : OpenSelect}

theorem star?_cons_of_lt (h : s.depth < depth) :
    s.star? depth before (l :: rest) = s.star? (depthAfter depth l.token) (some l.token) rest := by
  unfold star?
  rw [itemStar?_cons_of_pos (by omega), depthAfter_sub (Nat.le_of_lt h) fun _ => h]

theorem star?_cons_of_ends (hs : s.depth = depth) (ends : endsItems 0 l.token = true) :
    s.star? depth before (l :: rest) = none := by
  rw [star?, hs, Nat.sub_self, itemStar?_cons_of_ends ends, ite_self]

theorem star?_cons_star (hs : s.depth = depth) (ht : l.token = .star)
    (wanted : (s.inItems && !s.reported) = true) (starts : startsItem before = true) :
    s.star? depth before (l :: rest) = some l.range := by
  have stays : endsItems 0 l.token = false := by simp [endsItems_zero, ht, Token.isKeyword]
  rw [star?, if_pos wanted, hs, Nat.sub_self,
    itemStar?_cons_star stays (by simp [isItemStar, ht, starts])]

theorem star?_cons_other (hs : s.depth = depth) (stays : endsItems 0 l.token = false)
    (other : (s.inItems && !s.reported) = true → isItemStar (before, l) = false) :
    s.star? depth before (l :: rest) = s.star? (depthAfter depth l.token) (some l.token) rest := by
  have inside : l.token = .rightParen → s.depth < depth := fun hclose => by
    simp [endsItems_zero, hclose] at stays
  unfold star?
  split
  next wanted =>
    rw [← depthAfter_sub (Nat.le_of_eq hs) inside, hs, Nat.sub_self]
    exact itemStar?_cons_other stays (other wanted)
  next => rfl

end OpenSelect

theorem filterMap_star?_of_lt (h : ∀ s ∈ selects, s.depth < depth) :
    selects.filterMap (OpenSelect.star? depth before (l :: rest)) =
      selects.filterMap (OpenSelect.star? (depthAfter depth l.token) (some l.token) rest) :=
  List.filterMap_congr fun s hs => OpenSelect.star?_cons_of_lt (h s hs)

/-! ### One step of the scan -/

def Ordered (depth : Nat) (selects : List OpenSelect) : Prop :=
  Stacked depth (selects.map OpenSelect.depth)

theorem Ordered.lt_of_mem_tail {s q : OpenSelect} {outer : List OpenSelect}
    (h : Ordered depth (s :: outer)) (hq : q ∈ outer) : q.depth < depth :=
  Stacked.lt_of_mem_tail h (List.mem_map_of_mem hq)

/-- What a token does to the open SELECTs, and whether it is a star to report. -/
inductive SelectStep (depth : Nat) (before : Option Token) (t : Token) :
    List OpenSelect → List OpenSelect × Bool → Prop
  | close (selects : List OpenSelect) (ht : t = .rightParen) :
    SelectStep depth before t selects (closeAt depth selects, false)
  | select (selects : List OpenSelect) (ht : t.isKeyword "SELECT" = true) :
    SelectStep depth before t selects (⟨depth, true, false⟩ :: closeAt depth selects, false)
  | inside (selects : List OpenSelect) (inner : ∀ s ∈ selects, s.depth < depth)
    (hclose : t ≠ .rightParen) (hselect : t.isKeyword "SELECT" = false) :
    SelectStep depth before t selects (selects, false)
  | sources (s : OpenSelect) (outer : List OpenSelect) (hs : s.depth = depth)
    (ht : t.isKeyword "FROM" = true) :
    SelectStep depth before t (s :: outer) ({ s with inItems := false } :: outer, false)
  | star (s : OpenSelect) (outer : List OpenSelect) (hs : s.depth = depth) (ht : t = .star)
    (wanted : (s.inItems && !s.reported) = true) (starts : startsItem before = true) :
    SelectStep depth before t (s :: outer) ({ s with reported := true } :: outer, true)
  | other (s : OpenSelect) (outer : List OpenSelect) (hs : s.depth = depth)
    (stays : endsItems 0 t = false)
    (other : (s.inItems && !s.reported) = true → (t == .star && startsItem before) = false) :
    SelectStep depth before t (s :: outer) (s :: outer, false)

theorem closeAt_lt {s : OpenSelect} (h : s ∈ closeAt depth selects) : s.depth < depth :=
  of_decide_eq_true (List.mem_filter.1 h).2

theorem Ordered.closed (h : Ordered depth selects) : Ordered depth (closeAt depth selects) :=
  Stacked.sublist h (List.Sublist.map _ List.filter_sublist)

theorem selectsAfter_step (h : Ordered depth selects) :
    SelectStep depth before t selects (selectsAfter depth selects before t) := by
  unfold selectsAfter
  by_cases hclose : t = .rightParen
  · rw [if_pos hclose]
    exact .close selects hclose
  by_cases hselect : t.isKeyword "SELECT" = true
  · rw [if_neg hclose, if_pos hselect]
    exact .select selects hselect
  rw [if_neg hclose, if_neg hselect]
  rw [Bool.not_eq_true] at hselect
  cases selects with
  | nil => exact .inside [] nofun hclose hselect
  | cons s outer =>
    by_cases hs : s.depth = depth
    · subst hs
      change SelectStep _ _ _ _ (if s.depth ≠ s.depth then _ else if _ then _ else if _ then _ else _)
      rw [if_neg (not_not_intro rfl)]
      by_cases hfrom : t.isKeyword "FROM" = true
      · rw [if_pos hfrom]
        exact .sources s outer rfl hfrom
      rw [if_neg hfrom]
      have stays : endsItems 0 t = false := by simp [endsItems_zero, hclose, hselect, hfrom]
      split
      next hstar =>
        simp only [Bool.and_eq_true, decide_eq_true_eq] at hstar
        obtain ⟨⟨⟨ht, hitems⟩, hreported⟩, hstarts⟩ := hstar
        exact .star s outer rfl ht (by rw [hitems, hreported]; rfl) hstarts
      next hstar =>
        refine .other s outer rfl stays fun wanted => ?_
        rw [Bool.eq_false_iff]
        intro hfound
        simp only [Bool.and_eq_true, beq_iff_eq] at hfound wanted
        exact hstar (by simp [hfound, wanted])
    · change SelectStep _ _ _ _ (if s.depth ≠ depth then _ else _)
      rw [if_pos hs]
      exact .inside (s :: outer)
        (fun _ hq => Stacked.lt_of_ne_head h hs (List.mem_map_of_mem hq)) hclose hselect

theorem SelectStep.ordered {r : List OpenSelect × Bool} (step : SelectStep depth before t selects r)
    (h : Ordered depth selects) : Ordered (depthAfter depth t) r.1 := by
  have closed : ∀ d ∈ (closeAt depth selects).map OpenSelect.depth, d < depth :=
    List.forall_mem_map.2 fun _ => closeAt_lt
  cases step with
  | close _ ht => exact Stacked.after h.closed fun _ => closed
  | select _ ht =>
    exact Stacked.after (Stacked.push h.closed closed) fun heq =>
      absurd ht (by simp [heq, Token.isKeyword])
  | inside _ _ hclose _ => exact Stacked.after h fun heq => absurd heq hclose
  | sources s outer _ ht =>
    have same : Ordered depth ({ s with inItems := false } :: outer) := h
    exact Stacked.after same fun heq => absurd ht (by simp [heq, Token.isKeyword])
  | star s outer _ ht _ _ =>
    have same : Ordered depth ({ s with reported := true } :: outer) := h
    exact Stacked.after same fun heq => by
      rw [ht] at heq
      cases heq
  | other _ _ _ stays _ =>
    exact Stacked.after h fun heq => absurd stays (by simp [heq, endsItems_zero])

/-! ### The stars of a step -/

theorem filterMap_cons_toList {α β : Type} (f : α → Option β) (a : α) (as : List α) :
    (a :: as).filterMap f = (f a).toList ++ as.filterMap f := by
  rw [List.filterMap_cons]
  cases f a <;> rfl

theorem keywordStar?_of_not (h : l.token.isKeyword "SELECT" = false) : keywordStar? l rest = none := by
  rw [keywordStar?, if_neg (by simp [h])]

theorem filterMap_star?_of_ends (h : Ordered depth selects)
    (ends : endsItems 0 l.token = true) :
    selects.filterMap (OpenSelect.star? depth before (l :: rest)) =
      (closeAt depth selects).filterMap
        (OpenSelect.star? (depthAfter depth l.token) (some l.token) rest) := by
  rw [closeAt, List.filterMap_filter]
  refine List.filterMap_congr fun s hs => ?_
  by_cases hlt : s.depth < depth
  · rw [if_pos (decide_eq_true hlt)]
    exact OpenSelect.star?_cons_of_lt hlt
  · have hdepth : s.depth = depth :=
      Nat.le_antisymm (h.le _ (List.mem_map_of_mem hs)) (Nat.not_lt.1 hlt)
    rw [if_neg (by simp [hlt]), OpenSelect.star?_cons_of_ends hdepth ends]

/-- The star reported at a lexeme and those of the SELECTs open after it are the stars of the SELECTs
open before it and of the SELECT that it begins. -/
theorem SelectStep.stars_perm {r : List OpenSelect × Bool}
    (step : SelectStep depth before l.token selects r) (h : Ordered depth selects) :
    ((if r.2 then [l.range] else []) ++
        r.1.filterMap (OpenSelect.star? (depthAfter depth l.token) (some l.token) rest)).Perm
      (selects.filterMap (OpenSelect.star? depth before (l :: rest)) ++
        (keywordStar? l rest).toList) := by
  have below {s : OpenSelect} {outer : List OpenSelect} (ho : Ordered depth (s :: outer)) :
      outer.filterMap (OpenSelect.star? depth before (l :: rest)) =
        outer.filterMap (OpenSelect.star? (depthAfter depth l.token) (some l.token) rest) :=
    filterMap_star?_of_lt fun _ => ho.lt_of_mem_tail
  cases step with
  | close _ ht =>
    rw [filterMap_star?_of_ends h (by simp [endsItems_zero, ht]),
      keywordStar?_of_not (by simp [ht, Token.isKeyword])]
    simp
  | select _ ht =>
    have hnew : OpenSelect.star? (depthAfter depth l.token) (some l.token) rest
        ⟨depth, true, false⟩ = keywordStar? l rest := by
      rw [keywordStar?, if_pos ht, depthAfter_of_isKeyword ht]
      change itemStar? (depth - depth) (some l.token) rest = _
      rw [Nat.sub_self]
    rw [filterMap_star?_of_ends h (by simp [endsItems_zero, ht]), filterMap_cons_toList, hnew]
    -- the SELECT that begins is the innermost one, but its star comes after those still open
    change ([] ++ (_ ++ _)).Perm _
    rw [List.nil_append]
    exact List.perm_append_comm
  | inside _ inner _ hselect =>
    rw [filterMap_star?_of_lt inner, keywordStar?_of_not hselect]
    simp
  | sources s outer hs ht =>
    have hselect : l.token.isKeyword "SELECT" = false :=
      Bool.eq_false_iff.2 fun hl => absurd (isKeyword_unique ht hl) (by decide)
    rw [filterMap_cons_toList, filterMap_cons_toList, below h, keywordStar?_of_not hselect,
      OpenSelect.star?_cons_of_ends hs (by simp [endsItems_zero, ht])]
    simp [OpenSelect.star?]
  | star s outer hs ht wanted starts =>
    rw [filterMap_cons_toList, filterMap_cons_toList, below h,
      keywordStar?_of_not (by simp [ht, Token.isKeyword]),
      OpenSelect.star?_cons_star hs ht wanted starts]
    simp [OpenSelect.star?]
  | other s outer hs stays other =>
    have hselect : l.token.isKeyword "SELECT" = false := by
      rw [endsItems_zero, Bool.or_eq_false_iff, Bool.or_eq_false_iff] at stays
      exact stays.2.1
    rw [filterMap_cons_toList, filterMap_cons_toList, below h, keywordStar?_of_not hselect,
      OpenSelect.star?_cons_other hs stays other]
    simp

/-! ### The whole scan -/

/-- The scan finds the stars that its open SELECTs still have to come and those of the SELECTs ahead. -/
theorem selectStarRanges_perm (h : Ordered depth selects) (before : Option Token)
    (lexemes : List Lexeme) :
    (selectStarRanges depth selects before lexemes).Perm
      (selects.filterMap (OpenSelect.star? depth before lexemes) ++
        selectStarsByKeyword lexemes) := by
  induction lexemes generalizing depth selects before with
  | nil =>
    have none (s : OpenSelect) : s.star? depth before [] = none := ite_self _
    simp [selectStarRanges, selectStarsByKeyword, none]
  | cons l rest ih =>
    have step : SelectStep depth before l.token selects _ := selectsAfter_step h
    rw [selectStarRanges, selectStarsByKeyword]
    refine ((ih (step.ordered h) (some l.token)).append_left _).trans ?_
    rw [← List.append_assoc, ← List.append_assoc]
    exact (step.stars_perm h).append_right _

theorem selectStars_perm (slice : List Lexeme) :
    (selectStars slice).Perm
      ((selectStarsByKeyword (significant slice)).map fun r =>
        .warning .selectStar r selectStarMessage) := by
  have start : Ordered 0 [] := Stacked.nil 0
  exact (selectStarRanges_perm start none (significant slice)).map _

end SqlAudit.Lint
