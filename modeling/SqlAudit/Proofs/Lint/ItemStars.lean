import Mathlib
import SqlAudit.Proofs.Lint.Places
import SqlAudit.Proofs.Lint.SelectStar

/-!
The stars that are reported, place by place: a star that starts an item at the depth of a SELECT whose
items still go on there, unless an earlier star is reported for that SELECT. What the scan keeps of a
SELECT is what the text up to a place tells of it.
-/

namespace SqlAudit.Lint

open Sql

/-- What ends a SELECT: a parenthesis that closes over it, or another SELECT at its depth. -/
def endsSelect : Nat → Nat → Token → Bool := endsDepth ["SELECT"]

/-- What ends the items of a SELECT: the end of the SELECT, or a FROM at its depth. -/
def endsSelectItems : Nat → Nat → Token → Bool := endsDepth ["SELECT", "FROM"]

/-- Whether a star at a place starts an item of the SELECT at an earlier place. -/
def IsItemStarOf (text : List Lexeme) (s i : Nat) : Prop :=
  tokenAt? text i = some .star ∧ startsItem (tokenBefore? text i) = true ∧ s < i ∧
    depthAt text s = depthAt text i ∧ IsOpen text "SELECT" endsSelectItems s i

/-- Whether a star at a place is the first one that starts an item of a SELECT. -/
def IsReportedFor (text : List Lexeme) (s i : Nat) : Prop :=
  IsItemStarOf text s i ∧ ¬ ∃ k < i, IsItemStarOf text s k

def IsReported (text : List Lexeme) (i : Nat) : Prop := ∃ s < i, IsReportedFor text s i

instance (text : List Lexeme) (s i : Nat) : Decidable (IsItemStarOf text s i) :=
  inferInstanceAs (Decidable (_ ∧ _))

instance (text : List Lexeme) (s i : Nat) : Decidable (IsReportedFor text s i) :=
  inferInstanceAs (Decidable (_ ∧ _))

instance (text : List Lexeme) : DecidablePred (IsReported text) :=
  fun i => inferInstanceAs (Decidable (∃ s < i, _))

variable {text rest : List Lexeme} {depth i : Nat} {before : Option Token} {t : Token}
  {selects : List OpenSelect}

/-! ### One star for each SELECT, one SELECT for each star -/

theorem exists_isReportedFor {s : Nat} (h : IsItemStarOf text s i) :
    ∃ k ≤ i, IsReportedFor text s k := by
  induction i using Nat.strongRecOn with
  | ind i ih =>
    by_cases earlier : ∃ k < i, IsItemStarOf text s k
    · obtain ⟨k, hk, star⟩ := earlier
      obtain ⟨first, le, reported⟩ := ih k hk star
      exact ⟨first, le.trans hk.le, reported⟩
    · exact ⟨i, le_rfl, h, earlier⟩

theorem isReportedFor_iff {s : Nat} :
    IsReportedFor text s i ↔ IsItemStarOf text s i ∧ ∀ k < i, ¬ IsReportedFor text s k := by
  refine and_congr_right fun _ => ⟨fun none k hk reported => none ⟨k, hk, reported.1⟩, ?_⟩
  rintro none ⟨k, hk, star⟩
  obtain ⟨first, le, reported⟩ := exists_isReportedFor star
  exact none first (le.trans_lt hk) reported

theorem star_unique (text : List Lexeme) (s : Nat) :
    {i | IsReportedFor text s i}.Subsingleton := by
  intro i hi i' hi'
  rcases lt_trichotomy i i' with lt | eq | lt
  · exact absurd ⟨i, lt, hi.1⟩ hi'.2
  · exact eq
  · exact absurd ⟨i', lt, hi'.1⟩ hi.2

theorem select_unique (text : List Lexeme) (i : Nat) :
    {s | IsReportedFor text s i}.Subsingleton := by
  -- of two SELECTs at the depth of the star the later one ends the items of the other
  have later {s s' : Nat} (h : IsItemStarOf text s i) (h' : IsItemStarOf text s' i) :
      ¬ s < s' := by
    intro lt
    obtain ⟨-, -, -, depth, -, goesOn⟩ := h
    obtain ⟨-, -, behind, depth', select, -⟩ := h'
    have stays := goesOn s' behind lt
    cases ht : tokenAt? text s' with
    | none => simp [ht] at select
    | some t =>
      rw [ht, Option.any_some] at select stays
      simp [endsSelectItems, endsDepth, isAnyKeyword_pair, select, depth, depth'] at stays
  intro s hs s' hs'
  exact Nat.le_antisymm (Nat.not_lt.1 (later hs'.1 hs.1)) (Nat.not_lt.1 (later hs.1 hs'.1))

/-! ### What a token does to one SELECT -/

namespace OpenSelect

def reports (depth : Nat) (before : Option Token) (t : Token) (s : OpenSelect) : Bool :=
  s.depth == depth && (t == .star && startsItem before) && (s.inItems && !s.reported)

def after (depth : Nat) (before : Option Token) (t : Token) (s : OpenSelect) : OpenSelect where
  depth := s.depth
  inItems := s.inItems && !(t.isKeyword "FROM" && s.depth == depth)
  reported := s.reported || s.reports depth before t

theorem reports_of_lt {s : OpenSelect} (h : s.depth < depth) :
    s.reports depth before t = false := by
  simp [reports, Nat.ne_of_lt h]

theorem after_of_lt {s : OpenSelect} (h : s.depth < depth) : s.after depth before t = s := by
  have elsewhere : (s.depth == depth) = false := beq_eq_false_iff_ne.2 (Nat.ne_of_lt h)
  simp [after, reports_of_lt h, elsewhere]

theorem map_after_of_lt (h : ∀ s ∈ selects, s.depth < depth) :
    selects.map (OpenSelect.after depth before t) = selects := by
  rw [List.map_congr_left fun s hs => after_of_lt (h s hs), List.map_id']

theorem any_reports_of_lt (h : ∀ s ∈ selects, s.depth < depth) :
    selects.any (OpenSelect.reports depth before t) = false :=
  List.any_eq_false.2 fun s hs => by simp [reports_of_lt (h s hs)]

theorem any_reports_of_ne (selects : List OpenSelect) (ht : (t == .star) = false) :
    selects.any (OpenSelect.reports depth before t) = false :=
  List.any_eq_false.2 fun s _ => by simp [reports, ht]

end OpenSelect

/-! ### What a token does to the open SELECTs -/

def selectsBehind (depth : Nat) (before : Option Token) (t : Token) (selects : List OpenSelect) :
    List OpenSelect :=
  (if t.isKeyword "SELECT" then [⟨depth, true, false⟩] else []) ++
    (selects.filter fun s => !endsSelect s.depth depth t).map (OpenSelect.after depth before t)

theorem endsSelect_of_lt {own : Nat} (h : own < depth) (t : Token) :
    endsSelect own depth t = false := by
  simp [endsSelect, endsDepth, Nat.not_le.2 h, Nat.ne_of_gt h]

theorem endsSelect_self (depth : Nat) (t : Token) :
    endsSelect depth depth t = (t == .rightParen || t.isKeyword "SELECT") := by
  simp [endsSelect, endsDepth, isAnyKeyword_singleton]

theorem filter_of_lt (h : ∀ s ∈ selects, s.depth < depth) (t : Token) :
    selects.filter (fun s => !endsSelect s.depth depth t) = selects :=
  List.filter_eq_self.2 fun s hs => by simp [endsSelect_of_lt (h s hs)]

theorem filter_of_ends (h : Ordered depth selects) (ends : endsSelect depth depth t = true) :
    selects.filter (fun s => !endsSelect s.depth depth t) = closeAt depth selects := by
  refine List.filter_congr fun s hs => ?_
  rcases Nat.lt_or_eq_of_le (h.le _ (List.mem_map_of_mem hs)) with lt | eq
  · simp [endsSelect_of_lt lt, lt]
  · simp [eq, ends]

theorem selectsBehind_cons {s : OpenSelect} {outer : List OpenSelect}
    (h : Ordered depth (s :: outer)) (hs : s.depth = depth)
    (goesOn : endsSelect depth depth t = false) :
    selectsBehind depth before t (s :: outer) = s.after depth before t :: outer := by
  have below : ∀ q ∈ outer, q.depth < depth := fun _ => h.lt_of_mem_tail
  have stays : (!endsSelect s.depth depth t) = true := by rw [hs, goesOn]; rfl
  have other : t.isKeyword "SELECT" = false := by
    rw [endsSelect_self, Bool.or_eq_false_iff] at goesOn
    exact goesOn.2
  rw [selectsBehind, List.filter_cons, if_pos stays, filter_of_lt below, List.map_cons,
    OpenSelect.map_after_of_lt below, other]
  rfl

theorem any_reports_cons {s : OpenSelect} {outer : List OpenSelect}
    (h : Ordered depth (s :: outer)) :
    (s :: outer).any (OpenSelect.reports depth before t) = s.reports depth before t := by
  rw [List.any_cons, OpenSelect.any_reports_of_lt fun _ => h.lt_of_mem_tail, Bool.or_false]

theorem SelectStep.eq {r : List OpenSelect × Bool} (step : SelectStep depth before t selects r)
    (h : Ordered depth selects) :
    r = (selectsBehind depth before t selects,
      selects.any (OpenSelect.reports depth before t)) := by
  cases step with
  | close _ ht =>
    have ends : endsSelect depth depth t = true := by simp [endsSelect_self, ht]
    rw [OpenSelect.any_reports_of_ne _ (by rw [ht]; rfl), selectsBehind, filter_of_ends h ends,
      OpenSelect.map_after_of_lt fun _ => closeAt_lt, ht]
    rfl
  | select _ ht =>
    have ends : endsSelect depth depth t = true := by simp [endsSelect_self, ht]
    rw [OpenSelect.any_reports_of_ne _ (beq_of_isKeyword ht rfl), selectsBehind,
      filter_of_ends h ends, OpenSelect.map_after_of_lt fun _ => closeAt_lt, if_pos ht]
    rfl
  | inside _ inner hclose hselect =>
    rw [OpenSelect.any_reports_of_lt inner, selectsBehind, filter_of_lt inner,
      OpenSelect.map_after_of_lt inner, hselect]
    rfl
  | sources s outer hs ht =>
    have select : t.isKeyword "SELECT" = false :=
      Bool.eq_false_iff.2 fun hl => absurd (isKeyword_unique ht hl) (by decide)
    have goesOn : endsSelect depth depth t = false := by
      rw [endsSelect_self, beq_of_isKeyword ht rfl, select]
      rfl
    have noStar : (t == .star) = false := beq_of_isKeyword ht rfl
    have closed : s.after depth before t = { s with inItems := false } := by
      simp [OpenSelect.after, OpenSelect.reports, hs, ht, noStar]
    rw [OpenSelect.any_reports_of_ne _ noStar, selectsBehind_cons h hs goesOn, closed]
  | star s outer hs ht wanted starts =>
    have goesOn : endsSelect depth depth t = false := by
      rw [endsSelect_self, ht]
      rfl
    have told : s.reports depth before t = true := by
      simp [OpenSelect.reports, hs, ht, starts, wanted]
    have noFrom : t.isKeyword "FROM" = false := by rw [ht]; rfl
    have marked : s.after depth before t = { s with reported := true } := by
      simp [OpenSelect.after, told, noFrom]
    rw [selectsBehind_cons h hs goesOn, any_reports_cons h, told, marked]
  | other s outer hs stays other =>
    rw [endsItems_zero, Bool.or_eq_false_iff, Bool.or_eq_false_iff] at stays
    have goesOn : endsSelect depth depth t = false := by
      rw [endsSelect_self, stays.1, stays.2.1]
      rfl
    have silent : s.reports depth before t = false := by
      cases wanted : s.inItems && !s.reported with
      | false => rw [OpenSelect.reports, wanted, Bool.and_false]
      | true => rw [OpenSelect.reports, other wanted, Bool.and_false, Bool.false_and]
    have same : s.after depth before t = s := by
      simp [OpenSelect.after, silent, stays.2.2]
    rw [selectsBehind_cons h hs goesOn, any_reports_cons h, silent, same]

theorem selectsAfter_eq (h : Ordered depth selects) (before : Option Token) (t : Token) :
    selectsAfter depth selects before t =
      (selectsBehind depth before t selects,
        selects.any (OpenSelect.reports depth before t)) :=
  (selectsAfter_step h).eq h

/-! ### The SELECTs that the scan keeps -/

def standing (text : List Lexeme) (i s : Nat) : OpenSelect where
  depth := depthAt text s
  inItems := decide (IsOpen text "SELECT" endsSelectItems s i)
  reported := decide (∃ k < i, IsItemStarOf text s k)

/-- Before a place the scan keeps the SELECTs that are open there, each as it stands. -/
structure Keeps (text : List Lexeme) (i : Nat) (selects : List OpenSelect) : Prop where
  ordered : Ordered (depthAt text i) selects
  mem_iff : ∀ q, q ∈ selects ↔
    ∃ s < i, IsOpen text "SELECT" endsSelect s i ∧ standing text i s = q

theorem keeps_zero (text : List Lexeme) : Keeps text 0 [] where
  ordered := Stacked.nil _
  mem_iff _ := iff_of_false List.not_mem_nil nofun

theorem endsSelectItems_of_endsSelect {own : Nat} (h : endsSelect own depth t = true) :
    endsSelectItems own depth t = true := by
  rw [endsSelect, endsDepth, isAnyKeyword_singleton] at h
  rw [endsSelectItems, endsDepth, isAnyKeyword_pair, Bool.and_or_distrib_right, ← Bool.or_assoc, h,
    Bool.true_or]

theorem endsSelectItems_eq {own : Nat} (goesOn : endsSelect own depth t = false) :
    endsSelectItems own depth t = (t.isKeyword "FROM" && own == depth) := by
  simp only [endsSelect, endsDepth, isAnyKeyword_singleton, Bool.or_eq_false_iff] at goesOn
  rw [endsSelectItems, endsDepth, isAnyKeyword_pair, goesOn.1, Bool.false_or,
    Bool.and_or_distrib_right, goesOn.2, Bool.false_or, Bool.beq_comm]

theorem isItemStarOf_iff {s : Nat} (ht : tokenAt? text i = some t) (behind : s < i) :
    IsItemStarOf text s i ↔
      (depthAt text s = depthAt text i ∧ t = .star ∧ startsItem (tokenBefore? text i) = true) ∧
        IsOpen text "SELECT" endsSelectItems s i := by
  rw [IsItemStarOf, ht, Option.some.injEq]
  constructor
  · rintro ⟨star, starts, -, depth, opened⟩
    exact ⟨⟨depth, star, starts⟩, opened⟩
  · rintro ⟨⟨depth, star, starts⟩, opened⟩
    exact ⟨star, starts, behind, depth, opened⟩

theorem reports_standing_iff {s : Nat} (ht : tokenAt? text i = some t) (behind : s < i) :
    (standing text i s).reports (depthAt text i) (tokenBefore? text i) t = true ↔
      IsReportedFor text s i := by
  rw [IsReportedFor, isItemStarOf_iff ht behind, and_assoc]
  simp only [OpenSelect.reports, standing, Bool.and_eq_true, beq_iff_eq, decide_eq_true_eq,
    Bool.not_eq_true', decide_eq_false_iff_not]

theorem standing_succ {s : Nat} (ht : tokenAt? text i = some t) (behind : s < i)
    (goesOn : endsSelect (depthAt text s) (depthAt text i) t = false) :
    standing text (i + 1) s =
      (standing text i s).after (depthAt text i) (tokenBefore? text i) t := by
  have items : decide (IsOpen text "SELECT" endsSelectItems s (i + 1)) =
      (decide (IsOpen text "SELECT" endsSelectItems s i) &&
        !(t.isKeyword "FROM" && depthAt text s == depthAt text i)) := by
    rw [Bool.eq_iff_iff, decide_eq_true_eq, isOpen_succ_iff ht behind, endsSelectItems_eq goesOn,
      Bool.and_eq_true, decide_eq_true_eq, Bool.not_eq_true']
  have stars : decide (∃ k < i + 1, IsItemStarOf text s k) =
      (decide (∃ k < i, IsItemStarOf text s k) ||
        (standing text i s).reports (depthAt text i) (tokenBefore? text i) t) := by
    rw [Bool.eq_iff_iff, decide_eq_true_eq, Nat.exists_lt_succ_right, Bool.or_eq_true,
      decide_eq_true_eq, reports_standing_iff ht behind, IsReportedFor, or_and_left,
      and_iff_left (em _)]
  rw [standing, items, stars]
  rfl

theorem standing_self (ht : tokenAt? text i = some t) (select : t.isKeyword "SELECT" = true) :
    standing text (i + 1) i = ⟨depthAt text i, true, false⟩ := by
  have opened : IsOpen text "SELECT" endsSelectItems i (i + 1) := (isOpen_self_iff ht).2 select
  have unreported : ¬ ∃ k < i + 1, IsItemStarOf text i k := by
    rintro ⟨k, hk, -, -, behind, -⟩
    omega
  rw [standing, decide_eq_true opened, decide_eq_false unreported]

theorem Keeps.next (h : Keeps text i selects) (ht : tokenAt? text i = some t) :
    Keeps text (i + 1) (selectsAfter (depthAt text i) selects (tokenBefore? text i) t).1 where
  ordered := by
    rw [depthAt_succ ht]
    exact (selectsAfter_step h.ordered).ordered h.ordered
  mem_iff q := by
    rw [selectsAfter_eq h.ordered, exists_isOpen_succ_iff ht, selectsBehind, List.mem_append,
      or_comm]
    refine or_congr ?_ ?_
    -- the SELECTs before the token
    · simp only [List.mem_map, List.mem_filter, Bool.not_eq_true']
      constructor
      · rintro ⟨q, ⟨hq, goesOn⟩, rfl⟩
        obtain ⟨s, behind, opened, rfl⟩ := (h.mem_iff q).1 hq
        exact ⟨s, behind, ⟨opened, goesOn⟩, standing_succ ht behind goesOn⟩
      · rintro ⟨s, behind, ⟨opened, goesOn⟩, rfl⟩
        have hq := (h.mem_iff _).2 ⟨s, behind, opened, rfl⟩
        exact ⟨_, ⟨hq, goesOn⟩, (standing_succ ht behind goesOn).symm⟩
    -- the token itself
    · by_cases select : t.isKeyword "SELECT" = true
      · rw [if_pos select, List.mem_singleton, standing_self ht select, and_iff_right select,
          eq_comm]
      · rw [if_neg select]
        exact iff_of_false List.not_mem_nil fun begins => select begins.1

theorem Keeps.reports_iff (h : Keeps text i selects) (ht : tokenAt? text i = some t) :
    (selectsAfter (depthAt text i) selects (tokenBefore? text i) t).2 = true ↔
      IsReported text i := by
  rw [selectsAfter_eq h.ordered, List.any_eq_true]
  constructor
  · rintro ⟨q, hq, told⟩
    obtain ⟨s, behind, -, rfl⟩ := (h.mem_iff q).1 hq
    exact ⟨s, behind, (reports_standing_iff ht behind).1 told⟩
  · rintro ⟨s, behind, reported⟩
    obtain ⟨-, -, -, -, items⟩ := reported.1
    have opened : IsOpen text "SELECT" endsSelect s i :=
      items.mono fun _ _ _ => endsSelectItems_of_endsSelect
    exact ⟨_, (h.mem_iff _).2 ⟨s, behind, opened, rfl⟩,
      (reports_standing_iff ht behind).2 reported⟩

/-! ### The whole scan -/

/-- From a place on the scan reports the stars that the text has there. -/
theorem selectStarRanges_of_drop (h : Keeps text i selects) (hrest : text.drop i = rest) :
    selectStarRanges (depthAt text i) selects (tokenBefore? text i) rest =
      ((rest.zipIdx i).filter fun e => IsReported text e.2).map (·.1.range) := by
  induction rest generalizing i selects with
  | nil => rfl
  | cons l rest ih =>
    have ht := tokenAt?_of_drop hrest
    have behind := ih (h.next ht) (drop_succ_of_drop hrest)
    rw [depthAt_succ ht, tokenBefore?, ht] at behind
    rw [selectStarRanges, behind, if_congr (h.reports_iff ht) rfl rfl, map_range_zipIdx_cons]

/-- The stars reported are, in the order of the text, those that start an item of a SELECT that no
earlier star is reported for: at most one star for each SELECT, and each for a single one. -/
theorem selectStars_firstItems (lexemes : List Lexeme) :
    let text := significant lexemes
    selectStars lexemes =
        ((text.zipIdx.filter fun e => IsReported text e.2).map fun e =>
          .warning .selectStar e.1.range selectStarMessage) ∧
      (∀ s i, IsReportedFor text s i ↔
        IsItemStarOf text s i ∧ ∀ k < i, ¬ IsReportedFor text s k) ∧
      (∀ s, {i | IsReportedFor text s i}.Subsingleton) ∧
      ∀ i, {s | IsReportedFor text s i}.Subsingleton := by
  intro text
  refine ⟨?_, fun _ _ => isReportedFor_iff, star_unique text, select_unique text⟩
  have ranges : selectStarRanges 0 [] none text = _ :=
    selectStarRanges_of_drop (keeps_zero text) rfl
  rw [selectStars, ranges, List.map_map]
  rfl

end SqlAudit.Lint
