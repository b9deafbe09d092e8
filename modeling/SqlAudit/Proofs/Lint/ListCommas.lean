import SqlAudit.Proofs.Lint.ImplicitJoin
import SqlAudit.Proofs.Lint.Places

/-!
The comma an implicit join is told at, place by place: the last one at the depth of a FROM whose list
is still open there. The scan remembers the depths of the open lists, the text tells which they are.
-/

namespace SqlAudit.Lint

open Sql

def endsList (own depth : Nat) (t : Token) : Bool :=
  t == .semicolon || endsDepth fromClosers own depth t

/-- Whether a comma stands at a place, at the depth of a FROM before it whose list is open there. -/
def IsListComma (text : List Lexeme) (i : Nat) : Prop :=
  tokenAt? text i = some .comma ∧
    ∃ j < i, IsOpen text "FROM" endsList j i ∧ depthAt text j = depthAt text i

instance (text : List Lexeme) : DecidablePred (IsListComma text) :=
  fun _ => inferInstanceAs (Decidable (_ ∧ _))

def listCommas (depth : Nat) (froms : List Nat) : List Lexeme → List Range
  | [] => []
  | l :: rest =>
    (if l.token = .comma && froms.head? = some depth then [l.range] else []) ++
      listCommas (depthAfter depth l.token) (fromsAfter depth froms l.token) rest

variable {depth i : Nat} {froms : List Nat} {text rest : List Lexeme} {t : Token}

theorem lastFromComma_eq (last : Option Range) (lexemes : List Lexeme) :
    lastFromComma depth froms last lexemes = (listCommas depth froms lexemes).getLast?.or last := by
  induction lexemes generalizing depth froms last with
  | nil => rfl
  | cons l rest ih =>
    rw [lastFromComma, listCommas, ih, List.getLast?_append, Option.or_assoc]
    split <;> rfl

theorem implicitJoin?_eq (slice : List Lexeme) :
    implicitJoin? slice = (listCommas 0 [] slice).getLast? := by
  rw [implicitJoin?, lastFromComma_eq, Option.or_none]

/-! ### The depths that the scan remembers -/

/-- Before a place the scan remembers the depths of the lists that are open there. -/
structure Remembers (text : List Lexeme) (i : Nat) (froms : List Nat) : Prop where
  stacked : Stacked (depthAt text i) froms
  mem_iff : ∀ d, d ∈ froms ↔ ∃ j < i, IsOpen text "FROM" endsList j i ∧ depthAt text j = d

theorem remembers_zero (text : List Lexeme) : Remembers text 0 [] where
  stacked := .nil _
  mem_iff _ := iff_of_false List.not_mem_nil nofun

theorem endsSources_sub {own : Nat} (le : own ≤ depth) (t : Token) :
    endsSources (depth - own) t = endsList own depth t := by
  rw [endsSources, endsList, endsAt_sub le]

theorem Remembers.next (h : Remembers text i froms) (ht : tokenAt? text i = some t) :
    Remembers text (i + 1) (fromsAfter (depthAt text i) froms t) where
  stacked := by
    rw [depthAt_succ ht]
    exact stacked_fromsAfter h.stacked t
  mem_iff d := by
    rw [exists_isOpen_succ_iff ht, mem_fromsAfter_iff h.stacked]
    refine or_congr ?_ (and_congr_right fun _ => eq_comm)
    constructor
    · rintro ⟨hd, goesOn⟩
      obtain ⟨j, behind, opened, rfl⟩ := (h.mem_iff d).1 hd
      rw [endsSources_sub (h.stacked.le _ hd)] at goesOn
      exact ⟨j, behind, ⟨opened, goesOn⟩, rfl⟩
    · rintro ⟨j, behind, ⟨opened, goesOn⟩, rfl⟩
      have hd := (h.mem_iff _).2 ⟨j, behind, opened, rfl⟩
      rw [← endsSources_sub (h.stacked.le _ hd)] at goesOn
      exact ⟨hd, goesOn⟩

theorem Remembers.comma_iff (h : Remembers text i froms) (ht : tokenAt? text i = some t) :
    (t = .comma && froms.head? = some (depthAt text i)) = true ↔ IsListComma text i := by
  rw [Bool.and_eq_true, decide_eq_true_eq, decide_eq_true_eq, h.stacked.head?_eq_iff, h.mem_iff,
    IsListComma, ht, Option.some.injEq]

/-! ### The whole scan -/

/-- From a place on the scan meets the commas that the text has there. -/
theorem listCommas_of_drop (h : Remembers text i froms) (hrest : text.drop i = rest) :
    listCommas (depthAt text i) froms rest =
      ((rest.zipIdx i).filter fun e => IsListComma text e.2).map (·.1.range) := by
  -- the text stays whole in the induction, as what is open at a place is asked of all before it
  induction rest generalizing i froms with
  | nil => rfl
  | cons l rest ih =>
    have ht := tokenAt?_of_drop hrest
    have behind := ih (h.next ht) (drop_succ_of_drop hrest)
    rw [depthAt_succ ht] at behind
    rw [listCommas, behind, if_congr (h.comma_iff ht) rfl rfl, map_range_zipIdx_cons]

/-- An implicit join is told at the last comma that stands at the depth of an open FROM list, and it
is told of no text without such a comma. -/
theorem implicitJoin_lastComma (text : List Lexeme) :
    implicitJoin? text =
      ((text.zipIdx.filter fun e => IsListComma text e.2).map (·.1.range)).getLast? := by
  rw [implicitJoin?_eq]
  exact congrArg List.getLast? (listCommas_of_drop (remembers_zero text) rfl)

end SqlAudit.Lint
