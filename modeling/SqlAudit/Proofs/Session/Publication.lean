import Mathlib
import SqlAudit.Session

/-!
The order of publication, over every run of a session. Requests come one after the other, whichever
threads they come from, since each of them holds the session for itself. A ticket is current until
its document is issued another one or is forgotten, and never again; what is published for a document
comes in the order of its tickets.
-/

namespace SqlAudit.Session

inductive Request
  | issue (document : String)
  | isCurrent (ticket : Ticket)
  | finish (ticket : Ticket) (findings : List Finding)
  | forget (document : String)
  deriving DecidableEq, Repr

inductive Reply
  | ticket (issued : Ticket)
  | current (answer : Bool)
  | publication (findings : Option (List Finding))
  | forgotten
  deriving DecidableEq, Repr

def serve (s : Session) : Request → Session × Reply
  | .issue d => ((s.issue d).2, .ticket (s.issue d).1)
  | .isCurrent t => (s, .current (s.isCurrent t))
  | .finish t findings => (s, .publication (s.finish t findings))
  | .forget d => (s.forget d, .forgotten)

def after (s : Session) : List Request → Session
  | [] => s
  | r :: rs => (s.serve r).1.after rs

def log (s : Session) : List Request → List (Request × Reply)
  | [] => []
  | r :: rs => (r, (s.serve r).2) :: (s.serve r).1.log rs

theorem after_append (s : Session) (rs rest : List Request) :
    s.after (rs ++ rest) = (s.after rs).after rest := by
  induction rs generalizing s with
  | nil => rfl
  | cons r rs ih => exact ih (s.serve r).1

def ticket? : Request × Reply → Option Ticket
  | (_, .ticket t) => some t
  | _ => none

def published? : Request × Reply → Option Ticket
  | (.finish t _, .publication (some _)) => some t
  | _ => none

def issued (s : Session) (rs : List Request) : List Ticket := (s.log rs).filterMap ticket?

def published (s : Session) (rs : List Request) : List Ticket := (s.log rs).filterMap published?

variable (s : Session)

theorem filterMap_log_cons {α : Type} (f : Request × Reply → Option α) (r : Request)
    (rs : List Request) :
    (s.log (r :: rs)).filterMap f =
      (f (r, (s.serve r).2)).toList ++ ((s.serve r).1.log rs).filterMap f := by
  rw [log, List.filterMap_cons]
  cases f (r, (s.serve r).2) <;> rfl

/-! ### One request -/

theorem isCurrent_iff (t : Ticket) :
    s.isCurrent t = true ↔ s.latest.get? t.document = some t.version := by
  simp [isCurrent]

theorem counter_le_serve (r : Request) : s.counter ≤ (s.serve r).1.counter := by
  cases r with
  | issue d => exact Nat.le_succ s.counter
  | isCurrent t => exact le_refl _
  | finish t findings => exact le_refl _
  | forget d => exact le_refl _

theorem latest_serve (r : Request) (d : String) :
    (s.serve r).1.latest.get? d =
      if r = .issue d then some (s.counter + 1)
      else if r = .forget d then none else s.latest.get? d := by
  cases r with
  | issue e => simpa [serve, issue] using s.latest.get?_insert e d (s.counter + 1)
  | isCurrent t => simp [serve]
  | finish t findings => simp [serve]
  | forget e => simpa [serve, forget] using s.latest.get?_erase e d

theorem latest_of_published {r : Request} {t : Ticket}
    (h : published? (r, (s.serve r).2) = some t) :
    s.latest.get? t.document = some t.version := by
  cases r with
  | finish u findings =>
    cases current : s.isCurrent u with
    | true =>
      have same : u = t := by simpa [serve, finish, current, published?] using h
      exact (s.isCurrent_iff t).1 (same ▸ current)
    | false => simp [serve, finish, current, published?] at h
  | issue d => simp [published?] at h
  | isCurrent u => simp [published?] at h
  | forget d => simp [published?] at h

/-! ### Tickets stay current until their document is issued another or forgotten -/

theorem isCurrent_serve {t : Ticket} (old : t.version ≤ s.counter) (r : Request) :
    (s.serve r).1.isCurrent t = true ↔
      s.isCurrent t = true ∧ .issue t.document ≠ r ∧ .forget t.document ≠ r := by
  rw [isCurrent_iff, isCurrent_iff, latest_serve]
  by_cases issues : r = .issue t.document
  · have newer : s.counter + 1 ≠ t.version := by omega
    simp [issues, newer]
  · by_cases forgets : r = .forget t.document
    · simp [forgets]
    · simp [issues, forgets, eq_comm]

theorem isCurrent_after {t : Ticket} (old : t.version ≤ s.counter) (rs : List Request) :
    (s.after rs).isCurrent t = true ↔
      s.isCurrent t = true ∧ .issue t.document ∉ rs ∧ .forget t.document ∉ rs := by
  induction rs generalizing s with
  | nil => simp [after]
  | cons r rs ih =>
    have served : t.version ≤ (s.serve r).1.counter := old.trans (s.counter_le_serve r)
    rw [after, ih _ served, s.isCurrent_serve old, List.mem_cons, List.mem_cons, not_or, not_or]
    constructor
    · rintro ⟨⟨current, issues, forgets⟩, noIssue, noForget⟩
      exact ⟨current, ⟨issues, noIssue⟩, forgets, noForget⟩
    · rintro ⟨current, ⟨issues, noIssue⟩, forgets, noForget⟩
      exact ⟨⟨current, issues, forgets⟩, noIssue, noForget⟩

theorem isCurrent_issue (d : String) : (s.issue d).2.isCurrent (s.issue d).1 = true := by
  rw [isCurrent_iff]
  simpa [issue] using s.latest.get?_insert d d (s.counter + 1)

/-! ### Versions count the tickets -/

theorem versions_issued (rs : List Request) :
    (s.issued rs).map Ticket.version = List.range' (s.counter + 1) (s.issued rs).length := by
  induction rs generalizing s with
  | nil => rfl
  | cons r rs ih =>
    have rest := ih (s.serve r).1
    cases r with
    | issue d => simpa [issued, filterMap_log_cons, serve, ticket?, issue, List.range'_succ] using rest
    | isCurrent t => exact rest
    | finish t findings => exact rest
    | forget d => exact rest

theorem length_issued (rs : List Request) :
    (s.issued rs).length = rs.countP (· matches .issue _) := by
  induction rs generalizing s with
  | nil => rfl
  | cons r rs ih =>
    have rest := ih (s.serve r).1
    rw [issued, filterMap_log_cons, List.length_append, ← issued, rest, List.countP_cons,
      Nat.add_comm]
    cases r <;> rfl

theorem issued_pairwise (rs : List Request) :
    (s.issued rs).Pairwise (·.version < ·.version) := by
  have increasing : ((s.issued rs).map Ticket.version).Pairwise (· < ·) := by
    rw [versions_issued]
    exact List.pairwise_lt_range' 1
  exact List.pairwise_map.1 increasing

theorem version_le_of_mem_issued {rs : List Request} {t : Ticket} (ht : t ∈ s.issued rs) :
    t.version ≤ s.counter + rs.countP (· matches .issue _) := by
  have counted : t.version ∈ List.range' (s.counter + 1) (s.issued rs).length := by
    rw [← versions_issued]
    exact List.mem_map_of_mem ht
  have bounds := List.mem_range'_1.1 counted
  rw [length_issued] at bounds
  omega

/-! ### What is published comes in order -/

/-- The newest ticket of a document, if there is one, has at least this version, and so has every
ticket still to come. -/
structure AtLeast (d : String) (version : Nat) : Prop where
  counter : version ≤ s.counter
  latest : ∀ v, s.latest.get? d = some v → version ≤ v

def Counted : Prop := ∀ d v, s.latest.get? d = some v → v ≤ s.counter

theorem counted_start : Counted start := by
  intro d v h
  simp [start] at h

variable {s}

theorem Counted.serve (h : s.Counted) (r : Request) : (s.serve r).1.Counted := by
  intro d v hv
  have grown := s.counter_le_serve r
  rw [latest_serve] at hv
  split at hv
  next issues =>
    subst issues
    exact le_of_eq (Option.some.inj hv).symm
  next =>
    split at hv
    · cases hv
    · exact (h d v hv).trans grown

theorem AtLeast.serve {d : String} {version : Nat} (h : s.AtLeast d version) (r : Request) :
    (s.serve r).1.AtLeast d version := by
  refine ⟨h.counter.trans (s.counter_le_serve r), fun v hv => ?_⟩
  rw [latest_serve] at hv
  split at hv
  · have newer := Option.some.inj hv
    have known := h.counter
    omega
  · split at hv
    · cases hv
    · exact h.latest v hv

theorem Counted.atLeast (h : s.Counted) {d : String} {v : Nat}
    (latest : s.latest.get? d = some v) : s.AtLeast d v :=
  ⟨h d v latest, fun _ hv => le_of_eq (Option.some.inj (latest.symm.trans hv))⟩

theorem mem_published_cons {r : Request} {rs : List Request} {t : Ticket} :
    t ∈ s.published (r :: rs) ↔
      published? (r, (s.serve r).2) = some t ∨ t ∈ (s.serve r).1.published rs := by
  rw [published, filterMap_log_cons, List.mem_append, Option.mem_toList, published]

theorem AtLeast.le_of_mem_published {d : String} {version : Nat} (h : s.AtLeast d version)
    {rs : List Request} {t : Ticket} (ht : t ∈ s.published rs) (hd : t.document = d) :
    version ≤ t.version := by
  induction rs generalizing s with
  | nil => exact absurd ht List.not_mem_nil
  | cons r rs ih =>
    rcases mem_published_cons.1 ht with now | later
    · exact h.latest t.version (hd ▸ s.latest_of_published now)
    · exact ih (h.serve r) later

theorem Counted.published_pairwise (h : s.Counted) (rs : List Request) :
    (s.published rs).Pairwise fun t u => t.document = u.document → t.version ≤ u.version := by
  induction rs generalizing s with
  | nil => exact .nil
  | cons r rs ih =>
    rw [published, filterMap_log_cons, List.pairwise_append]
    refine ⟨?_, ih (h.serve r), fun t ht u hu same => ?_⟩
    · cases published? (r, (s.serve r).2) with
      | none => exact .nil
      | some t => exact List.pairwise_singleton _ t
    · have reached := h.atLeast (s.latest_of_published (Option.mem_toList.1 ht))
      exact (reached.serve r).le_of_mem_published hu same.symm

/-! ### Runs from the start -/

/-- In every run, a ticket is current until its document is issued another one or is forgotten, and
once stale it stays so; what is handed in is published as it is for a current ticket and not at all
for a stale one, and changes nothing; versions increase over all documents; and those published for
one document never decrease. Versions fit into 64 bits as long as their number does. -/
theorem publishes_in_order (requests : List Request) :
    (∀ (d : String) (since later : List Request), ∃ t,
      ((start.after requests).serve (.issue d)).2 = .ticket t ∧ t.document = d ∧
      ((start.after (requests ++ .issue d :: since)).isCurrent t = true ↔
        .issue d ∉ since ∧ .forget d ∉ since) ∧
      ((start.after (requests ++ .issue d :: since)).isCurrent t = false →
        (start.after (requests ++ .issue d :: (since ++ later))).isCurrent t = false)) ∧
    (∀ (t : Ticket) (findings : List Finding),
      ((start.after requests).serve (.finish t findings)).2 =
        .publication (if (start.after requests).isCurrent t then some findings else none) ∧
      ∀ later, start.after (requests ++ .finish t findings :: later) =
        start.after (requests ++ later)) ∧
    (start.issued requests).Pairwise (·.version < ·.version) ∧
    (requests.countP (· matches .issue _) < 2 ^ 64 →
      ∀ t ∈ start.issued requests, t.version < 2 ^ 64) ∧
    (start.published requests).Pairwise fun t u =>
      t.document = u.document → t.version ≤ u.version := by
  refine ⟨fun d since later => ?_, fun t findings => ⟨rfl, fun later => ?_⟩,
    start.issued_pairwise requests, fun few t ht => ?_,
    counted_start.published_pairwise requests⟩
  · have current (rs : List Request) :
        (start.after (requests ++ .issue d :: rs)).isCurrent ((start.after requests).issue d).1 =
            true ↔ .issue d ∉ rs ∧ .forget d ∉ rs := by
      have old : ((start.after requests).issue d).1.version ≤
          ((start.after requests).issue d).2.counter := le_refl _
      rw [after_append]
      exact (isCurrent_after _ old rs).trans (and_iff_right (isCurrent_issue _ d))
    refine ⟨_, rfl, rfl, current since, fun stale => ?_⟩
    rw [← Bool.not_eq_true, current] at stale ⊢
    rintro ⟨noIssue, noForget⟩
    exact stale ⟨fun h => noIssue (List.mem_append_left _ h),
      fun h => noForget (List.mem_append_left _ h)⟩
  · rw [after_append, after_append]
    rfl
  · have counted := start.version_le_of_mem_issued ht
    have begun : start.counter = 0 := rfl
    omega

/-- The ticket from before the document was forgotten publishes nothing, though the document is back
and the other one has a ticket of a version between. -/
theorem reopened_publishes :
    let requests : List Request :=
      [.issue "a.sql", .issue "b.sql", .forget "a.sql", .issue "a.sql", .finish ⟨"a.sql", 1⟩ [],
        .finish ⟨"b.sql", 2⟩ [], .finish ⟨"a.sql", 3⟩ []]
    start.published requests = [⟨"b.sql", 2⟩, ⟨"a.sql", 3⟩] ∧
      requests.countP (· matches .issue _) < 2 ^ 64 ∧
      (∀ t ∈ start.issued requests, t.version < 2 ^ 64) ∧
      (start.published requests).Pairwise fun t u =>
        t.document = u.document → t.version ≤ u.version := by
  intro requests
  obtain ⟨_, _, _, fits, ordered⟩ := publishes_in_order requests
  have few : requests.countP (· matches .issue _) < 2 ^ 64 := by decide
  exact ⟨by decide, few, fits few, ordered⟩

end SqlAudit.Session
