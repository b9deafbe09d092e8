import Mathlib.Data.List.Infix
import SqlAudit.Catalog.Pieces
import SqlAudit.Proofs.Sql.Tokens

/-!
Where cutting a script agrees with scanning it. The cutter knows texts in quotes, texts between
dollar tags and comments by rules of its own; for each of them the length it finds is the one the
scanner finds, under the condition that its simpler rule needs.
-/

namespace SqlAudit.Catalog

open Sql

/-! ### Going through a script -/

def pushAll (w : List Char) (pieces : List (List Char)) : List (List Char) :=
  w.foldr pushFront pieces

theorem pushAll_append (v w : List Char) (pieces : List (List Char)) :
    pushAll (v ++ w) pieces = pushAll v (pushAll w pieces) := List.foldr_append

theorem pushAll_cons (w piece : List Char) (pieces : List (List Char)) :
    pushAll w (piece :: pieces) = (w ++ piece) :: pieces := by
  induction w with
  | nil => rfl
  | cons c w ih => exact congrArg (pushFront c) ih

/-- The first `n` characters stay in one piece, and no text or comment is open after them. -/
def Whole (n : Nat) (s : List Char) : Prop :=
  cutPieces 0 s = pushAll (s.take n) (cutPieces 0 (s.drop n))

theorem whole_zero (s : List Char) : Whole 0 s := rfl

theorem Whole.add {m n : Nat} {s : List Char} (h : Whole m s) (h' : Whole n (s.drop m)) :
    Whole (m + n) s := by
  rw [Whole, h, h', List.drop_drop, List.take_add, pushAll_append]

theorem cutPieces_inside (n : Nat) (s : List Char) :
    cutPieces n s = pushAll (s.take n) (cutPieces 0 (s.drop n)) := by
  induction n generalizing s with
  | zero => rfl
  | succ n ih =>
    cases s with
    | nil => rfl
    | cons c rest =>
      rw [cutPieces, ih]
      rfl

theorem whole_unit {c : Char} (h : c ≠ ';') (rest : List Char) :
    Whole (unitTail c rest + 1) (c :: rest) := by
  rw [Whole, cutPieces, if_neg h, cutPieces_inside]
  rfl

/-- Whether no character of `w` separates statements or opens a text or comment, `rest` being what
follows. -/
def quiet : List Char → List Char → Bool
  | [], _ => true
  | c :: w, rest => c != ';' && unitTail c (w ++ rest) == 0 && quiet w rest

theorem whole_of_quiet {w rest : List Char} (h : quiet w rest = true) :
    Whole w.length (w ++ rest) := by
  induction w with
  | nil => exact whole_zero rest
  | cons c w ih =>
    simp only [quiet, Bool.and_eq_true, bne_iff_ne, beq_iff_eq] at h
    obtain ⟨⟨hsep, htail⟩, hrest⟩ := h
    have hfirst := whole_unit hsep (w ++ rest)
    rw [htail] at hfirst
    have hboth := hfirst.add (ih hrest)
    rwa [Nat.add_comm] at hboth

/-! ### Nothing is lost -/

theorem intercalate_pushFront (sep : List Char) (c : Char) {pieces : List (List Char)}
    (h : pieces ≠ []) : sep.intercalate (pushFront c pieces) = c :: sep.intercalate pieces := by
  obtain ⟨piece, pieces, rfl⟩ := List.exists_cons_of_ne_nil h
  cases pieces with
  | nil => rfl
  | cons =>
    rw [pushFront, List.intercalate_cons_cons, List.intercalate_cons_cons]
    rfl

theorem pushFront_ne_nil (c : Char) (pieces : List (List Char)) : pushFront c pieces ≠ [] := by
  cases pieces <;> exact List.cons_ne_nil _ _

theorem cutPieces_ne_nil (inside : Nat) (s : List Char) : cutPieces inside s ≠ [] := by
  cases s with
  | nil => exact List.cons_ne_nil _ _
  | cons c rest =>
    cases inside with
    | zero =>
      rw [cutPieces]
      split
      · exact List.cons_ne_nil _ _
      · exact pushFront_ne_nil _ _
    | succ inside => exact pushFront_ne_nil _ _

/-- The pieces with the semicolons between them are the script. -/
theorem intercalate_cutPieces (inside : Nat) (s : List Char) :
    [';'].intercalate (cutPieces inside s) = s := by
  fun_induction cutPieces inside s with
  | case1 => rfl
  | case2 c rest n ih => rw [intercalate_pushFront _ _ (cutPieces_ne_nil _ _), ih]
  | case3 rest ih =>
    obtain ⟨piece, pieces, hrest⟩ := List.exists_cons_of_ne_nil (cutPieces_ne_nil 0 rest)
    rw [hrest] at ih ⊢
    rw [List.intercalate_cons_cons, ih]
    rfl
  | case4 c rest hc ih => rw [intercalate_pushFront _ _ (cutPieces_ne_nil _ _), ih]

/-! ### What opens a text or comment -/

/-- The characters that separate statements or can open a text or comment. -/
def marks : List Char := ['\x27', '"', '\x60', '$', ';', '-', '/']

theorem unitTail_of_unmarked {c : Char} (h : c ∉ marks) (rest : List Char) :
    unitTail c rest = 0 := by
  simp only [marks, List.mem_cons, List.not_mem_nil, or_false, not_or] at h
  simp [unitTail, h]

theorem unitTail_quote {quote : Char} (h : quote = '\x27' ∨ quote = '"' ∨ quote = '\x60')
    (rest : List Char) : unitTail quote rest = quotedLength quote rest := by
  rw [unitTail, if_pos h]

theorem unitTail_line {rest : List Char} (h : rest.head? = some '-') :
    unitTail '-' rest = lineLength rest := by
  rw [unitTail, if_neg (by decide), if_neg (by decide), if_pos ⟨rfl, h⟩]

theorem unitTail_comment (body : List Char) :
    unitTail '/' ('*' :: body) = commentLength body + 1 := by
  have hminus : ¬ ('/' = '-' ∧ ('*' :: body).head? = some '-') := fun h => absurd h.1 (by decide)
  rw [unitTail, if_neg (by decide), if_neg (by decide), if_neg hminus, if_pos ⟨rfl, rfl⟩,
    List.tail_cons, Nat.add_comm]

theorem quiet_cons_of_unmarked {c : Char} (h : c ∉ marks) (w rest : List Char) :
    quiet (c :: w) rest = quiet w rest := by
  have hsep : c ≠ ';' := by
    rintro rfl
    exact h (by decide)
  rw [quiet, unitTail_of_unmarked h, bne_iff_ne.2 hsep]
  rfl

theorem quiet_of_unmarked {w : List Char} (h : ∀ c ∈ w, c ∉ marks) (rest : List Char) :
    quiet w rest = true := by
  induction w with
  | nil => rfl
  | cons c w ih =>
    rw [List.forall_mem_cons] at h
    rw [quiet_cons_of_unmarked h.1, ih h.2]

/-! ### Quoted texts -/

theorem quotedLength_cons_of_ne {quote c : Char} (h : c ≠ quote) (rest : List Char) :
    quotedLength quote (c :: rest) = 1 + quotedLength quote rest := by
  cases rest with
  | nil => rfl
  | cons d rest => rw [quotedLength, if_pos h]

theorem quotedLength_doubled (quote : Char) (rest : List Char) :
    quotedLength quote (quote :: quote :: rest) = 2 + quotedLength quote rest := by
  rw [quotedLength, if_neg (not_not.2 rfl), if_pos rfl]

theorem quotedLength_closed {quote : Char} {rest : List Char} (h : rest.head? ≠ some quote) :
    quotedLength quote (quote :: rest) = 1 := by
  cases rest with
  | nil => rfl
  | cons d rest =>
    rw [quotedLength, if_neg (not_not.2 rfl), if_neg]
    rintro rfl
    exact h rfl

theorem quotedLength_of_quotedBody {quote : Char} {escapes : Bool} {s text : List Char} {n : Nat}
    (read : quotedBody quote escapes s = some (text, n))
    (plain : escapes = true → '\\' ∉ s.take n) : quotedLength quote s = n := by
  fun_induction quotedBody quote escapes s generalizing text n with
  | case1 => cases read
  | case2 =>
    cases read
    rfl
  | case3 => cases read
  | case4 rest ih =>
    obtain ⟨⟨body, m⟩, hbody, hr⟩ := Option.map_eq_some_iff.1 read
    cases hr
    rw [quotedLength_doubled, ih hbody, Nat.add_comm]
    exact fun he hmem => plain he (List.mem_cons_of_mem _ (List.mem_cons_of_mem _ hmem))
  | case5 c rest hc =>
    cases read
    exact quotedLength_closed fun heq => hc (Option.some.inj heq)
  | case6 c c' rest _ hescape _ =>
    obtain ⟨⟨body, m⟩, -, hr⟩ := Option.map_eq_some_iff.1 read
    cases hr
    rw [Bool.and_eq_true, decide_eq_true_eq] at hescape
    obtain ⟨hescapes, rfl⟩ := hescape
    exact absurd List.mem_cons_self (plain hescapes)
  | case7 c c' rest hc _ ih =>
    obtain ⟨⟨body, m⟩, hbody, hr⟩ := Option.map_eq_some_iff.1 read
    cases hr
    rw [quotedLength_cons_of_ne hc, ih hbody, Nat.add_comm]
    exact fun he hmem => plain he (List.mem_cons_of_mem _ hmem)

theorem quotedLength_of_escapedBody {fuel : Nat} {s text : List Char} {n : Nat}
    (read : escapedBody fuel s = some (text, n)) (plain : '\\' ∉ s.take n) :
    quotedLength '\x27' s = n := by
  fun_induction escapedBody fuel s generalizing text n with
  | case1 | case2 | case5 | case7 => cases read
  | case3 fuel rest ih =>
    obtain ⟨⟨body, m⟩, hbody, hr⟩ := Option.map_eq_some_iff.1 read
    cases hr
    rw [quotedLength_doubled, ih hbody, Nat.add_comm]
    exact fun hmem => plain (List.mem_cons_of_mem _ (List.mem_cons_of_mem _ hmem))
  | case4 fuel rest hclosed =>
    cases read
    refine quotedLength_closed fun hhead => ?_
    obtain ⟨rest', rfl⟩ := List.head?_eq_some_iff.1 hhead
    exact hclosed rest' rfl
  | case6 fuel rest e k _ _ _ _ =>
    obtain ⟨⟨body, m⟩, -, hr⟩ := Option.map_eq_some_iff.1 read
    cases hr
    exact absurd List.mem_cons_self plain
  | case8 fuel c rest hc _ ih =>
    obtain ⟨⟨body, m⟩, hbody, hr⟩ := Option.map_eq_some_iff.1 read
    cases hr
    rw [quotedLength_cons_of_ne hc, ih hbody, Nat.add_comm]
    exact fun hmem => plain (List.mem_cons_of_mem _ hmem)

theorem quotedLength_append {quote : Char} {w : List Char} (h : quote ∉ w) (rest : List Char) :
    quotedLength quote (w ++ rest) = w.length + quotedLength quote rest := by
  induction w with
  | nil => rw [List.nil_append, List.length_nil, Nat.zero_add]
  | cons c w ih =>
    rw [List.mem_cons, not_or] at h
    rw [List.cons_append, quotedLength_cons_of_ne (Ne.symm h.1), ih h.2, List.length_cons]
    omega

theorem quotedLength_of_hexChar {k skip : Nat} {s : List Char} {e : Char} {m : Nat}
    (read : hexChar k skip s = .ok (e, m)) :
    quotedLength '\x27' s = m + quotedLength '\x27' (s.drop m) := by
  simp only [hexChar] at read
  split at read
  next hlength =>
    split at read
    next =>
      cases read
      obtain ⟨rest, hs⟩ := (List.takeWhile_prefix isHexDigit).trans (List.take_prefix k s)
      have hquote : '\x27' ∉ (s.take k).takeWhile isHexDigit := by
        intro hmem
        have hhex := List.all_eq_true.1 List.all_takeWhile _ hmem
        revert hhex
        decide
      generalize (s.take k).takeWhile isHexDigit = digits at hlength hs hquote
      rw [beq_iff_eq] at hlength
      rw [← hs, List.drop_left' hlength, quotedLength_append hquote, hlength]
    next => cases read
  next => split at read <;> cases read

theorem quotedLength_of_unicodeBody {fuel skip : Nat} {s text : List Char} {n : Nat}
    (read : unicodeBody fuel skip s = .ok (text, n)) : skip + quotedLength '\x27' s = n := by
  fun_induction unicodeBody fuel skip s generalizing text n with
  | case1 | case2 => cases read
  | case3 fuel skip rest ih =>
    obtain ⟨⟨body, m⟩, hbody, hr⟩ := map_eq_ok read
    cases hr
    rw [quotedLength_doubled, ← ih hbody, Nat.add_assoc]
  | case4 fuel skip rest hclosed =>
    cases read
    rw [quotedLength_closed fun hhead => ?_]
    obtain ⟨rest', rfl⟩ := List.head?_eq_some_iff.1 hhead
    exact hclosed rest' rfl
  | case5 fuel skip rest hquote ih =>
    obtain ⟨⟨body, m⟩, hbody, hr⟩ := map_eq_ok read
    cases hr
    rw [quotedLength_cons_of_ne hquote, quotedLength_cons_of_ne hquote, ← ih hbody]
    omega
  | case6 fuel skip rest hquote ih =>
    obtain ⟨e, m, body, hdigits, hbody⟩ := exists_of_hexChar_bind
      (f := fun m => unicodeBody fuel (skip + 2 + m) (rest.drop m)) read
    rw [quotedLength_cons_of_ne hquote, quotedLength_cons_of_ne (by decide),
      quotedLength_of_hexChar hdigits, ← ih m hbody]
    omega
  | case7 fuel skip rest _ _ hquote ih =>
    obtain ⟨e, m, body, hdigits, hbody⟩ := exists_of_hexChar_bind
      (f := fun m => unicodeBody fuel (skip + 1 + m) (rest.drop m)) read
    rw [quotedLength_cons_of_ne hquote, quotedLength_of_hexChar hdigits, ← ih m hbody]
    omega
  | case8 fuel skip c rest hquote _ ih =>
    obtain ⟨⟨body, m⟩, hbody, hr⟩ := map_eq_ok read
    cases hr
    rw [quotedLength_cons_of_ne hquote, ← ih hbody, Nat.add_assoc]

/-! ### Texts between dollar tags -/

def fence (name : List Char) : List Char := '$' :: (name ++ ['$'])

theorem fence_ne_nil (name : List Char) : fence name ≠ [] := List.cons_ne_nil _ _

theorem take_of_dollarBody {s text : List Char} {n : Nat} (read : dollarBody s = some (text, n)) :
    s.take n = text ++ fence [] := by
  fun_induction dollarBody s generalizing text n with
  | case1 | case2 => cases read
  | case3 c c' rest hdollars =>
    cases read
    rw [Bool.and_eq_true, decide_eq_true_eq, decide_eq_true_eq] at hdollars
    obtain ⟨rfl, rfl⟩ := hdollars
    rfl
  | case4 c c' rest _ ih =>
    obtain ⟨⟨body, m⟩, hbody, hr⟩ := Option.map_eq_some_iff.1 read
    cases hr
    rw [List.take_succ_cons, ih hbody, List.cons_append]

theorem take_agreeing (name s : List Char) :
    s.take (taggedBody.agreeing name s) = name.take (taggedBody.agreeing name s) := by
  fun_induction taggedBody.agreeing name s with
  | case1 a as bs ih => rw [List.take_succ_cons, List.take_succ_cons, ih]
  | case2 | case3 => rfl

theorem take_of_taggedBody {name : List Char} {fuel : Nat} {s text : List Char} {n : Nat}
    (read : taggedBody name fuel s = some (text, n)) : s.take n = text ++ fence name := by
  induction fuel generalizing s text n with
  | zero =>
    rw [taggedBody] at read
    cases read
  | succ fuel ih =>
    have hskip : ∀ k, taggedBody.skip name fuel k s = some (text, n) →
        s.take n = text ++ fence name := by
      intro k h
      rw [taggedBody.skip] at h
      obtain ⟨⟨body, m⟩, hbody, hr⟩ := Option.map_eq_some_iff.1 h
      cases hr
      rw [Nat.add_comm, List.take_add, ih hbody, List.append_assoc]
    cases s with
    | nil =>
      rw [taggedBody] at read
      cases read
    | cons c rest =>
      simp only [taggedBody] at read
      split at read
      next hdollar =>
        split at read
        next hsame =>
          split at read
          next rest' hrest =>
            cases read
            have hname := take_agreeing name rest
            rw [hsame, List.take_length] at hname
            rw [hsame] at hrest ⊢
            rw [hdollar, List.take_succ_cons, List.take_add, hname, hrest]
            rfl
          next => exact hskip _ read
        next =>
          split at read
          next => cases read
          next => exact hskip _ read
      next => exact hskip _ read

theorem taggedLength_append {tag w : List Char} (rest : List Char) (h : tag ≠ [])
    (first : ¬ tag <:+: (w ++ tag).dropLast) :
    taggedLength tag (w ++ (tag ++ rest)) = w.length + tag.length := by
  induction w with
  | nil =>
    obtain ⟨c, tag', rfl⟩ := List.exists_cons_of_ne_nil h
    have hprefix : (c :: tag').isPrefixOf (c :: (tag' ++ rest)) = true :=
      List.isPrefixOf_iff_prefix.2 (List.prefix_append (c :: tag') rest)
    rw [List.nil_append, List.cons_append, taggedLength, if_pos hprefix, List.length_nil,
      Nat.zero_add]
  | cons c w ih =>
    have hne : w ++ tag ≠ [] := List.append_ne_nil_of_right_ne_nil w h
    rw [List.cons_append, List.dropLast_cons_of_ne_nil hne, List.infix_cons_iff, not_or] at first
    have hprefix : ¬ tag.isPrefixOf (c :: (w ++ (tag ++ rest))) = true := by
      rw [List.isPrefixOf_iff_prefix]
      intro hp
      have hw : c :: (w ++ tag).dropLast <+: c :: (w ++ (tag ++ rest)) := by
        rw [List.prefix_cons_inj, ← List.append_assoc]
        exact (List.dropLast_prefix _).trans (List.prefix_append _ rest)
      have hlength : tag.length ≤ (c :: (w ++ tag).dropLast).length := by
        rw [List.length_cons, List.length_dropLast, List.length_append]
        omega
      exact first.1 (List.prefix_of_prefix_length_le hp hw hlength)
    rw [List.cons_append, taggedLength, if_neg hprefix, ih first.2, List.length_cons]
    omega

/-! ### Comments -/

theorem commentLength_cons_of_blockLength {last : Char} {s : List Char} {n : Nat}
    (read : blockLength 1 last s = some n) (flat : ¬ ['/', '*'] <:+: last :: s.take n) :
    commentLength (last :: s) = n + 1 := by
  induction s generalizing last n with
  | nil => cases read
  | cons c rest ih =>
    rw [blockLength] at read
    split at read
    next hopen =>
      obtain ⟨m, -, hr⟩ := Option.map_eq_some_iff.1 read
      cases hr
      rw [Bool.and_eq_true, decide_eq_true_eq, decide_eq_true_eq] at hopen
      obtain ⟨rfl, rfl⟩ := hopen
      exact absurd (List.prefix_append ['/', '*'] (rest.take m)).isInfix flat
    next =>
      split at read
      next hclose =>
        rw [if_pos (Nat.le_refl 1)] at read
        cases read
        rw [Bool.and_eq_true, decide_eq_true_eq, decide_eq_true_eq] at hclose
        rw [commentLength, if_pos hclose]
      next hclose =>
        obtain ⟨m, hbody, hr⟩ := Option.map_eq_some_iff.1 read
        cases hr
        rw [Bool.and_eq_true, decide_eq_true_eq, decide_eq_true_eq] at hclose
        rw [commentLength, if_neg hclose, ih hbody, Nat.add_comm]
        exact fun h => flat (h.trans (List.suffix_cons _ _).isInfix)

theorem commentLength_of_blockLength {s : List Char} {n : Nat} (read : blockLength 1 ' ' s = some n)
    (flat : ¬ ['/', '*'] <:+: s.take n) : commentLength s = n := by
  have hflat : ¬ ['/', '*'] <:+: ' ' :: s.take n := by
    rw [List.infix_cons_iff, not_or]
    refine ⟨?_, flat⟩
    rintro ⟨t, ht⟩
    exact absurd (List.cons.inj ht).1 (by decide)
  have hcons := commentLength_cons_of_blockLength read hflat
  cases s with
  | nil => cases read
  | cons c rest =>
    have hblank : ¬ (' ' = '*' ∧ c = '/') := fun h => absurd h.1 (by decide)
    rw [commentLength, if_neg hblank, Nat.add_comm] at hcons
    exact Nat.succ.inj hcons

/-! ### Tokens -/

theorem whole_quoted {quote : Char} (h : quote = '\x27' ∨ quote = '"' ∨ quote = '\x60')
    (rest : List Char) : Whole (quotedLength quote rest + 1) (quote :: rest) := by
  have hsep : quote ≠ ';' := by rcases h with rfl | rfl | rfl <;> decide
  have hunit := whole_unit hsep rest
  rwa [unitTail_quote h] at hunit

theorem whole_of_take {n : Nat} {s w : List Char} (h : s.take n = w)
    (hw : Whole w.length (w ++ s.drop n)) : Whole n s := by
  rw [Whole, List.take_left, List.drop_left, ← h, List.take_append_drop] at hw
  exact hw

theorem whole_take {n : Nat} {s : List Char} (h : quiet (s.take n) (s.drop n) = true) :
    Whole n s := whole_of_take rfl (whole_of_quiet h)

theorem whole_behind {k m : Nat} {quote : Char} {s body : List Char}
    (letters : quiet (s.take k) (s.drop k) = true) (opens : s.drop k = quote :: body)
    (h : quote = '\x27' ∨ quote = '"' ∨ quote = '\x60') (length : quotedLength quote body = m) :
    Whole (m + k + 1) s := by
  have hbody := whole_quoted h body
  rw [← opens, length] at hbody
  have hboth := (whole_take letters).add hbody
  rwa [← Nat.add_assoc, Nat.add_comm k] at hboth

theorem dollarTag?_append {name : List Char}
    (ascii : ∀ c ∈ name, (c.isAlphanum || c == '_') = true) (rest : List Char) :
    dollarTag? (name ++ '$' :: rest) = some (fence name) := by
  have hname : (name ++ '$' :: rest).takeWhile (fun c => c.isAlphanum || c == '_') = name := by
    rw [List.takeWhile_append_of_pos ascii]
    simp
  simp only [dollarTag?, hname, List.drop_left]
  rfl

theorem unitTail_fence {name : List Char}
    (ascii : ∀ c ∈ name, (c.isAlphanum || c == '_') = true) (rest : List Char) :
    unitTail '$' (name ++ '$' :: rest) = name.length + 1 + taggedLength (fence name) rest := by
  have hlength : (fence name).length - 1 = name.length + 1 := by
    simp [fence]
  have hbody : (name ++ '$' :: rest).drop (name.length + 1) = rest := by
    rw [List.drop_append, List.drop_eq_nil_of_le (Nat.le_succ _), Nat.add_sub_cancel_left]
    rfl
  rw [unitTail, if_neg (by decide), if_pos rfl, dollarTag?_append ascii]
  simp only [hlength, hbody]

theorem whole_fences {name text : List Char} (rest : List Char)
    (ascii : ∀ c ∈ name, (c.isAlphanum || c == '_') = true)
    (first : ¬ fence name <:+: (text ++ fence name).dropLast) :
    Whole (text.length + (fence name).length + (fence name).length)
      (fence name ++ (text ++ (fence name ++ rest))) := by
  have hopen : fence name ++ (text ++ (fence name ++ rest)) =
      '$' :: (name ++ '$' :: (text ++ (fence name ++ rest))) := by
    simp [fence]
  have hlength : (fence name).length = name.length + 2 := by
    simp [fence]
  have hunit := whole_unit (c := '$') (by decide) (name ++ '$' :: (text ++ (fence name ++ rest)))
  rw [unitTail_fence ascii, taggedLength_append rest (fence_ne_nil name) first, ← hopen] at hunit
  have hsum : name.length + 1 + (text.length + (fence name).length) + 1 =
      text.length + (fence name).length + (fence name).length := by
    omega
  rwa [hsum] at hunit

theorem whole_fenced {name text s : List Char} {n : Nat}
    (h : s.take n = fence name ++ (text ++ fence name))
    (ascii : ∀ c ∈ name, (c.isAlphanum || c == '_') = true)
    (first : ¬ fence name <:+: (text ++ fence name).dropLast) : Whole n s := by
  refine whole_of_take h ?_
  rw [List.length_append, List.length_append, Nat.add_comm, List.append_assoc, List.append_assoc]
  exact whole_fences (s.drop n) ascii first

theorem drop_length_takeWhile (p : Char → Bool) (s : List Char) :
    s.drop (s.takeWhile p).length = s.dropWhile p := by
  conv => lhs; arg 2; rw [← List.takeWhile_append_dropWhile (p := p) (l := s)]
  exact List.drop_left

theorem whole_lineEnd {s : List Char} (h : lineLength s < s.length) :
    Whole 1 (s.drop (lineLength s)) := by
  have hdrop : s.drop (lineLength s) = s.dropWhile (· != '\n') := drop_length_takeWhile _ s
  have hne : s.dropWhile (· != '\n') ≠ [] := by
    rw [← hdrop]
    exact fun hnil => absurd (List.drop_eq_nil_iff.1 hnil) (Nat.not_le.2 h)
  have hend := List.head_dropWhile_not (· != '\n') hne
  rw [hdrop]
  cases hs : s.dropWhile (· != '\n') with
  | nil => exact absurd hs hne
  | cons c rest =>
    simp only [hs, List.head_cons, bne_eq_false_iff_eq] at hend
    rw [hend]
    exact whole_unit (by decide) rest

theorem whole_line {s : List Char} (h : s.head? = some '-') (h' : s.tail.head? = some '-') :
    Whole (Sql.lineLength s) s := by
  obtain ⟨rest, rfl⟩ := List.head?_eq_some_iff.1 h
  have hline : (('-' :: rest).takeWhile (· != '\n')).length = lineLength rest + 1 := by
    rw [lineLength]
    rfl
  have hunit := whole_unit (c := '-') (by decide) rest
  rw [List.tail_cons] at h'
  rw [unitTail_line h'] at hunit
  simp only [Sql.lineLength, hline]
  split
  next hend =>
    rw [List.length_cons, Nat.add_lt_add_iff_right] at hend
    exact hunit.add (whole_lineEnd hend)
  next => exact hunit

theorem whole_comment {body : List Char} {n : Nat} (length : commentLength body = n) :
    Whole (n + 2) ('/' :: '*' :: body) := by
  have hunit := whole_unit (c := '/') (by decide) ('*' :: body)
  rwa [unitTail_comment, length] at hunit

theorem whole_block {s : List Char} {n : Nat} {body : List Char} (opens : s = '/' :: '*' :: body)
    (read : blockLength 1 ' ' body = some n) (flat : ¬ ['/', '*'] <:+: body.take n) :
    Whole (n + 2) s := by
  rw [opens]
  exact whole_comment (commentLength_of_blockLength read flat)

end SqlAudit.Catalog
