import Mathlib.Data.List.Basic
import SqlAudit.Sql.Token.Scan

/-!
Scanning goes through a text token by token: every token takes a character at least, and the tokens
of a text that can be scanned, as they are written, make up the text. A token is plain, or it is read
in one of the ways that know quotes, fences and comments.
-/

namespace SqlAudit.Sql

open Text

/-! ### Plain tokens -/

def Token.isPlain : Token → Bool
  | .word w => w.quote.isNone
  | .string _ _ | .dollarString _ _ | .comment | .semicolon => false
  | _ => true

structure PlainRead (r : Token × Nat) : Prop where
  plain : r.1.isPlain = true
  positive : 0 < r.2

theorem plainRead_wordFrom (d : Dialect) {k : Nat} (h : 0 < k) (c : Char) (rest : List Char) :
    PlainRead (wordFrom d k (c :: rest)) := by
  obtain ⟨k, rfl⟩ := Nat.exists_eq_succ_of_ne_zero (Nat.ne_of_gt h)
  unfold wordFrom
  extract_lets word
  have hword : 0 < word.length := by
    simp only [word, List.take_succ_cons, List.cons_append, List.length_cons]
    exact Nat.succ_pos _
  split
  · exact ⟨rfl, Nat.add_pos_left hword _⟩
  · exact ⟨rfl, hword⟩

theorem mem_of_longestOperator {operators : List String} {s : List Char} {o : String}
    (h : longestOperator operators s = some o) : o ∈ operators := by
  have hbest : ∀ o ∈ longestOperator operators s, o ∈ operators := by
    refine List.foldlRecOn (motive := fun best : Option String => ∀ o ∈ best, o ∈ operators)
      _ _ (by simp) ?_
    intro best hb hit hhit o ho
    have hknown : hit ∈ operators := List.mem_of_mem_filter hhit
    split at ho
    next b =>
      split at ho
      · exact Option.mem_some.1 ho ▸ hknown
      · exact hb o ho
    next => exact Option.mem_some.1 ho ▸ hknown
  exact hbest o h

theorem isPlain_ofOperator (text : String) : (Token.ofOperator text).isPlain = true := by
  unfold Token.ofOperator
  split <;> rfl

theorem plainRead_operator? {d : Dialect} {s : List Char} {r : Token × Nat}
    (h : operator? d s = some r) : PlainRead r := by
  have hopen : ∀ o ∈ openOperators, 0 < o.length := by decide
  have hclosed : ∀ o ∈ dialectOperators d ++ closedOperators, 0 < o.length := by
    cases d <;> decide
  simp only [operator?] at h
  split at h
  next o ho =>
    have hpos := hopen o (mem_of_longestOperator ho)
    split at h <;> cases h
    · exact ⟨isPlain_ofOperator _, hpos⟩
    · exact ⟨rfl, Nat.add_pos_left hpos _⟩
  next o _ ho =>
    cases h
    exact ⟨isPlain_ofOperator _, hclosed o (mem_of_longestOperator ho)⟩
  next => cases h

theorem plainRead_markedToken (d : Dialect) (c : Char) (rest : List Char) :
    PlainRead (markedToken d (c :: rest)) := by
  have hgeneral : ∀ s : List Char,
      PlainRead ((operator? d s).getD (.operator (String.ofList (s.take 1)), 1)) := by
    intro s
    cases h : operator? d s with
    | none => exact ⟨rfl, Nat.one_pos⟩
    | some r => exact plainRead_operator? h
  simp only [markedToken]
  split
  · split
    · exact hgeneral _
    · exact plainRead_wordFrom d Nat.two_pos _ _
  · split
    · exact ⟨rfl, Nat.two_pos⟩
    · exact plainRead_wordFrom d (Nat.succ_pos 2) _ _
  · split
    · exact hgeneral _
    · exact plainRead_wordFrom d Nat.two_pos _ _
  · exact hgeneral _

/-! ### Numbers -/

theorem numberOrPeriod_cases (d : Dialect) {c : Char} (rest : List Char)
    (h : c.isDigit = true ∨ c = '.') :
    PlainRead (numberOrPeriod d (c :: rest)) ∨
      ∃ rest', c :: rest = '0' :: 'x' :: rest' ∧
        numberOrPeriod d (c :: rest) =
          (.string .hex (String.ofList (rest'.takeWhile isHexDigit)),
            (rest'.takeWhile isHexDigit).length + 2) := by
  unfold numberOrPeriod
  extract_lets whole
  split
  next rest' hzero hx =>
    refine Or.inr ⟨rest', ?_, rfl⟩
    have hwhole : whole ++ (c :: rest).drop whole.length = c :: rest :=
      List.prefix_iff_eq_append.1 (List.takeWhile_prefix Char.isDigit)
    rw [hx, hzero] at hwhole
    exact hwhole.symm
  next =>
    left
    extract_lets mantissa
    have hmantissa : 0 < mantissa.length := by
      rcases h with hdigit | rfl
      · have hwhole : 0 < whole.length := by
          simp only [whole, List.takeWhile_cons, hdigit, if_true, List.length_cons]
          exact Nat.succ_pos _
        simp only [mantissa]
        split
        · rw [List.length_append]
          exact Nat.add_pos_left hwhole _
        · exact hwhole
      · exact Nat.succ_pos _
    split
    next => exact ⟨rfl, Nat.one_pos⟩
    next exponent text ahead name _ =>
      have htext : 0 < text.length := by
        simp only [text, List.length_take, List.length_cons]
        exact Nat.lt_min.2 ⟨Nat.add_pos_left hmantissa _, Nat.succ_pos _⟩
      clear_value ahead
      split
      · split
        · exact ⟨rfl, Nat.succ_pos _⟩
        · exact ⟨rfl, htext⟩
      · exact ⟨rfl, Nat.add_pos_left htext _⟩

/-! ### Special tokens -/

/-- The ways to read a token that is not plain. -/
inductive ReadSpecial (d : Dialect) : List Char → Token → Nat → Prop
  | single {rest : List Char} {token : Token} {n : Nat}
      (read : quotedString .single '\x27' (d == .mysql) 0 ('\x27' :: rest) = .ok (token, n)) :
      ReadSpecial d ('\x27' :: rest) token n
  | double {rest : List Char} {token : Token} {n : Nat}
      (read : quotedString .double '"' true 0 ('"' :: rest) = .ok (token, n)) :
      ReadSpecial d ('"' :: rest) token n
  | name {quote : Char} {rest : List Char} {token : Token} {n : Nat}
      (opens : quotesName d quote = true)
      (read : quotedName quote (quote :: rest) = .ok (token, n)) :
      ReadSpecial d (quote :: rest) token n
  | hex (rest : List Char) :
      ReadSpecial d ('0' :: 'x' :: rest) (.string .hex (String.ofList (rest.takeWhile isHexDigit)))
        ((rest.takeWhile isHexDigit).length + 2)
  | semicolon (rest : List Char) : ReadSpecial d (';' :: rest) .semicolon 1
  | line (rest : List Char) :
      ReadSpecial d ('-' :: '-' :: rest) .comment (lineLength ('-' :: '-' :: rest))
  | block {rest : List Char} {token : Token} {n : Nat}
      (read : blockComment ('/' :: '*' :: rest) = .ok (token, n)) :
      ReadSpecial d ('/' :: '*' :: rest) token n
  | mark (rest : List Char) : ReadSpecial d ('#' :: rest) .comment (lineLength ('#' :: rest))
  | letter {c : Char} {rest : List Char} {token : Token} {n : Nat}
      (starts : isAsciiLetter c = true) (read : letterToken d c (c :: rest) = .ok (token, n)) :
      ReadSpecial d (c :: rest) token n
  | dollar {rest : List Char} {token : Token} {n : Nat}
      (read : dollarValue ('$' :: rest) = .ok (token, n)) : ReadSpecial d ('$' :: rest) token n

theorem PlainRead.of_ok {r : Token × Nat} {token : Token} {n : Nat}
    (h : (.ok r : Scanned) = .ok (token, n)) (plain : PlainRead r) : PlainRead (token, n) := by
  cases h
  exact plain

theorem of_ite_eq {p : Prop} [Decidable p] {x y r : Scanned} {goal : Prop}
    (h : (if p then x else y) = r) (pos : p → x = r → goal) (neg : ¬ p → y = r → goal) : goal := by
  split at h
  next hp => exact pos hp h
  next hp => exact neg hp h

theorem plain_or_special_number {d : Dialect} {c : Char} {rest : List Char} {token : Token}
    {n : Nat} (h : c.isDigit = true ∨ c = '.')
    (read : (.ok (numberOrPeriod d (c :: rest)) : Scanned) = .ok (token, n)) :
    PlainRead (token, n) ∨ ReadSpecial d (c :: rest) token n := by
  rcases numberOrPeriod_cases d rest h with hplain | ⟨rest', hrest, hnumber⟩
  · exact Or.inl (hplain.of_ok read)
  · rw [hnumber] at read
    cases read
    rw [hrest]
    exact Or.inr (.hex rest')

theorem plain_or_special {d : Dialect} {afterWord : Bool} {c : Char} {rest : List Char}
    {token : Token} {n : Nat} (read : nextToken d afterWord (c :: rest) = .ok (token, n)) :
    PlainRead (token, n) ∨ ReadSpecial d (c :: rest) token n := by
  have hone : ∀ {t : Token}, t.isPlain = true → (.ok (t, 1) : Scanned) = .ok (token, n) →
      PlainRead (token, n) := fun ht h => .of_ok h ⟨ht, Nat.one_pos⟩
  rw [nextToken] at read
  -- blanks
  refine of_ite_eq read (fun _ h => Or.inl (hone rfl h)) fun _ read => ?_
  refine of_ite_eq read (fun _ h => Or.inl (.of_ok h ⟨rfl, ?_⟩)) fun _ read => ?_
  · split <;> decide
  -- quotes
  refine of_ite_eq read (fun hc h => ?_) fun _ read => ?_
  · obtain rfl := beq_iff_eq.1 hc
    exact Or.inr (.single h)
  refine of_ite_eq read (fun hc h => Or.inr (.name hc h)) fun _ read => ?_
  refine of_ite_eq read (fun hc h => ?_) fun _ read => ?_
  · obtain rfl := beq_iff_eq.1 hc
    exact Or.inr (.double h)
  -- numbers and periods
  refine of_ite_eq read (fun hc h => plain_or_special_number (Or.inl hc) h) fun _ read => ?_
  refine of_ite_eq read (fun hc h => ?_) fun _ read => ?_
  · refine of_ite_eq h (fun _ h => ?_) fun _ h =>
      plain_or_special_number (Or.inr (beq_iff_eq.1 hc)) h
    refine of_ite_eq h (fun _ h => Or.inl (hone rfl h)) fun _ h => ?_
    cases h
  -- marks
  refine of_ite_eq read (fun _ h => Or.inl (hone rfl h)) fun _ read => ?_
  refine of_ite_eq read (fun _ h => Or.inl (hone rfl h)) fun _ read => ?_
  refine of_ite_eq read (fun _ h => Or.inl (hone rfl h)) fun _ read => ?_
  refine of_ite_eq read (fun hc h => ?_) fun _ read => ?_
  · obtain rfl := beq_iff_eq.1 hc
    cases h
    exact Or.inr (.semicolon rest)
  -- comments
  refine of_ite_eq read (fun hc h => ?_) fun _ read => ?_
  · rw [Bool.and_eq_true, beq_iff_eq, beq_iff_eq] at hc
    obtain ⟨rfl, hhead⟩ := hc
    obtain ⟨rest', rfl⟩ := List.head?_eq_some_iff.1 hhead
    cases h
    exact Or.inr (.line rest')
  refine of_ite_eq read (fun hc h => ?_) fun _ read => ?_
  · rw [Bool.and_eq_true, beq_iff_eq, beq_iff_eq] at hc
    obtain ⟨rfl, hhead⟩ := hc
    obtain ⟨rest', rfl⟩ := List.head?_eq_some_iff.1 hhead
    exact Or.inr (.block h)
  refine of_ite_eq read (fun hc h => ?_) fun _ read => ?_
  · rw [Bool.and_eq_true, beq_iff_eq] at hc
    obtain ⟨rfl, -⟩ := hc
    cases h
    exact Or.inr (.mark rest)
  -- names, placeholders and operators
  refine of_ite_eq read (fun _ h => Or.inl (.of_ok h (plainRead_markedToken d c rest)))
    fun _ read => ?_
  refine of_ite_eq read (fun _ h => Or.inl (.of_ok h ⟨rfl, Nat.succ_pos _⟩)) fun _ read => ?_
  refine of_ite_eq read (fun hc h => Or.inr (.letter hc h)) fun _ read => ?_
  refine of_ite_eq read (fun _ h => Or.inl (.of_ok h (plainRead_wordFrom d Nat.one_pos c rest)))
    fun _ read => ?_
  refine of_ite_eq read (fun hc h => ?_) fun _ read => ?_
  · obtain rfl := beq_iff_eq.1 hc
    exact Or.inr (.dollar h)
  left
  cases hoperator : operator? d (c :: rest) with
  | some r =>
    rw [hoperator] at read
    exact .of_ok read (plainRead_operator? hoperator)
  | none =>
    rw [hoperator] at read
    refine hone ?_ read
    split <;> rfl

/-! ### Every token takes a character -/

/-- A token that separates nothing and takes a character at least. -/
structure Takes (r : Token × Nat) : Prop where
  inside : r.1 ≠ .semicolon
  positive : 0 < r.2

theorem PlainRead.takes {r : Token × Nat} (h : PlainRead r) : Takes r := by
  refine ⟨fun heq => ?_, h.positive⟩
  have hplain := h.plain
  rw [heq] at hplain
  cases hplain

theorem takes_quotedString {form : StringForm} {quote : Char} {escapes : Bool} {k n : Nat}
    {s : List Char} {token : Token}
    (read : quotedString form quote escapes k s = .ok (token, n)) : Takes (token, n) := by
  rw [quotedString] at read
  split at read <;> cases read
  exact ⟨by simp, Nat.succ_pos _⟩

theorem takes_quotedName {quote : Char} {s : List Char} {token : Token} {n : Nat}
    (read : quotedName quote s = .ok (token, n)) : Takes (token, n) := by
  rw [quotedName] at read
  split at read <;> cases read
  exact ⟨by simp, Nat.succ_pos _⟩

theorem lineLength_pos {c : Char} (h : c ≠ '\n') (rest : List Char) :
    0 < lineLength (c :: rest) := by
  have hc : (c != '\n') = true := bne_iff_ne.2 h
  simp only [lineLength, List.takeWhile_cons, hc, if_true, List.length_cons]
  split <;> exact Nat.succ_pos _

theorem takes_blockComment {s : List Char} {token : Token} {n : Nat}
    (read : blockComment s = .ok (token, n)) : Takes (token, n) := by
  rw [blockComment] at read
  split at read <;> cases read
  exact ⟨by simp, Nat.succ_pos _⟩

theorem takes_dollarValue {s : List Char} {token : Token} {n : Nat}
    (read : dollarValue s = .ok (token, n)) : Takes (token, n) := by
  simp only [dollarValue] at read
  split at read
  · split at read <;> cases read
    exact ⟨by simp, Nat.succ_pos _⟩
  · split at read
    · split at read <;> cases read
      exact ⟨by simp, Nat.succ_pos _⟩
    · cases read
      exact ⟨by simp, Nat.succ_pos _⟩

theorem takes_escapedString {s : List Char} {token : Token} {n : Nat}
    (read : escapedString s = .ok (token, n)) : Takes (token, n) := by
  rw [escapedString] at read
  split at read <;> cases read
  exact ⟨by simp, Nat.succ_pos _⟩

theorem map_eq_ok {ε α β : Type} {f : α → β} {x : Except ε α} {b : β} (h : x.map f = .ok b) :
    ∃ a, x = .ok a ∧ f a = b := by
  cases x with
  | error e => cases h
  | ok a => exact ⟨a, rfl, Except.ok.inj h⟩

theorem exists_of_hexChar_bind {k skip : Nat} {s : List Char} {n : Nat} {text : List Char}
    {f : Nat → Except (ScanFault × Nat) (List Char × Nat)}
    (read : (do
      let (e, m) ← hexChar k skip s
      (f m).map fun (r : List Char × Nat) => (e :: r.1, r.2)) = .ok (text, n)) :
    ∃ e m body, hexChar k skip s = .ok (e, m) ∧ f m = .ok (body, n) := by
  cases hhex : hexChar k skip s with
  | error fault =>
    rw [hhex] at read
    cases read
  | ok r =>
    rw [hhex] at read
    obtain ⟨⟨body, m⟩, hbody, hr⟩ := map_eq_ok read
    cases hr
    exact ⟨r.1, r.2, body, rfl, hbody⟩

theorem lt_of_unicodeBody {fuel skip : Nat} {s text : List Char} {n : Nat}
    (read : unicodeBody fuel skip s = .ok (text, n)) : skip < n := by
  fun_induction unicodeBody fuel skip s generalizing text n with
  | case1 | case2 => cases read
  | case3 fuel skip rest ih | case5 fuel skip rest _ ih | case8 fuel skip c rest _ _ ih =>
    obtain ⟨⟨body, m⟩, hbody, hr⟩ := map_eq_ok read
    cases hr
    have hlt := ih hbody
    omega
  | case4 =>
    cases read
    exact Nat.lt_succ_self _
  | case6 fuel skip rest _ ih =>
    obtain ⟨e, m, body, -, hbody⟩ := exists_of_hexChar_bind
      (f := fun m => unicodeBody fuel (skip + 2 + m) (rest.drop m)) read
    have hlt := ih m hbody
    omega
  | case7 fuel skip rest _ _ _ ih =>
    obtain ⟨e, m, body, -, hbody⟩ := exists_of_hexChar_bind
      (f := fun m => unicodeBody fuel (skip + 1 + m) (rest.drop m)) read
    have hlt := ih m hbody
    omega

theorem takes_unicodeString {s : List Char} {token : Token} {n : Nat}
    (read : unicodeString s = .ok (token, n)) : Takes (token, n) := by
  obtain ⟨⟨text, m⟩, hbody, hr⟩ := map_eq_ok read
  cases hr
  exact ⟨by simp, Nat.zero_lt_of_lt (lt_of_unicodeBody hbody)⟩

theorem takes_letterToken {d : Dialect} {c : Char} {rest : List Char} {token : Token} {n : Nat}
    (read : letterToken d c (c :: rest) = .ok (token, n)) : Takes (token, n) := by
  have hword : (.ok (wordFrom d 1 (c :: rest)) : Scanned) = .ok (token, n) → Takes (token, n) :=
    fun h => (PlainRead.of_ok h (plainRead_wordFrom d Nat.one_pos c rest)).takes
  simp only [letterToken] at read
  split at read
  · exact takes_quotedString read
  · exact takes_quotedString read
  · exact of_ite_eq read (fun _ h => takes_quotedString h) fun _ h => hword h
  · exact of_ite_eq read (fun _ h => takes_quotedString h) fun _ h => hword h
  · exact takes_quotedString read
  · exact takes_escapedString read
  · exact of_ite_eq read (fun _ h => hword h) fun _ h => takes_unicodeString h
  · exact takes_quotedString read
  · exact hword read

theorem takes_or_semicolon {d : Dialect} {afterWord : Bool} {c : Char} {rest : List Char}
    {token : Token} {n : Nat} (read : nextToken d afterWord (c :: rest) = .ok (token, n)) :
    Takes (token, n) ∨ c = ';' ∧ token = .semicolon ∧ n = 1 := by
  rcases plain_or_special read with hplain | hspecial
  · exact Or.inl hplain.takes
  cases hspecial with
  | semicolon => exact Or.inr ⟨rfl, rfl, rfl⟩
  | single read => exact Or.inl (takes_quotedString read)
  | double read => exact Or.inl (takes_quotedString read)
  | name _ read => exact Or.inl (takes_quotedName read)
  | hex => exact Or.inl ⟨by simp, Nat.succ_pos _⟩
  | line rest => exact Or.inl ⟨by simp, lineLength_pos (by decide) _⟩
  | block read => exact Or.inl (takes_blockComment read)
  | mark rest => exact Or.inl ⟨by simp, lineLength_pos (by decide) _⟩
  | letter _ read => exact Or.inl (takes_letterToken read)
  | dollar read => exact Or.inl (takes_dollarValue read)

theorem nextToken_pos {d : Dialect} {afterWord : Bool} {c : Char} {rest : List Char} {token : Token}
    {n : Nat} (read : nextToken d afterWord (c :: rest) = .ok (token, n)) : 0 < n := by
  rcases takes_or_semicolon read with htakes | ⟨-, -, rfl⟩
  · exact htakes.positive
  · exact Nat.one_pos

/-! ### Texts as written tokens -/

def writtenFrom (d : Dialect) : Nat → Bool → List Char → List (Token × List Char)
  | 0, _, _ => []
  | _ + 1, _, [] => []
  | fuel + 1, afterWord, c :: rest =>
    match nextToken d afterWord (c :: rest) with
    | .error _ => []
    | .ok (token, n) =>
      (token, (c :: rest).take n) :: writtenFrom d fuel token.isWord ((c :: rest).drop n)

def written (d : Dialect) (text : String) : List (Token × List Char) :=
  writtenFrom d text.toList.length false text.toList

theorem writtenFrom_of_scanFrom {d : Dialect} {fuel : Nat} {afterWord : Bool} {place : Position}
    {s : List Char} {lexemes : List Lexeme} (enough : s.length ≤ fuel)
    (scanned : scanFrom d fuel afterWord place s = .ok lexemes) :
    (writtenFrom d fuel afterWord s).map (·.1) = lexemes.map (·.token) ∧
      (writtenFrom d fuel afterWord s).flatMap (·.2) = s := by
  induction fuel generalizing afterWord place s lexemes with
  | zero =>
    obtain rfl := List.length_eq_zero_iff.1 (Nat.le_zero.1 enough)
    cases scanned
    exact ⟨rfl, rfl⟩
  | succ fuel ih =>
    cases s with
    | nil =>
      cases scanned
      exact ⟨rfl, rfl⟩
    | cons c rest =>
      simp only [scanFrom] at scanned
      rw [writtenFrom]
      cases hread : nextToken d afterWord (c :: rest) with
      | error fault =>
        rw [hread] at scanned
        cases scanned
      | ok r =>
        obtain ⟨token, n⟩ := r
        rw [hread] at scanned
        obtain ⟨lexemes', hrest, rfl⟩ := map_eq_ok scanned
        have hpos := nextToken_pos hread
        have hlength : ((c :: rest).drop n).length ≤ fuel := by
          rw [List.length_drop]
          omega
        obtain ⟨htokens, htexts⟩ := ih hlength hrest
        constructor
        · rw [List.map_cons, List.map_cons, htokens]
        · rw [List.flatMap_cons, htexts, List.take_append_drop]

end SqlAudit.Sql
