import SqlAudit.Proofs.Catalog.Pieces

/-!
The statements that cutting a script gives are the texts between its semicolon tokens, if the rules
of the cutter are right for each token.
-/

namespace SqlAudit.Catalog

open Sql Text

/-! ### Clear tokens -/

/-- Whether a backslash in a string takes the character after it along. -/
def escapes (d : Dialect) : StringForm → Bool
  | .double | .escaped | .hex => true
  | .single | .national => d == .mysql
  | _ => false

/-- Whether the rules of the cutter are right for a token that is written as `w` and followed by
`rest`. -/
def clear (d : Dialect) (token : Token) (w rest : List Char) : Bool :=
  match token with
  | .semicolon => true
  | .word ⟨_, some _, _⟩ => true
  | .string form _ => !escapes d form || !w.contains '\\'
  | .dollarString tag text =>
    tag.toList.all (fun c => c.isAlphanum || c == '_') &&
      !decide (fence tag.toList <:+: (text.toList ++ fence tag.toList).dropLast)
  | .comment =>
    match w with
    | '-' :: _ => true
    | '/' :: _ :: body => !decide (['/', '*'] <:+: body)
    | _ => quiet w rest
  | _ => quiet w rest

theorem clear_of_isPlain {token : Token} (h : token.isPlain = true) (d : Dialect)
    (w rest : List Char) : clear d token w rest = quiet w rest := by
  cases token with
  | word w =>
    obtain ⟨value, quote, keyword⟩ := w
    cases quote with
    | none => rfl
    | some q => cases h
  | string | dollarString | comment | semicolon => cases h
  | number | placeholder | leftParen | rightParen | comma | period | star | equal | notEqual
  | operator | char | blank => rfl

/-! ### Clear tokens stay whole -/

theorem unmarked_of_alphanum {c : Char} (h : c.isAlphanum = true) : c ∉ marks := by
  intro hc
  simp only [marks, List.mem_cons, List.not_mem_nil, or_false] at hc
  rcases hc with rfl | rfl | rfl | rfl | rfl | rfl | rfl <;> cases h

theorem quiet_cons_of_alphanum {c : Char} (h : c.isAlphanum = true) (w rest : List Char) :
    quiet (c :: w) rest = quiet w rest := quiet_cons_of_unmarked (unmarked_of_alphanum h) w rest

theorem quiet_of_alphanum {w : List Char} (h : ∀ c ∈ w, c.isAlphanum = true) (rest : List Char) :
    quiet w rest = true := quiet_of_unmarked (fun c hc => unmarked_of_alphanum (h c hc)) rest

theorem not_mem_of_clear {d : Dialect} {form : StringForm} {text : String} {w rest : List Char}
    (ok : clear d (.string form text) w rest = true) (h : escapes d form = true) : '\\' ∉ w := by
  simpa [clear, h] using ok

theorem mem_take_of_mem_take_drop {c : Char} {k m : Nat} {s : List Char}
    (h : c ∈ (s.drop k).take m) : c ∈ s.take (m + k) := by
  rw [Nat.add_comm, List.take_add]
  exact List.mem_append_right _ h

theorem whole_quotedString {d : Dialect} (form : StringForm) {quote : Char} {k n : Nat}
    {s : List Char} {token : Token}
    (read : quotedString form quote (escapes d form) k s = .ok (token, n))
    (ok : clear d token (s.take n) (s.drop n) = true)
    (letters : quiet (s.take k) (s.drop k) = true) (opens : (s.drop k).head? = some quote)
    (h : quote = '\x27' ∨ quote = '"') : Whole n s := by
  obtain ⟨body, hbody⟩ := List.head?_eq_some_iff.1 opens
  have hdrop : s.drop (k + 1) = body := by
    rw [← List.drop_drop, hbody]
    rfl
  rw [quotedString] at read
  cases hquoted : quotedBody quote (escapes d form) (s.drop (k + 1)) with
  | none =>
    rw [hquoted] at read
    cases read
  | some r =>
    rw [hquoted] at read
    cases read
    have hplain : escapes d form = true → '\\' ∉ (s.drop (k + 1)).take r.2 := fun hescapes hmem =>
      not_mem_of_clear ok hescapes (mem_take_of_mem_take_drop (k := k + 1) hmem)
    have hlength := quotedLength_of_quotedBody hquoted hplain
    rw [hdrop] at hlength
    exact whole_behind letters hbody (h.imp_right Or.inl) hlength

theorem whole_quotedName {d : Dialect} {quote : Char} {rest : List Char} {token : Token} {n : Nat}
    (read : quotedName quote (quote :: rest) = .ok (token, n)) (h : quotesName d quote = true) :
    Whole n (quote :: rest) := by
  have hquote : quote = '\x27' ∨ quote = '"' ∨ quote = '\x60' := by
    cases d <;> simp [quotesName] at h <;> tauto
  rw [quotedName, List.drop_one, List.tail_cons] at read
  cases hquoted : quotedBody quote false rest with
  | none =>
    rw [hquoted] at read
    cases read
  | some r =>
    rw [hquoted] at read
    cases read
    have hlength := quotedLength_of_quotedBody hquoted fun h => absurd h Bool.false_ne_true
    rw [← hlength]
    exact whole_quoted hquote rest

theorem isAlphanum_of_isHexDigit {c : Char} (h : isHexDigit c = true) : c.isAlphanum = true := by
  simp only [isHexDigit, hexDigit?] at h
  unfold Char.isAlphanum Char.isAlpha
  rw [Bool.or_eq_true, Bool.or_eq_true]
  split at h
  next hdigit => exact Or.inr hdigit
  next =>
    split at h
    next hlower =>
      rw [Bool.and_eq_true, decide_eq_true_eq, decide_eq_true_eq] at hlower
      have hz : c ≤ 'z' := Char.le_trans hlower.2 (by decide)
      have hboth : c.isLower = true := by
        unfold Char.isLower
        rw [Bool.and_eq_true, decide_eq_true_eq, decide_eq_true_eq]
        exact ⟨hlower.1, hz⟩
      exact Or.inl (Or.inr hboth)
    next =>
      split at h
      next hupper =>
        rw [Bool.and_eq_true, decide_eq_true_eq, decide_eq_true_eq] at hupper
        have hz : c ≤ 'Z' := Char.le_trans hupper.2 (by decide)
        have hboth : c.isUpper = true := by
          unfold Char.isUpper
          exact decide_eq_true ⟨hupper.1, hz⟩
        exact Or.inl (Or.inl hboth)
      next => cases h

theorem isAlphanum_of_isAsciiLetter {c : Char} (h : isAsciiLetter c = true) :
    c.isAlphanum = true := by
  rw [isAsciiLetter] at h
  rw [Char.isAlphanum, h, Bool.true_or]

theorem whole_hex (rest : List Char) :
    Whole ((rest.takeWhile isHexDigit).length + 2) ('0' :: 'x' :: rest) := by
  have htake : ('0' :: 'x' :: rest).take ((rest.takeWhile isHexDigit).length + 2) =
      '0' :: 'x' :: rest.takeWhile isHexDigit := by
    rw [List.take_succ_cons, List.take_succ_cons,
      ← List.prefix_iff_eq_take.1 (List.takeWhile_prefix isHexDigit)]
  refine whole_take (quiet_of_alphanum ?_ _)
  rw [htake, List.forall_mem_cons, List.forall_mem_cons]
  refine ⟨by decide, by decide, fun c hc => isAlphanum_of_isHexDigit ?_⟩
  exact List.all_eq_true.1 List.all_takeWhile c hc

theorem whole_escapedString {d : Dialect} {c : Char} {s : List Char} {token : Token} {n : Nat}
    (read : escapedString (c :: '\x27' :: s) = .ok (token, n))
    (ok : clear d token ((c :: '\x27' :: s).take n) ((c :: '\x27' :: s).drop n) = true)
    (letter : c.isAlphanum = true) : Whole n (c :: '\x27' :: s) := by
  rw [escapedString] at read
  cases hbody : escapedBody (c :: '\x27' :: s).length ((c :: '\x27' :: s).drop 2) with
  | none =>
    rw [hbody] at read
    cases read
  | some r =>
    rw [hbody] at read
    cases read
    have hplain : '\\' ∉ s.take r.2 := fun hmem =>
      not_mem_of_clear ok rfl (mem_take_of_mem_take_drop (k := 2) hmem)
    have hletter : quiet [c] ('\x27' :: s) = true := quiet_of_alphanum (by simpa using letter) _
    exact whole_behind (k := 1) hletter rfl (Or.inl rfl) (quotedLength_of_escapedBody hbody hplain)

theorem whole_unicodeString {c : Char} {s : List Char} {token : Token} {n : Nat}
    (read : unicodeString (c :: '&' :: '\x27' :: s) = .ok (token, n))
    (letter : c.isAlphanum = true) : Whole n (c :: '&' :: '\x27' :: s) := by
  obtain ⟨⟨text, m⟩, hbody, hr⟩ := map_eq_ok read
  cases hr
  have hlength := quotedLength_of_unicodeBody hbody
  have hletters : quiet [c, '&'] ('\x27' :: s) = true := by
    rw [quiet_cons_of_alphanum letter]
    rfl
  have hwhole := whole_behind (k := 2) (s := c :: '&' :: '\x27' :: s) hletters rfl (Or.inl rfl) rfl
  rw [← hlength, Nat.add_comm 3]
  exact hwhole

theorem whole_letterToken {d : Dialect} {c : Char} {s : List Char} {token : Token} {n : Nat}
    (read : letterToken d c (c :: s) = .ok (token, n))
    (ok : clear d token ((c :: s).take n) ((c :: s).drop n) = true) (letter : c.isAlphanum = true)
    (h : token.isPlain = false) : Whole n (c :: s) := by
  have hletter : quiet ((c :: s).take 1) ((c :: s).drop 1) = true :=
    quiet_of_alphanum (w := [c]) (by simpa using letter) s
  have hword : .ok (wordFrom d 1 (c :: s)) ≠ (.ok (token, n) : Scanned) := by
    intro heq
    have hplain := (plainRead_wordFrom d Nat.one_pos c s).plain
    rw [Except.ok.inj heq, h] at hplain
    cases hplain
  simp only [letterToken, List.drop_one, List.tail_cons] at read
  split at read
  · exact whole_quotedString .bytes read ok hletter rfl (Or.inl rfl)
  · exact whole_quotedString .doubleBytes read ok hletter rfl (Or.inr rfl)
  · split at read
    · exact whole_quotedString .raw read ok hletter rfl (Or.inl rfl)
    · exact absurd read hword
  · split at read
    · exact whole_quotedString .doubleRaw read ok hletter rfl (Or.inr rfl)
    · exact absurd read hword
  · exact whole_quotedString .national read ok hletter rfl (Or.inl rfl)
  · exact whole_escapedString read ok letter
  · split at read
    · exact absurd read hword
    · exact whole_unicodeString read letter
  · exact whole_quotedString .hex read ok hletter rfl (Or.inl rfl)
  · exact absurd read hword

theorem whole_dollarString {d : Dialect} {name text s : List Char} {n : Nat}
    (written : s.take n = fence name ++ (text ++ fence name))
    (ok : clear d (.dollarString (String.ofList name) (String.ofList text)) (s.take n) (s.drop n) =
      true) : Whole n s := by
  simp only [clear, String.toList_ofList, Bool.and_eq_true, List.all_eq_true, Bool.not_eq_true',
    decide_eq_false_iff_not] at ok
  exact whole_fenced written ok.1 ok.2

theorem whole_dollarValue {d : Dialect} {s : List Char} {token : Token} {n : Nat}
    (read : dollarValue ('$' :: s) = .ok (token, n))
    (ok : clear d token (('$' :: s).take n) (('$' :: s).drop n) = true)
    (h : token.isPlain = false) : Whole n ('$' :: s) := by
  simp only [dollarValue, List.drop_one, List.tail_cons] at read
  split at read
  next rest =>
    split at read
    next text m hbody =>
      cases read
      have hwritten : ('$' :: '$' :: rest).take (m + 2) = fence [] ++ (text ++ fence []) := by
        rw [List.take_succ_cons, List.take_succ_cons, take_of_dollarBody hbody]
        rfl
      exact whole_dollarString hwritten ok
    next => cases read
  next =>
    split at read
    next body hdrop =>
      split at read
      next text m hbody =>
        cases read
        generalize hname :
          s.takeWhile (fun c => isAlphabetic c || isNumeric c || c == '_') = name at *
        have hs : s = name ++ '$' :: body := by
          have happend := List.prefix_iff_eq_append.1 (hname ▸ List.takeWhile_prefix _)
          rw [hdrop] at happend
          exact happend.symm
        have hopen : '$' :: s = fence name ++ body := by
          rw [hs, fence, List.cons_append, List.append_assoc, List.singleton_append]
        have hlength : m + name.length + 2 = (fence name).length + m := by
          rw [fence, List.length_cons, List.length_append, List.length_singleton]
          omega
        have hwritten : ('$' :: s).take (m + name.length + 2) =
            fence name ++ (text ++ fence name) := by
          rw [hopen, hlength, List.take_length_add_append, take_of_taggedBody hbody]
        exact whole_dollarString hwritten ok
      next => cases read
    next =>
      cases read
      cases h

theorem whole_blockComment {d : Dialect} {s : List Char} {token : Token} {n : Nat}
    (read : blockComment ('/' :: '*' :: s) = .ok (token, n))
    (ok : clear d token (('/' :: '*' :: s).take n) (('/' :: '*' :: s).drop n) = true) :
    Whole n ('/' :: '*' :: s) := by
  simp only [blockComment, List.drop_succ_cons, List.drop_zero] at read
  split at read
  next m hlength =>
    cases read
    simp only [clear, List.take_succ_cons, Bool.not_eq_true', decide_eq_false_iff_not] at ok
    exact whole_block rfl hlength ok
  next => cases read

/-- A clear token that separates nothing stays whole, and nothing is open behind it. -/
theorem whole_of_clear {d : Dialect} {afterWord : Bool} {c : Char} {rest : List Char}
    {token : Token} {n : Nat} (read : nextToken d afterWord (c :: rest) = .ok (token, n))
    (ok : clear d token ((c :: rest).take n) ((c :: rest).drop n) = true)
    (h : token ≠ .semicolon) : Whole n (c :: rest) := by
  by_cases hplain : token.isPlain = true
  · rw [clear_of_isPlain hplain] at ok
    exact whole_take ok
  have hspecial := (plain_or_special read).resolve_left fun h => hplain h.plain
  rw [Bool.not_eq_true] at hplain
  cases hspecial with
  | single read => exact whole_quotedString .single read ok rfl rfl (Or.inl rfl)
  | double read => exact whole_quotedString .double read ok rfl rfl (Or.inr rfl)
  | name opens read => exact whole_quotedName read opens
  | hex rest => exact whole_hex rest
  | semicolon => exact absurd rfl h
  | line rest => exact whole_line rfl rfl
  | block read => exact whole_blockComment read ok
  | mark rest =>
    -- a comment of this kind is none to the cutter
    have hmark : ∀ {k : Nat} {c : Char} {w : List Char},
        ('#' :: rest).take k = c :: w → c = '#' := by
      intro k c w hw
      cases k with
      | zero => cases hw
      | succ k => exact (List.cons.inj hw).1.symm
    rw [clear] at ok
    · exact whole_take ok
    · exact fun _ hw => absurd (hmark hw) (by decide)
    · exact fun _ _ hw => absurd (hmark hw) (by decide)
  | letter starts read =>
    exact whole_letterToken read ok (isAlphanum_of_isAsciiLetter starts) hplain
  | dollar read => exact whole_dollarValue read ok hplain

/-! ### The texts between semicolons -/

/-- The texts between the semicolon tokens of a text. -/
def between : List (Token × List Char) → List (List Char)
  | [] => [[]]
  | (.semicolon, _) :: tokens => [] :: between tokens
  | (_, w) :: tokens => pushAll w (between tokens)

def allClear (d : Dialect) : List (Token × List Char) → Bool
  | [] => true
  | (token, w) :: tokens => clear d token w (tokens.flatMap (·.2)) && allClear d tokens

def statementTexts (d : Dialect) (text : String) : List String :=
  ((between (written d text)).filter (!isBlankText ·)).map String.ofList

theorem cutPieces_eq_between {d : Dialect} {fuel : Nat} {afterWord : Bool} {place : Position}
    {s : List Char} {lexemes : List Lexeme} (enough : s.length ≤ fuel)
    (scanned : scanFrom d fuel afterWord place s = .ok lexemes)
    (ok : allClear d (writtenFrom d fuel afterWord s) = true) :
    cutPieces 0 s = between (writtenFrom d fuel afterWord s) := by
  induction fuel generalizing afterWord place s lexemes with
  | zero =>
    obtain rfl := List.length_eq_zero_iff.1 (Nat.le_zero.1 enough)
    rfl
  | succ fuel ih =>
    cases s with
    | nil => rfl
    | cons c rest =>
      simp only [scanFrom] at scanned
      rw [writtenFrom] at ok ⊢
      cases hread : nextToken d afterWord (c :: rest) with
      | error fault =>
        rw [hread] at scanned
        cases scanned
      | ok r =>
        obtain ⟨token, n⟩ := r
        rw [hread] at scanned
        obtain ⟨lexemes', hrest, -⟩ := map_eq_ok scanned
        have hpos := nextToken_pos hread
        have hlength : ((c :: rest).drop n).length ≤ fuel := by
          rw [List.length_drop]
          omega
        simp only [hread, allClear, Bool.and_eq_true] at ok
        rw [(writtenFrom_of_scanFrom hlength hrest).2] at ok
        have hcut := ih hlength hrest ok.2
        rcases takes_or_semicolon hread with htakes | ⟨rfl, rfl, rfl⟩
        · have hwhole := whole_of_clear hread ok.1 htakes.inside
          rw [Whole, hcut] at hwhole
          simp only [hwhole]
          rw [between]
          exact fun h => htakes.inside h
        · rw [cutPieces, if_pos rfl]
          exact congrArg ([] :: ·) hcut

/-- A script whose tokens are all clear is cut at its semicolon tokens and nowhere else. -/
theorem pieces_eq_statementTexts {d : Dialect} {text : String} {lexemes : List Lexeme}
    (scanned : scan d text = .ok lexemes) (ok : allClear d (written d text) = true) :
    pieces text = statementTexts d text := by
  rw [pieces, statementTexts, written, cutPieces_eq_between (Nat.le_refl _) scanned ok]

end SqlAudit.Catalog
