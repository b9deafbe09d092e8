import SqlAudit.Proofs.Catalog.Pieces

/-!
Scripts put together from their parts: plain texts, texts in quotes, comments, texts between dollar
tags, and separators. Whatever a text or comment holds, openers of the others too, it stays whole; so a
script is cut at its separators and nowhere else.
-/

namespace SqlAudit.Catalog

open Text

def doubleQuotes (quote : Char) (body : List Char) : List Char :=
  body.flatMap fun c => if c = quote then [c, c] else [c]

/-- A part of a script. -/
inductive Segment
  | plain (text : List Char) (unmarked : ∀ c ∈ text, c ∉ marks)
  | quoted (quote : Char) (body : List Char) (opens : quote ∈ ['\x27', '"', '\x60'])
  | line (text : List Char) (oneLine : '\n' ∉ text)
  | block (body : List Char) (unclosed : ¬ ['*', '/'] <:+: body)
  /-- The tag comes first again where it closes the text. -/
  | dollar (name body : List Char) (ascii : ∀ c ∈ name, (c.isAlphanum || c == '_') = true)
    (first : ¬ fence name <:+: (body ++ fence name).dropLast)
  | separator

namespace Segment

def text : Segment → List Char
  | plain text _ => text
  | quoted quote body _ => quote :: (doubleQuotes quote body ++ [quote])
  | line text _ => '-' :: '-' :: (text ++ ['\n'])
  | block body _ => '/' :: '*' :: (body ++ ['*', '/'])
  | dollar name body _ _ => fence name ++ (body ++ fence name)
  | separator => [';']

def isSeparator : Segment → Bool
  | separator => true
  | _ => false

end Segment

def scriptOf (segments : List Segment) : String := String.ofList (segments.flatMap Segment.text)

/-! ### Parts stay whole -/

theorem Whole.of_add {m n : Nat} {s : List Char} (h : Whole (m + n) s) (h' : Whole n (s.drop m)) :
    Whole m s := by
  rw [Whole, List.take_add, pushAll_append, ← List.drop_drop, ← h'] at h
  exact h

theorem quotedLength_doubleQuotes (quote : Char) (body rest : List Char) :
    quotedLength quote (doubleQuotes quote body ++ rest) =
      (doubleQuotes quote body).length + quotedLength quote rest := by
  induction body with
  | nil => rw [doubleQuotes, List.flatMap_nil, List.nil_append, List.length_nil, Nat.zero_add]
  | cons c body ih =>
    rw [doubleQuotes] at ih ⊢
    rw [List.flatMap_cons]
    by_cases h : c = quote
    · rw [if_pos h, h, List.append_assoc, List.cons_append, List.singleton_append,
        quotedLength_doubled, ih, List.length_append, List.length_cons, List.length_singleton]
      omega
    · rw [if_neg h, List.singleton_append, List.cons_append, quotedLength_cons_of_ne h, ih,
        List.length_cons]
      omega

/-- A closed text in quotes stays whole. If the same quote follows, the two are read as one text, which
ends where the second one does. -/
theorem whole_closed {quote : Char} (h : quote ∈ ['\x27', '"', '\x60']) (body rest : List Char) :
    Whole ((doubleQuotes quote body).length + 2) (quote :: (doubleQuotes quote body ++ quote :: rest)) := by
  simp only [List.mem_cons, List.not_mem_nil, or_false] at h
  have whole := whole_quoted h (doubleQuotes quote body ++ quote :: rest)
  rw [quotedLength_doubleQuotes] at whole
  by_cases more : rest.head? = some quote
  · obtain ⟨rest, rfl⟩ := List.head?_eq_some_iff.1 more
    rw [quotedLength_doubled, Nat.add_assoc, Nat.add_assoc, ← Nat.add_assoc _ 2] at whole
    apply whole.of_add
    rw [List.drop_succ_cons, List.drop_append, List.drop_eq_nil_of_le (by omega),
      Nat.add_sub_cancel_left]
    exact whole_quoted h rest
  · rwa [quotedLength_closed more] at whole

theorem commentLength_append {body : List Char} (unclosed : ¬ ['*', '/'] <:+: body)
    (rest : List Char) : commentLength (body ++ '*' :: '/' :: rest) = body.length + 2 := by
  induction body with
  | nil => rw [List.nil_append, commentLength, if_pos ⟨rfl, rfl⟩, List.length_nil]
  | cons c body ih =>
    have inside := ih fun h => unclosed (h.trans (List.suffix_cons c body).isInfix)
    cases body with
    | nil =>
      rw [List.cons_append, List.nil_append, commentLength, if_neg (by simp)]
      exact congrArg (1 + ·) inside
    | cons d body =>
      have apart : ¬ (c = '*' ∧ d = '/') := by
        rintro ⟨rfl, rfl⟩
        exact unclosed (List.prefix_append ['*', '/'] body).isInfix
      rw [List.cons_append, List.cons_append, commentLength, if_neg apart, ← List.cons_append,
        inside, List.length_cons (a := c)]
      omega

theorem whole_lineComment {text : List Char} (oneLine : '\n' ∉ text) (rest : List Char) :
    Whole (text.length + 3) ('-' :: '-' :: (text ++ '\n' :: rest)) := by
  have inLine : ∀ c ∈ text, (c != '\n') = true := by
    intro c hc
    rw [bne_iff_ne]
    rintro rfl
    exact oneLine hc
  have whole := whole_line (s := '-' :: '-' :: (text ++ '\n' :: rest)) rfl rfl
  simpa [Sql.lineLength, List.takeWhile_append_of_pos inLine] using whole

theorem Segment.whole {s : Segment} (h : s.isSeparator = false) (rest : List Char) :
    Whole s.text.length (s.text ++ rest) := by
  cases s with
  | plain text unmarked => exact whole_of_quiet (quiet_of_unmarked unmarked rest)
  | quoted quote body opens =>
    have whole := whole_closed opens body rest
    simpa [text] using whole
  | line text oneLine =>
    have whole := whole_lineComment oneLine rest
    simpa [Segment.text] using whole
  | block body unclosed =>
    have whole := whole_comment (commentLength_append unclosed rest)
    simpa [text] using whole
  | dollar name body ascii first =>
    have whole := whole_fences rest ascii first
    have length : body.length + (fence name).length + (fence name).length =
        (fence name ++ (body ++ fence name)).length := by
      rw [List.length_append, List.length_append, Nat.add_comm]
    rwa [length, ← List.append_assoc body, ← List.append_assoc (fence name) (_ ++ _)] at whole
  | separator => cases h

/-! ### Scripts are cut at separators -/

theorem cutPieces_segments (segments : List Segment) :
    cutPieces 0 (segments.flatMap Segment.text) =
      (segments.splitOnP Segment.isSeparator).map (·.flatMap Segment.text) := by
  induction segments with
  | nil => rfl
  | cons s segments ih =>
    rw [List.flatMap_cons, List.splitOnP_cons_eq_if_modifyHead]
    cases h : s.isSeparator with
    | true =>
      cases s with
      | separator => exact congrArg ([] :: ·) ih
      | plain | quoted | line | block | dollar => cases h
    | false =>
      have whole := Segment.whole h (segments.flatMap Segment.text)
      obtain ⟨piece, pieces, hsplit⟩ :=
        List.exists_cons_of_ne_nil (List.splitOnP_ne_nil Segment.isSeparator segments)
      rw [Whole, List.take_left, List.drop_left, ih, hsplit, List.map_cons, pushAll_cons] at whole
      rw [whole, hsplit]
      rfl

/-- The statements of a script are the texts between its separators, without those that are blank. -/
theorem pieces_scriptOf (segments : List Segment) :
    pieces (scriptOf segments) =
      ((segments.splitOnP Segment.isSeparator).map scriptOf).filter (!isBlankText ·.toList) := by
  rw [pieces, scriptOf, String.toList_ofList, cutPieces_segments, List.filter_map, List.filter_map,
    List.map_map]
  congr 2
  funext part
  rw [Function.comp_apply, Function.comp_apply, scriptOf, String.toList_ofList]

end SqlAudit.Catalog
