import SqlAudit.Catalog.ByteScan
import SqlAudit.Proofs.Catalog.Segments
import SqlAudit.Proofs.Text.Encoding

/-!
The scan of the bytes cuts a script where the cutter of its characters does, and slices between
characters only. A comment that is not closed can leave the index within a character; the bytes from
there to the next character open and separate nothing, so nothing is sliced before the index is between
characters again.
-/

namespace SqlAudit.Catalog.ByteScan

open Text

/-! ### Texts and comments -/

section

variable {bytes : ByteArray} {i : Nat} {s : List Char}

theorem skipWhile_step {test : UInt8 → Bool} {b : UInt8} (h : bytes[i]? = some b) :
    skipWhile test bytes i = if test b then skipWhile test bytes (i + 1) else i := by
  obtain ⟨hi, rfl⟩ := getElem?_eq_some_iff.1 h
  rw [skipWhile, dif_pos hi]

theorem skipWhile_eq {test : UInt8 → Bool} {p : Char → Bool}
    (agree : ∀ c, ∀ b ∈ String.utf8EncodeChar c, test b = p c) (h : Reads bytes i s) :
    skipWhile test bytes i = i + (encode (s.takeWhile p)).length := by
  induction s generalizing i with
  | nil =>
    rw [skipWhile, dif_neg (Nat.not_lt.2 h.size_le)]
    rfl
  | cons c s ih =>
    cases hc : p c with
    | true =>
      have hskip : skipWhile test bytes i =
          skipWhile test bytes (i + (String.utf8EncodeChar c).length) := by
        refine eq_of_steps (h.trans (encode_cons c s)) fun j b _ _ hb hj => ?_
        rw [skipWhile_step hj, agree c b hb, if_pos hc]
      rw [hskip, ih h.next, List.takeWhile_cons_of_pos hc, encode_cons, List.length_append,
        Nat.add_assoc]
    | false =>
      obtain ⟨b, hb, hi⟩ := h.exists_first
      rw [skipWhile_step hi, agree c b hb, hc, List.takeWhile_cons_of_neg (by simp [hc])]
      rfl

theorem quotedEnd_of_eq {quote : UInt8} (hi : bytes[i]? = some quote) :
    quotedEnd quote bytes i =
      if bytes[i + 1]? = some quote then quotedEnd quote bytes (i + 2) else i + 1 := by
  obtain ⟨hlt, hb⟩ := getElem?_eq_some_iff.1 hi
  rw [quotedEnd, dif_pos hlt, if_pos hb]

theorem quotedEnd_nil {quote : UInt8} (h : Reads bytes i []) : quotedEnd quote bytes i = i := by
  rw [quotedEnd, dif_neg (Nat.not_lt.2 h.size_le)]

theorem quotedEnd_next {quote c : Char} (ascii : quote.toNat < 128) (h : Reads bytes i (c :: s))
    (hne : c ≠ quote) :
    quotedEnd quote.toUInt8 bytes i =
      quotedEnd quote.toUInt8 bytes (i + (String.utf8EncodeChar c).length) := by
  refine eq_of_steps (h.trans (encode_cons c s)) fun j b _ _ hb hj => ?_
  obtain ⟨hlt, rfl⟩ := getElem?_eq_some_iff.1 hj
  rw [quotedEnd, dif_pos hlt, if_neg (mt (eq_toUInt8_iff ascii hb).1 hne)]

theorem quotedEnd_closed {quote : Char} (ascii : quote.toNat < 128) (h : Reads bytes i (quote :: s))
    (hs : s.head? ≠ some quote) : quotedEnd quote.toUInt8 bytes i = i + 1 := by
  obtain ⟨hi, hnext⟩ := h.ascii ascii
  rw [quotedEnd_of_eq hi, if_neg (mt (hnext.getElem?_eq_iff ascii).1 hs)]

theorem quotedEnd_eq {quote : Char} (ascii : quote.toNat < 128) (h : Reads bytes i s) :
    quotedEnd quote.toUInt8 bytes i = i + (encode (s.take (quotedLength quote s))).length := by
  have hone : (String.utf8EncodeChar quote).length = 1 := by
    rw [utf8EncodeChar_of_ascii ascii, List.length_singleton]
  fun_induction quotedLength quote s generalizing i with
  | case1 => exact quotedEnd_nil h
  | case2 c =>
    rw [List.take_succ_cons, List.take_zero, encode_singleton]
    by_cases hc : c = quote
    · rw [hc] at h ⊢
      rw [quotedEnd_closed ascii h (by simp), hone]
    · rw [quotedEnd_next ascii h hc, quotedEnd_nil h.next]
  | case3 c d rest hc ih =>
    rw [quotedEnd_next ascii h hc, ih h.next, Nat.add_comm 1, List.take_succ_cons, encode_cons c,
      List.length_append, Nat.add_assoc]
  | case4 c rest hc ih =>
    obtain rfl := not_not.1 hc
    obtain ⟨hi, hnext⟩ := h.ascii ascii
    have hdouble := (hnext.getElem?_eq_iff ascii).2 rfl
    rw [quotedEnd_of_eq hi, if_pos hdouble, ih (hnext.ascii ascii).2, Nat.add_comm 2,
      List.take_succ_cons, List.take_succ_cons, encode_cons, encode_cons, List.length_append,
      List.length_append, hone]
    omega
  | case5 c d rest hc hd =>
    obtain rfl := not_not.1 hc
    rw [quotedEnd_closed ascii h fun hhead => hd (Option.some.inj hhead), List.take_succ_cons,
      List.take_zero, encode_singleton, hone]

theorem commentEnd_of_open (inside : i + 1 < bytes.size)
    (h : ¬ (bytes[i]? = some '*'.toUInt8 ∧ bytes[i + 1]? = some '/'.toUInt8)) :
    commentEnd bytes i = commentEnd bytes (i + 1) := by
  rw [getElem?_pos bytes i (Nat.lt_of_succ_lt inside), getElem?_pos bytes (i + 1) inside,
    Option.some.injEq, Option.some.injEq] at h
  rw [commentEnd, dif_pos inside, if_neg h]

theorem commentEnd_last {c : Char} (h : Reads bytes i [c]) :
    ∃ w, commentEnd bytes i = i + w.length ∧ w <+: encode [c] ∧ ∀ b ∈ w, 128 ≤ b.toNat := by
  obtain hnil | ⟨w, last, hc⟩ := List.eq_nil_or_concat' (String.utf8EncodeChar c)
  · exact absurd hnil String.utf8EncodeChar_ne_nil
  have hbytes : encode [c] = w ++ [last] := (encode_singleton c).trans hc
  have hsize := h.size_eq
  rw [hbytes, List.length_append, List.length_singleton] at hsize
  have high : ∀ b ∈ w, 128 ≤ b.toNat := by
    intro b hb
    refine high_of_not_ascii (c := c) (fun ascii => ?_) (hc ▸ List.mem_append_left [last] hb)
    have hone : [] ++ [c.toUInt8] = w ++ [last] := (utf8EncodeChar_of_ascii ascii).symm.trans hc
    obtain ⟨rfl, -⟩ := List.append_inj' hone rfl
    cases hb
  have hskip : commentEnd bytes i = commentEnd bytes (i + w.length) := by
    refine eq_of_steps (h.trans hbytes) fun j b _ hlt hb hj => ?_
    refine commentEnd_of_open (by omega) fun hclose => ?_
    obtain rfl := Option.some.inj (hj.symm.trans hclose.1)
    exact absurd (high _ hb) (by decide)
  refine ⟨w, ?_, ⟨[last], hbytes.symm⟩, high⟩
  rw [hskip, commentEnd, dif_neg (by omega)]

theorem commentEnd_next {c d : Char} (h : Reads bytes i (c :: d :: s))
    (hopen : ¬ (c = '*' ∧ d = '/')) :
    commentEnd bytes i = commentEnd bytes (i + (String.utf8EncodeChar c).length) := by
  have hsize := h.next.lt_size
  refine eq_of_steps (h.trans (encode_cons c (d :: s))) fun j b hle hlt hb hj => ?_
  refine commentEnd_of_open (by omega) ?_
  rintro ⟨hstar, hslash⟩
  rw [hj, Option.some.injEq, eq_toUInt8_iff (by decide) hb] at hstar
  subst hstar
  obtain rfl : i = j := Nat.le_antisymm hle (Nat.le_of_lt_succ hlt)
  have hhead := (h.next.getElem?_eq_iff (a := '/') (by decide)).1 hslash
  exact hopen ⟨rfl, Option.some.inj hhead⟩

theorem commentEnd_eq (h : Reads bytes i s) :
    ∃ w, commentEnd bytes i = i + (encode (s.take (commentLength s))).length + w.length ∧
      w <+: encode (s.drop (commentLength s)) ∧ ∀ b ∈ w, 128 ≤ b.toNat := by
  fun_induction commentLength s generalizing i with
  | case1 c d rest hclose =>
    obtain ⟨rfl, rfl⟩ := hclose
    obtain ⟨hstar, hrest⟩ := h.ascii (by decide)
    obtain ⟨_, hbyte⟩ := getElem?_eq_some_iff.1 hstar
    obtain ⟨hlt, hbyte'⟩ := getElem?_eq_some_iff.1 (hrest.ascii (by decide)).1
    refine ⟨[], ?_, List.nil_prefix, by simp⟩
    rw [commentEnd, dif_pos hlt, if_pos ⟨hbyte, hbyte'⟩]
    rfl
  | case2 c d rest hopen ih =>
    obtain ⟨w, hend, hw⟩ := ih h.next
    refine ⟨w, ?_, ?_⟩
    · rw [commentEnd_next h hopen, hend, Nat.add_comm 1, List.take_succ_cons, encode_cons c,
        List.length_append, Nat.add_assoc i]
    · rwa [Nat.add_comm 1, List.drop_succ_cons]
  | case3 s hshort =>
    cases s with
    | nil =>
      have hsize := h.size_le
      refine ⟨[], ?_, List.nil_prefix, by simp⟩
      rw [commentEnd, dif_neg (by omega)]
      rfl
    | cons c rest =>
      cases rest with
      | nil => exact commentEnd_last h
      | cons d rest => exact absurd rfl (hshort c d rest)

end

/-! ### Slices -/

theorem exists_eq_append_of_utf8ByteSize_le {a b c d : String} (h : a ++ b = c ++ d)
    (hle : a.utf8ByteSize ≤ c.utf8ByteSize) : ∃ part, c = a ++ part := by
  have hlist : a.toList ++ b.toList = c.toList ++ d.toList := by
    rw [← String.toList_append, h, String.toList_append]
  obtain ⟨part, hc, -⟩ | ⟨part, ha, -⟩ := List.append_eq_append_iff.1 hlist
  · refine ⟨String.ofList part, ?_⟩
    rw [← String.toList_inj, String.toList_append, String.toList_ofList, hc]
  · rw [← String.utf8Len_toList, ← String.utf8Len_toList c, ha, String.utf8Len_append] at hle
    obtain rfl := String.utf8Len_eq_zero.1 (Nat.le_zero.1 (Nat.le_of_add_le_add_left hle))
    refine ⟨"", ?_⟩
    rw [← String.toList_inj, String.toList_append, ha]
    simp

theorem slice?_append (before part after : String) :
    slice? (before ++ part ++ after) before.utf8ByteSize (before ++ part).utf8ByteSize =
      some part := by
  have hle : before.utf8ByteSize ≤ (before ++ part).utf8ByteSize := by
    rw [String.utf8ByteSize_append]
    exact Nat.le_add_right _ _
  have hstart : String.Pos.Raw.IsValid (before ++ part ++ after) ⟨before.utf8ByteSize⟩ :=
    String.Pos.Raw.isValid_iff_exists_append.2 ⟨before, part ++ after, String.append_assoc, rfl⟩
  have hstop : String.Pos.Raw.IsValid (before ++ part ++ after) ⟨(before ++ part).utf8ByteSize⟩ :=
    String.Pos.Raw.isValid_iff_exists_append.2 ⟨before ++ part, after, rfl, rfl⟩
  have hpart := String.extract_of_valid before.toList part.toList after.toList
  simp only [String.ofList_append, String.ofList_toList, String.utf8Len_toList,
    ← String.utf8ByteSize_append] at hpart
  rw [slice?, if_pos ⟨hle, String.Pos.Raw.isValid_eq_true_iff.2 hstart,
    String.Pos.Raw.isValid_eq_true_iff.2 hstop⟩, hpart]

/-- A text has a slice between two indices exactly if both lie between characters of it. -/
theorem slice?_eq_some_iff {text part : String} {start stop : Nat} :
    slice? text start stop = some part ↔
      ∃ before after, text = before ++ part ++ after ∧ start = before.utf8ByteSize ∧
        stop = (before ++ part).utf8ByteSize := by
  constructor
  · intro h
    have hslice := h
    simp only [slice?, Option.ite_none_right_eq_some, String.Pos.Raw.isValid_eq_true_iff] at h
    obtain ⟨⟨hle, hstart, hstop⟩, -⟩ := h
    obtain ⟨before, behind, htext, hbefore⟩ := String.Pos.Raw.isValid_iff_exists_append.1 hstart
    obtain ⟨upTo, after, htext', hupTo⟩ := String.Pos.Raw.isValid_iff_exists_append.1 hstop
    obtain rfl : start = before.utf8ByteSize := congrArg String.Pos.Raw.byteIdx hbefore
    obtain rfl : stop = upTo.utf8ByteSize := congrArg String.Pos.Raw.byteIdx hupTo
    obtain ⟨part', rfl⟩ := exists_eq_append_of_utf8ByteSize_le (htext.symm.trans htext') hle
    rw [htext', slice?_append, Option.some.injEq] at hslice
    rw [← hslice]
    exact ⟨before, after, htext', rfl, rfl⟩
  · rintro ⟨before, after, rfl, rfl, rfl⟩
    exact slice?_append before part after

theorem slice?_encode {text : String} {before part after : List Char}
    (h : text.toList = before ++ (part ++ after)) :
    slice? text (encode before).length (encode (before ++ part)).length =
      some (String.ofList part) := by
  rw [slice?_eq_some_iff]
  refine ⟨String.ofList before, String.ofList after, ?_, ?_, ?_⟩
  · rw [← String.toList_inj, h]
    simp
  · rw [utf8ByteSize_eq, String.toList_ofList]
  · rw [utf8ByteSize_eq, ← String.ofList_append, String.toList_ofList]

/-! ### Texts between dollar tags -/

theorem ascii_of_isTag {c : Char} (h : (c.isAlphanum || c == '_') = true) : c.toNat < 128 := by
  have upTo (last : Char) (ascii : last.toNat < 128) (hle : c.val ≤ last.val) : c.toNat < 128 :=
    Nat.lt_of_le_of_lt (UInt32.le_iff_toNat_le.1 hle) ascii
  rw [Bool.or_eq_true, beq_iff_eq] at h
  obtain h | rfl := h
  · have hclass : ((c.isUpper || c.isLower) || c.isDigit) = true := h
    rw [Bool.or_eq_true, Bool.or_eq_true] at hclass
    obtain (hupper | hlower) | hdigit := hclass
    · exact upTo 'Z' (by decide) (of_decide_eq_true hupper).2
    · exact upTo 'z' (by decide) (of_decide_eq_true (Bool.and_eq_true_iff.1 hlower).2)
    · exact upTo '9' (by decide) (of_decide_eq_true (Bool.and_eq_true_iff.1 hdigit).2)
  · decide

theorem isTagByte_eq {c : Char} {b : UInt8} (hb : b ∈ String.utf8EncodeChar c) :
    isTagByte b = (c.isAlphanum || c == '_') := by
  by_cases ascii : c.toNat < 128
  · rw [utf8EncodeChar_of_ascii ascii, List.mem_singleton] at hb
    have hc : Char.ofUInt8 c.toUInt8 = c := by
      rw [← Char.toNat_inj]
      exact toNat_toUInt8 ascii
    rw [isTagByte, hb, hc]
  · have high := high_of_not_ascii ascii hb
    rw [Bool.eq_false_iff.2 (mt ascii_of_isTag ascii)]
    exact Bool.eq_false_iff.2 (mt (ascii_of_isTag (c := Char.ofUInt8 b)) (Nat.not_lt.2 high))

theorem tagEnd?_eq {bytes : ByteArray} {i : Nat} {s : List Char} (h : Reads bytes i ('$' :: s)) :
    tagEnd? bytes i =
      if (s.dropWhile fun c => c.isAlphanum || c == '_').head? = some '$' then
        some (i + (encode ('$' :: s.takeWhile fun c => c.isAlphanum || c == '_')).length)
      else none := by
  have hnext := (h.ascii (by decide)).2
  have hstop := skipWhile_eq (fun _ _ => isTagByte_eq) hnext
  rw [← List.takeWhile_append_dropWhile (p := fun c => c.isAlphanum || c == '_') (l := s)] at hnext
  have hopen : (encode ('$' :: s.takeWhile fun c => c.isAlphanum || c == '_')).length =
      1 + (encode (s.takeWhile fun c => c.isAlphanum || c == '_')).length := by
    rw [encode_cons, List.length_append]
    rfl
  simp only [tagEnd?, hstop, hnext.add.getElem?_eq_iff (a := '$') (by decide), hopen]
  rw [Nat.add_assoc]

theorem offset?_eq (tag s : List Char) :
    (encode (s.take (taggedLength tag s))).length =
      (offset? tag s).elim (encode s).length (· + (encode tag).length) := by
  induction s with
  | nil => rfl
  | cons c s ih =>
    rw [taggedLength, offset?]
    split
    next hprefix =>
      rw [← List.prefix_iff_eq_take.1 (List.isPrefixOf_iff_prefix.1 hprefix), Option.elim_some,
        Nat.zero_add]
    next =>
      rw [Nat.add_comm 1, List.take_succ_cons, encode_cons, encode_cons, List.length_append, ih]
      cases offset? tag s with
      | none => rw [Option.map_none, Option.elim_none, Option.elim_none, List.length_append]
      | some offset =>
        rw [Option.map_some, Option.elim_some, Option.elim_some, String.length_utf8EncodeChar]
        omega

theorem unitTail_dollar_of_head? {s : List Char}
    (h : (s.dropWhile fun c => c.isAlphanum || c == '_').head? ≠ some '$') :
    unitTail '$' s = 0 := by
  rw [← drop_length_takeWhile] at h
  have hnone : dollarTag? s = none := by
    simp only [dollarTag?]
    split
    next heq => exact absurd (congrArg List.head? heq) h
    next => rfl
  rw [unitTail, if_neg (by decide), if_pos rfl, hnone]

theorem taggedEnd?_fence {text : String} {before name rest : List Char}
    (h : text.toList = before ++ (fence name ++ rest))
    (htag : tagEnd? text.toUTF8 (encode before).length =
      some ((encode before).length + (encode ('$' :: name)).length)) :
    taggedEnd? text (encode before).length = some
      (encode (before ++ (fence name ++ rest.take (taggedLength (fence name) rest)))).length := by
  have hopen : (encode before).length + (encode ('$' :: name)).length + 1 =
      (encode (before ++ fence name)).length := by
    rw [fence, ← List.cons_append, ← List.append_assoc, encode_append _ ['$'], encode_append,
      List.length_append, List.length_append]
    rfl
  have hbehind : text.toList = before ++ fence name ++ (rest ++ []) := by
    rw [h, List.append_nil, List.append_assoc]
  have hrest := slice?_encode hbehind
  rw [List.append_assoc, ← h, ← utf8ByteSize_eq] at hrest
  have hsize : text.utf8ByteSize =
      (encode (before ++ fence name)).length + (encode rest).length := by
    rw [utf8ByteSize_eq, h, ← List.append_assoc, encode_append _ rest, List.length_append]
  have htagSize : (String.ofList (fence name)).utf8ByteSize = (encode (fence name)).length := by
    rw [utf8ByteSize_eq, String.toList_ofList]
  have hoffset := offset?_eq (fence name) rest
  rw [taggedEnd?, htag]
  simp only [hopen, slice?_encode h, hrest, Option.bind_eq_bind, Option.bind_some,
    String.toList_ofList, htagSize]
  rw [← List.append_assoc, encode_append _ (rest.take _), List.length_append, hoffset]
  cases offset? (fence name) rest with
  | some offset => exact congrArg some (Nat.add_assoc _ _ _)
  | none => exact congrArg some hsize

theorem taggedEnd?_eq {text : String} {before s : List Char}
    (h : text.toList = before ++ '$' :: s) :
    taggedEnd? text (encode before).length =
      some (encode (before ++ '$' :: s.take (unitTail '$' s))).length := by
  have htag := tagEnd?_eq (reads_toUTF8 h)
  have hsplit := List.takeWhile_append_dropWhile (p := fun c => c.isAlphanum || c == '_') (l := s)
  have ascii : ∀ c ∈ s.takeWhile (fun c => c.isAlphanum || c == '_'),
      (c.isAlphanum || c == '_') = true := List.all_eq_true.1 List.all_takeWhile
  have hnone := unitTail_dollar_of_head? (s := s)
  generalize (s.takeWhile fun c => c.isAlphanum || c == '_') = name at htag hsplit ascii
  generalize (s.dropWhile fun c => c.isAlphanum || c == '_') = rest at htag hsplit hnone
  by_cases hhead : rest.head? = some '$'
  · obtain ⟨rest, rfl⟩ := List.head?_eq_some_iff.1 hhead
    subst hsplit
    have hopen : ∀ t, '$' :: (name ++ '$' :: t) = fence name ++ t := by
      simp [fence]
    rw [hopen] at h
    rw [if_pos hhead] at htag
    rw [taggedEnd?_fence h htag, unitTail_fence ascii, Nat.add_assoc, List.take_length_add_append,
      Nat.add_comm 1, List.take_succ_cons, hopen]
  · rw [if_neg hhead] at htag
    rw [taggedEnd?, htag, hnone hhead, List.take_zero, encode_append, encode_singleton,
      List.length_append]
    rfl

/-! ### Units -/

theorem bne_newline_eq {c : Char} {b : UInt8} (hb : b ∈ String.utf8EncodeChar c) :
    (b != '\n'.toUInt8) = (c != '\n') := by
  rw [Bool.eq_iff_iff, bne_iff_ne, bne_iff_ne, Ne, eq_toUInt8_iff (by decide) hb]

/-- A unit ends at one place by bytes and by characters, but for bytes that open or close nothing. -/
theorem unitEnd?_eq {text : String} {before s : List Char} {c : Char} (ascii : c.toNat < 128)
    (h : text.toList = before ++ c :: s) :
    ∃ w, unitEnd? text c.toUInt8 (encode before).length =
        some ((encode (before ++ c :: s.take (unitTail c s))).length + w.length) ∧
      w <+: encode (s.drop (unitTail c s)) ∧ ∀ b ∈ w, 128 ≤ b.toNat := by
  have hreads := reads_toUTF8 h
  have hnext := (hreads.ascii ascii).2
  have hbyte_iff {a : Char} : a.toNat < 128 → (c.toUInt8 = a.toUInt8 ↔ c = a) := toUInt8_eq_iff ascii
  have hnext_iff {a : Char} : a.toNat < 128 →
      (text.toUTF8[(encode before).length + 1]? = some a.toUInt8 ↔ s.head? = some a) :=
    hnext.getElem?_eq_iff
  simp only [unitEnd?, hbyte_iff (a := '\x27') (by decide), hbyte_iff (a := '"') (by decide),
    hbyte_iff (a := '\x60') (by decide), hbyte_iff (a := '$') (by decide),
    hbyte_iff (a := '-') (by decide), hbyte_iff (a := '/') (by decide),
    hnext_iff (a := '-') (by decide), hnext_iff (a := '*') (by decide)]
  by_cases hquote : c = '\x27' ∨ c = '"' ∨ c = '\x60'
  · refine ⟨[], ?_, List.nil_prefix, by simp⟩
    rw [if_pos hquote, unitTail_quote hquote, quotedEnd_eq ascii hnext, length_encode_ascii ascii]
    rfl
  by_cases hdollar : c = '$'
  · subst hdollar
    refine ⟨[], ?_, List.nil_prefix, by simp⟩
    rw [if_neg hquote, if_pos rfl, taggedEnd?_eq h]
    rfl
  by_cases hline : c = '-' ∧ s.head? = some '-'
  · obtain ⟨rfl, hline⟩ := hline
    refine ⟨[], ?_, List.nil_prefix, by simp⟩
    rw [if_neg hquote, if_neg hdollar, if_pos ⟨rfl, hline⟩, unitTail_line hline,
      skipWhile_eq (fun _ _ => bne_newline_eq) hreads, List.takeWhile_cons_of_pos (by decide),
      lineLength, ← List.prefix_iff_eq_take.1 (List.takeWhile_prefix _), encode_append,
      List.length_append]
    rfl
  by_cases hcomment : c = '/' ∧ s.head? = some '*'
  · obtain ⟨rfl, hcomment⟩ := hcomment
    obtain ⟨s, rfl⟩ := List.head?_eq_some_iff.1 hcomment
    obtain ⟨w, hend, hw⟩ := commentEnd_eq (hnext.ascii (by decide)).2
    rw [unitTail_comment]
    refine ⟨w, ?_, hw⟩
    rw [if_neg hquote, if_neg hdollar, if_neg hline, if_pos ⟨rfl, rfl⟩, hend, List.take_succ_cons,
      length_encode_ascii ascii, encode_cons, List.length_append]
    exact congrArg (some <| · + w.length) (Nat.add_assoc _ _ _)
  · refine ⟨[], ?_, List.nil_prefix, by simp⟩
    rw [if_neg hquote, if_neg hdollar, if_neg hline, if_neg hcomment, unitTail, if_neg hquote,
      if_neg hdollar, if_neg hline, if_neg hcomment, List.take_zero, length_encode_ascii ascii]
    rfl

theorem unitEnd?_of_high {b : UInt8} (high : 128 ≤ b.toNat) (text : String) (i : Nat) :
    unitEnd? text b i = some (i + 1) := by
  have hne {a : Char} : a.toNat < 128 → b ≠ a.toUInt8 := by
    rintro ascii rfl
    rw [toNat_toUInt8 ascii] at high
    omega
  simp [unitEnd?, hne (a := '\x27') (by decide), hne (a := '"') (by decide),
    hne (a := '\x60') (by decide), hne (a := '$') (by decide), hne (a := '-') (by decide),
    hne (a := '/') (by decide)]

/-! ### The scan -/

section

variable {text : String} {start i : Nat}

theorem scan_separator (h : text.toUTF8[i]? = some ';'.toUInt8) :
    scan text start i = do
      let piece ← slice? text start i
      let pieces ← scan text (i + 1) (i + 1)
      return if isBlankText piece.toList then pieces else piece :: pieces := by
  obtain ⟨hi, hb⟩ := getElem?_eq_some_iff.1 h
  rw [scan, dif_pos hi, if_pos hb]

theorem scan_unit {b : UInt8} {next : Nat} (h : text.toUTF8[i]? = some b) (hb : b ≠ ';'.toUInt8)
    (hnext : unitEnd? text b i = some next) : scan text start i = scan text start next := by
  obtain ⟨hi, rfl⟩ := getElem?_eq_some_iff.1 h
  rw [scan, dif_pos hi, if_neg hb]
  split
  next heq => rw [Option.some.inj (heq.symm.trans hnext)]
  next heq => cases heq.symm.trans hnext

theorem scan_end (h : text.toUTF8.size ≤ i) :
    scan text start i = do
      let piece ← slice? text start text.utf8ByteSize
      return if isBlankText piece.toList then [] else [piece] := by
  rw [scan, dif_neg (Nat.not_lt.2 h)]

theorem scan_high {w : List UInt8} {s : List Char} (h : Reads text.toUTF8 i s) (hw : w <+: encode s)
    (high : ∀ b ∈ w, 128 ≤ b.toNat) : scan text start i = scan text start (i + w.length) := by
  obtain ⟨rest, hrest⟩ := hw
  refine eq_of_steps (h.trans hrest.symm) fun j b _ _ hb hj => ?_
  refine scan_unit hj ?_ (unitEnd?_of_high (high b hb) text j)
  rintro rfl
  exact absurd (high _ hb) (by decide)

theorem scan_next {before s : List Char} {c : Char} (hsep : c ≠ ';')
    (h : text.toList = before ++ c :: s) :
    scan text start (encode before).length =
      scan text start (encode (before ++ (c :: s).take (unitTail c s + 1))).length := by
  have hreads := reads_toUTF8 h
  by_cases ascii : c.toNat < 128
  · obtain ⟨w, hend, hw, high⟩ := unitEnd?_eq ascii h
    have hbehind : Reads text.toUTF8 (encode (before ++ c :: s.take (unitTail c s))).length
        (s.drop (unitTail c s)) := by
      refine reads_toUTF8 ?_
      rw [List.append_assoc, List.cons_append, List.take_append_drop, h]
    have hbyte := (hreads.ascii ascii).1
    rw [scan_unit hbyte (mt (toUInt8_eq_iff ascii (by decide)).1 hsep) hend,
      ← scan_high hbehind hw high, List.take_succ_cons]
  · have hmarks : ∀ a ∈ marks, a.toNat < 128 := by simp [marks]
    have hunmarked : c ∉ marks := mt (hmarks c) ascii
    have hfirst : String.utf8EncodeChar c <+: encode (c :: s) := by
      rw [encode_cons]
      exact List.prefix_append _ _
    rw [scan_high hreads hfirst fun b hb => high_of_not_ascii ascii hb,
      unitTail_of_unmarked hunmarked, List.take_succ_cons, List.take_zero, encode_append,
      encode_singleton, List.length_append]

/-- The scan finds the pieces that the cutter finds: `piece` has been read since the last separator,
`rest` is to be read. -/
theorem scan_eq {before piece rest : List Char} (h : text.toList = before ++ (piece ++ rest)) :
    scan text (encode before).length (encode (before ++ piece)).length =
      some (((pushAll piece (cutPieces 0 rest)).filter (!isBlankText ·)).map String.ofList) := by
  induction hn : rest.length using Nat.strong_induction_on generalizing before piece rest with
  | _ n ih =>
    have hslice := slice?_encode h
    rw [← List.append_assoc] at h
    cases rest with
    | nil =>
      have hsize : (encode (before ++ piece)).length = text.utf8ByteSize := by
        rw [utf8ByteSize_eq, h, List.append_nil]
      rw [scan_end hsize.ge, ← hsize, hslice, cutPieces, pushAll_cons, List.append_nil]
      cases hblank : isBlankText piece <;> simp [hblank]
    | cons c rest =>
      rw [List.length_cons] at hn
      by_cases hsep : c = ';'
      · subst hsep
        have hbyte := ((reads_toUTF8 h).ascii (by decide)).1
        have hbehind : text.toList = before ++ piece ++ [';'] ++ ([] ++ rest) := by
          rw [h, List.append_assoc _ [';']]
          rfl
        have hstart : (encode (before ++ piece)).length + 1 =
            (encode (before ++ piece ++ [';'])).length := by
          rw [length_encode_ascii (by decide)]
          rfl
        have hrest := ih rest.length (by omega) hbehind rfl
        rw [List.append_nil] at hrest
        rw [scan_separator hbyte, hslice, hstart, hrest, cutPieces, if_pos rfl, pushAll_cons,
          List.append_nil]
        cases hblank : isBlankText piece <;> simp [hblank, pushAll]
      · have hwhole := whole_unit hsep rest
        have hbehind : text.toList = before ++ (piece ++ (c :: rest).take (unitTail c rest + 1) ++
            (c :: rest).drop (unitTail c rest + 1)) := by
          rw [h, List.append_assoc, List.append_assoc, List.take_append_drop]
        have hlt : ((c :: rest).drop (unitTail c rest + 1)).length < n := by
          rw [List.drop_succ_cons, List.length_drop]
          omega
        rw [scan_next hsep h, List.append_assoc, ih _ hlt hbehind rfl, pushAll_append, ← hwhole]

end

/-- The scan ends, slices only between characters of the text and loses nothing of it. -/
theorem scan_lossless (text : String) :
    pieces? text = some (pieces text) ∧
      ∃ segments : List String, ";".intercalate segments = text ∧
        pieces text = segments.filter (!isBlankText ·.toList) := by
  constructor
  · have hwhole : text.toList = [] ++ ([] ++ text.toList) := rfl
    exact scan_eq hwhole
  · refine ⟨(cutPieces 0 text.toList).map String.ofList, ?_, ?_⟩
    · have hlists : ((cutPieces 0 text.toList).map String.ofList).map String.toList =
          cutPieces 0 text.toList := by
        simp
      rw [← String.toList_inj, String.toList_intercalate, hlists]
      exact intercalate_cutPieces 0 text.toList
    · simp only [pieces, List.filter_map, Function.comp_def, String.toList_ofList]

end SqlAudit.Catalog.ByteScan
