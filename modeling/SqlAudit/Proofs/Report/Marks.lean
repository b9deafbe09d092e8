import Mathlib.Data.List.Basic
import SqlAudit.Audit
import SqlAudit.Proofs.Text.Encoding
import SqlAudit.Report.Words

/-!
The marks under a line of the report. They follow the range as far as the line goes, and words of 64
bits are enough to count them. They stand too far to the left: the row with the marks has a margin of
three columns before its bar, the row with the line one as wide as the number of the line, and at
least three, and a blank behind it.
-/

namespace SqlAudit

/-! ### Lines -/

theorem length_le_of_mem_linePieces {s piece : List Char} (h : piece ∈ linePieces s) :
    piece.length ≤ s.length := by
  induction s generalizing piece with
  | nil =>
    rw [linePieces, List.mem_singleton] at h
    rw [h]
  | cons c s ih =>
    rw [linePieces] at h
    split at h
    · rcases List.mem_cons.1 h with rfl | h
      · exact Nat.zero_le _
      · exact Nat.le_succ_of_le (ih h)
    · split at h
      next =>
        rw [List.mem_singleton.1 h]
        exact Nat.succ_le_succ (Nat.zero_le _)
      next first pieces hpieces =>
        rw [hpieces] at ih
        rcases List.mem_cons.1 h with rfl | h
        · exact Nat.succ_le_succ (ih List.mem_cons_self)
        · exact Nat.le_succ_of_le (ih (List.mem_cons_of_mem _ h))

theorem length_withoutReturn_le (line : List Char) : (withoutReturn line).length ≤ line.length := by
  unfold withoutReturn
  split
  · rw [List.length_dropLast]
    exact Nat.sub_le _ _
  · exact Nat.le_refl _

theorem length_le_of_mem_textLines {s line : List Char} (h : line ∈ textLines s) :
    line.length ≤ s.length := by
  rcases List.mem_append.1 h with h | h
  · obtain ⟨piece, hpiece, rfl⟩ := List.mem_map.1 h
    exact (length_withoutReturn_le piece).trans
      (length_le_of_mem_linePieces ((List.dropLast_sublist _).subset hpiece))
  · rw [Option.mem_toList] at h
    exact length_le_of_mem_linePieces (List.mem_of_getLast? (Option.eq_some_of_filter_eq_some h))

theorem Text.length_le_utf8ByteSize (text : String) : text.toList.length ≤ text.utf8ByteSize := by
  rw [utf8ByteSize_eq]
  induction text.toList with
  | nil => exact Nat.le_refl _
  | cons c s ih =>
    have hc := String.length_utf8EncodeChar c ▸ Char.utf8Size_pos c
    rw [encode_cons, List.length_append, List.length_cons]
    omega

namespace Range

variable (r : Range) {length : Nat}

theorem one_le_markCount : 1 ≤ r.markCount length := Nat.le_max_left _ _

theorem markCount_le : r.markCount length ≤ max 1 (length - r.start.column) := by
  simp only [markCount]
  omega

theorem markCount_within (inside : r.start.column < length) :
    r.start.column + r.markCount length ≤ length := by
  have most : r.markCount length ≤ max 1 (length - r.start.column) := r.markCount_le
  omega

theorem markCount_of_fits (same : r.stop.line = r.start.line)
    (nonempty : r.start.column < r.stop.column) (fits : r.stop.column ≤ length) :
    r.start.column + r.markCount length = r.stop.column := by
  simp only [markCount, if_pos same]
  omega

theorem markCount_of_further (further : r.stop.line ≠ r.start.line)
    (inside : r.start.column < length) : r.start.column + r.markCount length = length := by
  simp only [markCount, if_neg further]
  omega

end Range

namespace Report

/-! ### Words -/

namespace Words

theorem add?_eq {a b : Nat} (h : a + b ≤ largest) : add? a b = some (a + b) := if_pos h

theorem sub?_eq {a b : Nat} (h : b ≤ a) : sub? a b = some (a - b) := if_pos h

theorem repeated?_eq {n : Nat} (c : Char) (h : n ≤ longest) :
    repeated? n c = some (repeated n c) := if_pos h

theorem limit_lt_longest : Position.limit < longest := by decide

theorem longest_lt_largest : longest < largest := by decide

theorem markCount_eq (r : Range) {length : Nat} (h : length ≤ longest) :
    max 1 (min (wanted r) (length - r.start.column)) = r.markCount length := by
  have words := longest_lt_largest
  simp only [wanted, Range.markCount]
  split
  · rfl
  · rw [Nat.min_self, Nat.min_eq_right]
    omega

theorem excerpt?_eq {lines : List (List Char)} {r : Range} (stored : r.Stored)
    (fits : ∀ line ∈ lines, line.length ≤ longest) :
    excerpt? lines r (r.start.line + 1) (r.start.column + 1) = some (excerpt lines r) := by
  have words := limit_lt_longest
  rw [excerpt?, excerpt, Nat.add_sub_cancel]
  cases hline : lines[r.start.line]? with
  | none => rfl
  | some line =>
    have short := fits line (List.mem_of_getElem? hline)
    have blanks : r.start.column ≤ longest := stored.2.1.trans words.le
    have marks : r.markCount line.length ≤ longest := by
      have most : r.markCount line.length ≤ max 1 (line.length - r.start.column) := r.markCount_le
      omega
    simp only [Nat.add_sub_cancel, sub?_eq (Nat.le_add_left 1 _), repeated?_eq _ blanks,
      Option.bind_eq_bind, Option.bind_some, markCount_eq r short, repeated?_eq _ marks]
    rfl

/-- Neither sums nor differences nor texts are ever too large or too small. -/
theorem humanFinding?_eq (file : String) {lines : List (List Char)} {f : Finding}
    (stored : f.range.Stored) (fits : ∀ line ∈ lines, line.length ≤ longest) :
    humanFinding? file lines f = some (humanFinding file lines f) := by
  have words : Position.limit < largest := limit_lt_longest.trans longest_lt_largest
  have line : f.range.start.line + 1 ≤ largest := Nat.succ_le_of_lt (stored.1.trans_lt words)
  have column : f.range.start.column + 1 ≤ largest :=
    Nat.succ_le_of_lt (stored.2.1.trans_lt words)
  rw [humanFinding?, add?_eq line, add?_eq column]
  simp only [Option.bind_eq_bind, Option.bind_some, excerpt?_eq stored fits]
  rfl

end Words

/-! ### Rows -/

variable (r : Range) (line : List Char)

def lineMargin : String := padded r.start.lineNumber ++ " | "

def markMargin : String := "   | "

def lineRow : List Char := (lineMargin r).toList ++ line

def markRow : List Char :=
  markMargin.toList ++ (List.replicate r.start.column ' ' ++
    List.replicate (r.markCount line.length) '^')

/-- The column of its row in which a character of the line stands. -/
def lineColumn (k : Nat) : Nat := (lineMargin r).length + k

/-- How much narrower the margin of the marks is than that of the line. -/
def leftShift : Nat := (lineMargin r).length - markMargin.length

theorem length_padded (n : Nat) : (padded n).length = max 3 (toString n).length := by
  have blanks (k : Nat) : (repeated k ' ').length = k := by
    rw [repeated, String.length_ofList, List.length_replicate]
  rw [padded, String.length_append, blanks]
  omega

theorem length_lineMargin :
    (lineMargin r).length = max 3 (toString r.start.lineNumber).length + 3 := by
  have behind : " | ".length = 3 := by decide
  rw [lineMargin, String.length_append, length_padded, behind]

theorem length_markMargin : markMargin.length = 5 := by decide

theorem leftShift_eq : leftShift r = max 1 ((toString r.start.lineNumber).length - 2) := by
  rw [leftShift, length_lineMargin, length_markMargin]
  omega

theorem getElem?_lineRow (k : Nat) : (lineRow r line)[lineColumn r k]? = (line : List Char)[k]? := by
  rw [lineRow, lineColumn, ← String.length_toList, List.getElem?_append_right (Nat.le_add_right _ _),
    Nat.add_sub_cancel_left]

/-- A mark stands to the left of a character, as far as the margin is narrower, exactly if the
character is among those to mark. -/
theorem getElem?_markRow_iff (k : Nat) :
    (markRow r line)[lineColumn r k - leftShift r]? = some '^' ↔
      r.start.column ≤ k ∧ k < r.start.column + r.markCount line.length := by
  have column : lineColumn r k - leftShift r = markMargin.toList.length + k := by
    rw [leftShift_eq, lineColumn, length_lineMargin, String.length_toList, length_markMargin]
    omega
  rw [column, markRow, List.getElem?_append_right (Nat.le_add_right _ _), Nat.add_sub_cancel_left]
  rcases Nat.lt_or_ge k r.start.column with before | behind
  · have blank : some ' ' ≠ some '^' := by decide
    rw [List.getElem?_append_left (by rwa [List.length_replicate]), List.getElem?_replicate,
      if_pos before]
    exact iff_of_false blank (by omega)
  · rw [List.getElem?_append_right (by rwa [List.length_replicate]), List.length_replicate,
      List.getElem?_replicate, Option.ite_none_right_eq_some]
    simp only [behind, and_true, true_and]
    omega

theorem excerpt_of_line {lines : List (List Char)} {r : Range} {line : List Char}
    (h : lines[r.start.line]? = some line) :
    excerpt lines r = "   |\n" ++ String.ofList (lineRow r line) ++ "\n" ++
      String.ofList (markRow r line) ++ "\n" := by
  rw [excerpt, h]
  simp [lineRow, markRow, lineMargin, markMargin, repeated, ← String.toList_inj]

def heading (file : String) (f : Finding) : String :=
  f.severity.coloured ++ "[" ++ f.rule.code ++ "]: " ++ f.message ++ "\n" ++
    "  --> " ++ file ++ ":" ++ toString f.range.start.lineNumber ++ ":" ++
    toString f.range.start.columnNumber ++ "\n"

def helpLine (f : Finding) : String :=
  match f.help with
  | some help => "   = help: " ++ help ++ "\n"
  | none => ""

theorem humanFinding_eq (file : String) (lines : List (List Char)) (f : Finding) :
    humanFinding file lines f = heading file f ++ excerpt lines f.range ++ helpLine f ++ "\n" := rfl

theorem human_singleton (file text : String) (f : Finding) :
    human file text [f] = humanFinding file (textLines text.toList) f := by
  have single : human file text [f] = "" ++ humanFinding file (textLines text.toList) f := rfl
  rw [single, String.empty_append]

/-- How marks stand in the row under the row of a line. -/
structure Marked (r : Range) (line : List Char) (marks : Nat) : Prop where
  /-- To the left of a character, as far as the margin is narrower, a mark stands exactly if the
  character is one of as many from the start of the range on. -/
  placed : ∀ k, (markRow r line)[lineColumn r k - leftShift r]? = some '^' ↔
    r.start.column ≤ k ∧ k < r.start.column + marks
  nonempty : 1 ≤ marks
  within : r.start.column + marks ≤ line.length
  exact_of_fits : r.stop.line = r.start.line → r.start.column < r.stop.column →
    r.stop.column ≤ line.length → marks = r.stop.column - r.start.column
  all_of_further : r.stop.line ≠ r.start.line → r.start.column + marks = line.length

variable {r line} in
theorem marked_markCount (inside : r.start.column < line.length) :
    Marked r line (r.markCount line.length) where
  placed := getElem?_markRow_iff r line
  nonempty := r.one_le_markCount
  within := r.markCount_within inside
  exact_of_fits same nonempty fits := by
    have marked := r.markCount_of_fits same nonempty fits
    omega
  all_of_further further := r.markCount_of_further further inside

/-- Whatever the range and the text, the report of a finding is counted without leaving the words of
the machine. Where the range starts within a line, the line and the marks have a row each. There is
a mark, and none is behind the end of the line; there are as many as the range is wide if it fits into
the line, and all to the end of the line if it goes on behind it. But the first of them does not stand
under the character that the range starts with: the margin of their row is narrower, by one column
for the first 999 lines and by more for those behind. -/
theorem marks_follow_range (file text : String) (f : Finding) (stored : f.range.Stored)
    (fits : text.utf8ByteSize ≤ Words.longest) :
    Words.humanFinding? file (textLines text.toList) f = some (human file text [f]) ∧
    ∀ line, (textLines text.toList)[f.range.start.line]? = some line →
      f.range.start.column < line.length →
      human file text [f] =
        heading file f ++ ("   |\n" ++ String.ofList (lineRow f.range line) ++ "\n" ++
          String.ofList (markRow f.range line) ++ "\n") ++ helpLine f ++ "\n" ∧
      (∀ k, (lineRow f.range line)[lineColumn f.range k]? = (line : List Char)[k]?) ∧
      leftShift f.range = max 1 ((toString f.range.start.lineNumber).length - 2) ∧
      ∃ marks, Marked f.range line marks := by
  have short : ∀ line ∈ textLines text.toList, line.length ≤ Words.longest := fun line hline =>
    (length_le_of_mem_textLines hline).trans ((Text.length_le_utf8ByteSize text).trans fits)
  rw [human_singleton]
  refine ⟨Words.humanFinding?_eq file stored short, fun line hline inside => ?_⟩
  refine ⟨?_, getElem?_lineRow f.range line, leftShift_eq f.range, _, marked_markCount inside⟩
  rw [humanFinding_eq, excerpt_of_line hline]

/-- A range that ends before it starts, on a line that ends with a carriage return. -/
theorem reversedRange_marked :
    let text := "SELECT 1;\r\nSELECT * FROM t\r\n"
    let f : Finding := .warning .selectStar ⟨⟨1, 7⟩, ⟨0, 3⟩⟩ "Use of SELECT *"
    f.range.Stored ∧ text.utf8ByteSize ≤ Words.longest ∧
      (textLines text.toList)[1]? = some "SELECT * FROM t".toList ∧
      Words.humanFinding? "q.sql" (textLines text.toList) f = some (human "q.sql" text [f]) ∧
      ∃ marks, Marked f.range "SELECT * FROM t".toList marks := by
  intro text f
  have stored : f.range.Stored := by decide
  have fits : text.utf8ByteSize ≤ Words.longest := by decide +kernel
  have second : (textLines text.toList)[1]? = some "SELECT * FROM t".toList := by decide +kernel
  obtain ⟨counted, rows⟩ := marks_follow_range "q.sql" text f stored fits
  obtain ⟨_, _, _, marked⟩ := rows _ second (by decide +kernel)
  exact ⟨stored, fits, second, counted, marked⟩

/-- The star stands in column 13 of its row, and the mark for it in column 12 of its own. -/
theorem star_marked_beside :
    let text := "SELECT * FROM t;"
    let f : Finding := .warning .selectStar ⟨⟨0, 7⟩, ⟨0, 8⟩⟩
      "Use of SELECT * is discouraged, specify columns explicitly"
    audit none {} text = [f] ∧
      excerpt (textLines text.toList) f.range =
        "   |\n  1 | SELECT * FROM t;\n   |        ^\n" ∧
      (lineRow f.range text.toList)[13]? = some '*' ∧
      (markRow f.range text.toList)[12]? = some '^' ∧
      (markRow f.range text.toList)[13]? = none :=
  ⟨by decide +kernel, by decide +kernel, by decide +kernel, by decide +kernel, by decide +kernel⟩

end Report

end SqlAudit
