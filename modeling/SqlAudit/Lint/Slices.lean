import SqlAudit.Sql.Token

/-!
Cutting a list of lexemes into statements. A semicolon outside parentheses ends a slice and belongs
to it; slices of blanks, comments and semicolons alone are left out.
-/

namespace SqlAudit.Lint

open Sql

/-- The nesting depth after a token; a parenthesis too many leaves it at zero. -/
def depthAfter (depth : Nat) : Token → Nat
  | .leftParen => depth + 1
  | .rightParen => depth - 1
  | _ => depth

def prepend (l : Lexeme) : List (List Lexeme) → List (List Lexeme)
  | [] => [[l]]
  | slice :: slices => (l :: slice) :: slices

/-- All slices, the one after the last semicolon too. -/
def cut : Nat → List Lexeme → List (List Lexeme)
  | _, [] => [[]]
  | depth, l :: rest =>
    if depth = 0 ∧ l.token = .semicolon then [l] :: cut 0 rest
    else prepend l (cut (depthAfter depth l.token) rest)

def hasContent (slice : List Lexeme) : Bool :=
  slice.any fun l => l.isSignificant && l.token != .semicolon

def statementSlices (lexemes : List Lexeme) : List (List Lexeme) :=
  (cut 0 lexemes).filter hasContent

theorem flatten_cut (depth : Nat) (lexemes : List Lexeme) : (cut depth lexemes).flatten = lexemes := by
  have flatten_prepend (l : Lexeme) (slices : List (List Lexeme)) :
      (prepend l slices).flatten = l :: slices.flatten := by
    cases slices <;> simp [prepend]
  induction lexemes generalizing depth with
  | nil => simp [cut]
  | cons l rest ih =>
    rw [cut]
    split
    · simp [ih]
    · simp [flatten_prepend, ih]

end SqlAudit.Lint
