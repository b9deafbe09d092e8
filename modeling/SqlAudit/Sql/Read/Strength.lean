import SqlAudit.Sql.Token
import SqlAudit.Dialect

/-!
How strongly operators bind. Of two operators around an operand the stronger one takes it; PostgreSQL
orders its operators in a way of its own.
-/

namespace SqlAudit.Sql

inductive Binding
  | cast
  | zone
  | product
  | sum
  | xor
  | bitAnd
  | caret
  | bitOr
  | between
  | comparison
  | like
  | test
  | special
  | negation
  | conjunction
  | disjunction
  deriving DecidableEq, Repr

namespace Binding

def strength (d : Dialect) (b : Binding) : Nat :=
  match d with
  | .postgresql =>
    match b with
    | cast => 140
    | zone => 110
    | caret => 100
    | product => 90
    | sum => 80
    | xor => 75
    | bitAnd | bitOr | special => 70
    | between | like => 60
    | comparison => 50
    | test => 40
    | negation => 30
    | conjunction => 20
    | disjunction => 10
  | _ =>
    match b with
    | cast => 50
    | zone => 41
    | product => 40
    | sum => 30
    | xor => 24
    | bitAnd => 23
    | caret => 22
    | bitOr => 21
    | between | comparison => 20
    | like => 19
    | test => 17
    | special => 16
    | negation => 15
    | conjunction => 10
    | disjunction => 5

end Binding

def patternKeywords : List String := ["LIKE", "ILIKE", "RLIKE", "REGEXP", "SIMILAR"]

def operatorBinding (text : String) : Option Binding :=
  match text with
  | "<" | "<=" | ">" | ">=" | "==" | "~" | "~*" | "!~" | "!~*" | "~~" | "~~*" | "!~~" | "!~~*"
  | "<=>" => some .comparison
  | "|" => some .bitOr
  | "^" | "#" | ">>" | "<<" => some .caret
  | "&" => some .bitAnd
  | "+" | "-" => some .sum
  | "/" | "//" | "%" | "||" => some .product
  | "::" | "!" | "[" | "&&" | "^@" => some .cast
  | "->" | "->>" | "#>" | "#>>" | "@>" | "<@" | "#-" | "@?" | "@@" | "?" | "?&" | "?|" =>
    some .special
  | _ => none

def postgresqlSpecial : List String := ["!", "&&", "^@", "||", "#", ">>", "<<"]

def plainSigns : List String :=
  ["=>", "!!", ":=", ":", "@", "\\", "]", "\x7b", "\x7d", "|/", "||/"]

def isCustomOperator (text : String) : Bool :=
  (operatorBinding text).isNone && !plainSigns.contains text

/-- The strength of what stands ahead as an operator between operands, zero for anything else. -/
def strengthAhead (d : Dialect) (ahead : List Lexeme) : Nat :=
  let isKeywordAt (n : Nat) (k : String) := (ahead[n]?).any (·.token.isKeyword k)
  match ahead with
  | [] => 0
  | l :: _ =>
    match l.token with
    | .word w =>
      if w.quote.isSome then 0
      else
        let test (k : String) : Option Binding :=
          if k == "IN" || k == "BETWEEN" then some .between
          else if patternKeywords.contains k then some .like
          else none
        let binding : Option Binding :=
          match w.keyword with
          | "OR" => some .disjunction
          | "AND" => some .conjunction
          | "XOR" => some .xor
          | "AT" => if isKeywordAt 1 "TIME" && isKeywordAt 2 "ZONE" then some .zone else none
          | "NOT" =>
            match (ahead[1]?).map Lexeme.token with
            | some (.word w') => if w'.quote.isSome then none else test w'.keyword
            | _ => none
          | "IS" => some .test
          | "OVERLAPS" | "OPERATOR" => some .between
          | "DIV" => some .product
          | k => test k
        if d == .postgresql && w.keyword == "COLLATE" then 120
        else (binding.map (·.strength d)).getD 0
    | .equal | .notEqual => Binding.comparison.strength d
    | .star => Binding.product.strength d
    | .operator text =>
      if d == .postgresql && text == "[" then 130
      else if d == .postgresql && (postgresqlSpecial.contains text || isCustomOperator text) then
        Binding.special.strength d
      else ((operatorBinding text).map (·.strength d)).getD 0
    | _ => 0

end SqlAudit.Sql
