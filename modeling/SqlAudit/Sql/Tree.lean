import SqlAudit.Position

/-!
The syntax tree of SQL statements, as far as the audit and the catalog need it. An expression is a
name, a path of names, or a form with operands; a form is the text between the operands. The
operands of a node stand in the order in which they are visited, which a form may print in another
order. Statements that define tables carry what they define beside what they make visible.
-/

namespace SqlAudit.Sql

structure Ident where
  value : String
  quote : Option Char
  place : Option Range
  deriving DecidableEq, Repr, Inhabited

namespace Ident

def range (i : Ident) : Range := i.place.getD .origin

/-- Where a name starts; this is what makes two visits visits to the same name. -/
def key (i : Ident) : Option Position := i.place.map (·.start)

end Ident

abbrev Path := List Ident

structure TableAlias where
  name : Ident
  columns : List Ident
  deriving DecidableEq, Repr, Inhabited

inductive Piece
  | text (s : String)
  | operand (index : Nat)
  deriving DecidableEq, Repr, Inhabited

inductive ColumnOption
  | null
  | notNull
  | default (text : String)
  | primaryKey
  | other
  deriving DecidableEq, Repr, Inhabited

structure ColumnSpec where
  name : Ident
  type : String
  options : List ColumnOption
  deriving DecidableEq, Repr, Inhabited

inductive TableChange
  | addColumn (column : ColumnSpec) (ifNotExists : Bool)
  | dropColumn (name : Ident)
  | renameColumn (old new : Ident)
  | renameTable (name : Path)
  | other
  deriving DecidableEq, Repr, Inhabited

inductive Definition
  | schema (name : Option Ident)
  | table (name : Path) (columns : List ColumnSpec) (keys : List Ident) (ifNotExists : Bool)
  | view (name : Path) (columns : List Ident) (ifNotExists : Bool)
  | alter (name : Path) (changes : List TableChange)
  | drop (names : List Path)
  deriving DecidableEq, Repr, Inhabited

mutual

inductive Expr
  | name (id : Ident)
  | path (parts : Path)
  | literal (text : String)
  | operation (form : List Piece) (operands : List Expr)
  | subquery (form : List Piece) (operands : List Expr) (query : Query)

inductive Query
  | mk (ctes : List Cte) (body : SetExpr) (tail : List Expr)

inductive Cte
  | mk (header : TableAlias) (query : Query)

inductive SetExpr
  | select (select : Select)
  | nested (query : Query)
  | operation (left right : SetExpr)
  | rows (values : List Expr)
  | statement (statement : Statement)
  | table

/-- A SELECT. Its head holds what stands before the items, its middle what stands between the
sources and the filter, and its tail the rest. -/
inductive Select
  | mk (head : List Expr) (items : List SelectItem) (sources : List Source) (middle : List Expr)
      (filter : Option Expr) (tail : List Expr)

inductive SelectItem
  | plain (expr : Expr)
  | aliased (expr : Expr) (name : Ident)
  | star (replacements : List Expr)
  | qualifiedStar (qualifier : Path) (replacements : List Expr)

inductive Source
  | mk (factor : Factor) (joins : List Join)

inductive Join
  | mk (factor : Factor) (conditions : List Expr)

inductive Factor
  | table (name : Path) (alias? : Option TableAlias) (called : Bool) (operands : List Expr)
  | derived (query : Query) (alias? : Option TableAlias)
  | nested (source : Source) (alias? : Option TableAlias)
  | function (operands : List Expr) (alias? : Option TableAlias)
  | pivot (base : Factor) (operands : List Expr)
  | document (operands : List Expr)

inductive Statement
  | query (query : Query)
  | insert (target : Path) (alias? : Option Ident) (columns : List Ident) (source : Option Query)
      (operands : List Expr)
  | update (target : Source) (names : List Path) (values : List Expr) (sources : List Source)
      (filter : Option Expr) (tail : List Expr)
  | delete (sources : List Source) (using_ : List Source) (filter : Option Expr)
      (tail : List Expr)
  | explain (statement : Statement) (options : List Expr)
  | prepare (statement : Statement)
  | define (definition : Definition) (operands : List Expr) (query : Option Query)
      (tail : List Expr)
  | other (sources : List Source) (operands : List Expr) (query : Option Query)

end

instance : Inhabited Expr := ⟨.literal ""⟩

namespace Query

def ctes : Query → List Cte
  | mk ctes _ _ => ctes

def body : Query → SetExpr
  | mk _ body _ => body

end Query

namespace Cte

def header : Cte → TableAlias
  | mk header _ => header

def query : Cte → Query
  | mk _ query => query

end Cte

namespace Select

def items : Select → List SelectItem
  | mk _ items _ _ _ _ => items

def sources : Select → List Source
  | mk _ _ sources _ _ _ => sources

def filter : Select → Option Expr
  | mk _ _ _ _ filter _ => filter

end Select

namespace Source

def factor : Source → Factor
  | mk factor _ => factor

def joins : Source → List Join
  | mk _ joins => joins

end Source

namespace Join

def factor : Join → Factor
  | mk factor _ => factor

end Join

namespace Factor

def alias? : Factor → Option TableAlias
  | table _ a _ _ => a
  | derived _ a => a
  | nested _ a => a
  | function _ a => a
  | pivot _ _ => none
  | document _ => none

end Factor

namespace Statement

def kind : Statement → String
  | query _ => "query"
  | insert _ _ _ _ _ => "insert"
  | update _ _ _ _ _ _ => "update"
  | delete _ _ _ _ => "delete"
  | explain _ _ => "explain"
  | prepare _ => "prepare"
  | define _ _ _ _ => "definition"
  | other _ _ _ => "other"

end Statement

end SqlAudit.Sql
