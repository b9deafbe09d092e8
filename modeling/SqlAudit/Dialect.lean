import SqlAudit.Text.Case

/-!
The SQL dialects. A dialect is chosen by its own name or by the name of a database driver; the two
lists of names agree, except that an unknown driver means the generic dialect.
-/

namespace SqlAudit

inductive Dialect
  | generic
  | postgresql
  | mysql
  deriving DecidableEq, Repr, Inhabited

namespace Dialect

open Text

def label : Dialect → String
  | generic => "generic"
  | postgresql => "postgresql"
  | mysql => "mysql"

def postgresqlNames : List String := ["postgresql", "postgres", "pg"]

def mysqlNames : List String := ["mysql", "mysql8", "mysql57", "mysql56", "mariadb"]

/-- The dialect of a name in any letter case; the empty name is the generic dialect. -/
def ofName? (name : String) : Option Dialect :=
  let key := lower name
  if key == "generic" || key == "" then some generic
  else if postgresqlNames.contains key then some postgresql
  else if mysqlNames.contains key then some mysql
  else none

/-- The dialect of a database driver; blanks around its name do not count. -/
def ofDriver (driver : String) : Dialect :=
  let key := lower (trimBlanks driver)
  if mysqlNames.contains key then mysql
  else if postgresqlNames.contains key then postgresql
  else generic

/-- Whether `"text"` is a string; elsewhere it is a name. -/
def doubleQuotesAreStrings (d : Dialect) : Bool := d == mysql

def defaultSchema : Dialect → String
  | mysql => ""
  | _ => "public"

def unknownMessage (name : String) : String :=
  "unknown dialect '" ++ name ++ "'. Supported dialects: generic, postgresql, mysql"

end Dialect

end SqlAudit
