import SqlLexis.Error
import SqlLexis.Keyword

/-!
# Dialects

The dialects of SQL differ in four lexical rules and in their keywords:

* `hintMarker?`: the character that makes a block comment a hint;
* `hashComments`: whether `#` begins a comment;
* `hasVariables`: whether `@` begins a variable;
* `nationalStrings`: whether `N'` begins a string;
* `keywords`: the keywords beyond the standard ones.

A dialect is named in two ways. `ofName?` takes the names that people write, in any case;
`ofConfigName?` takes exactly the names that a configuration file may hold.
-/

namespace SqlLexis

/-- A dialect of SQL. -/
inductive Dialect where
  | mySql | oracle | postgreSql | sqlServer | h2
  deriving DecidableEq

namespace Dialect

/-- Every dialect. -/
def all : List Dialect := [.mySql, .oracle, .postgreSql, .sqlServer, .h2]

/-- The dialect where none is asked for. -/
instance : Inhabited Dialect := ⟨mySql⟩

/-- The name of the dialect's database. -/
def name : Dialect → String
  | mySql => "MySQL"
  | oracle => "Oracle"
  | postgreSql => "PostgreSQL"
  | sqlServer => "SQLServer"
  | h2 => "H2"

instance : ToString Dialect := ⟨name⟩

/-- The name that configuration files are written with. -/
def configName : Dialect → String
  | mySql => "mysql"
  | oracle => "oracle"
  | postgreSql => "postgresql"
  | sqlServer => "sqlserver"
  | h2 => "h2"

/-- The other names that configuration files may hold. -/
def configAliases : Dialect → List String
  | mySql => ["MySQL"]
  | oracle => ["Oracle"]
  | postgreSql => ["PostgreSQL", "postgres"]
  | sqlServer => ["SQLServer"]
  | h2 => ["H2"]

/-- The dialect of a name in a configuration file. -/
def ofConfigName? (n : String) : Option Dialect :=
  all.find? fun d => n == d.configName || d.configAliases.contains n

/-- The names that people write, in lower case. -/
def names : Dialect → List String
  | mySql => ["mysql"]
  | oracle => ["oracle"]
  | postgreSql => ["postgresql", "postgres"]
  | sqlServer => ["sqlserver", "mssql"]
  | h2 => ["h2"]

/-- The dialect of a name that someone wrote; the case of ASCII letters does not matter. -/
def ofName? (n : String) : Option Dialect :=
  let written := String.ofList (lower n.toList)
  all.find? (·.names.contains written)

/-- The dialect of a name, or the complaint about it. -/
def parse (n : String) : Except Error Dialect :=
  match ofName? n with
  | some d => .ok d
  | none => .error (.configuration s!"Unsupported database type: {n}")

/-- The character after `/*` that makes a block a hint. -/
def hintMarker? : Dialect → Option Char
  | mySql => some '!'
  | oracle => some '+'
  | _ => none

/-- Whether `#` begins a comment that ends with its line. -/
def hashComments : Dialect → Bool
  | mySql => true
  | _ => false

/-- Whether `@x` and `@@x` are variables. -/
def hasVariables : Dialect → Bool
  | mySql | sqlServer => true
  | _ => false

/-- Whether `N'...'` is a string. -/
def nationalStrings : Dialect → Bool
  | sqlServer => true
  | _ => false

/-- The keywords beyond the standard ones. -/
def keywords : Dialect → List Keyword
  | mySql => [
      .SHOW, .DUAL, .LIMIT, .OFFSET, .VALUE, .FORCE, .PARTITION, .DISTINCTROW, .KILL, .QUICK,
      .BINARY, .CACHE, .SQL_CACHE, .SQL_NO_CACHE, .SQL_SMALL_RESULT, .SQL_BIG_RESULT,
      .SQL_BUFFER_RESULT, .SQL_CALC_FOUND_ROWS, .LOW_PRIORITY, .HIGH_PRIORITY, .DELAYED,
      .OPTIMIZE, .ANALYZE, .IGNORE, .DUPLICATE, .STRAIGHT_JOIN, .CHANGE, .AFTER, .CHARACTER,
      .CHARSET, .COLLATE, .REGEXP, .RLIKE, .DIV, .MOD, .XOR, .DESCRIBE, .EXPLAIN, .USE, .TABLES,
      .DATABASES, .COLUMNS, .FIELDS, .STATUS, .ENGINE, .AUTO_INCREMENT]
  | oracle => [
      .CONNECT, .PRIOR, .NOCYCLE, .SIBLINGS, .ROWNUM, .SYSDATE, .MATCHED, .PIVOT, .UNPIVOT,
      .MODEL, .NULLS, .LAST, .LOCKED, .SKIP, .WAIT, .PURGE, .FLASHBACK]
  | postgreSql => [
      .LIMIT, .OFFSET, .ILIKE, .SIMILAR, .SYMMETRIC, .LATERAL, .RECURSIVE, .CONFLICT, .DO,
      .NOTHING, .RETURNS, .WINDOW, .OVER, .FILTER, .VERBOSE, .NULLS, .LAST, .ANALYZE, .EXPLAIN]
  | sqlServer => [
      .TOP, .OUTPUT, .APPLY, .NOLOCK, .ROWLOCK, .TABLOCK, .TIES, .PERCENT, .IDENTITY, .OPTION,
      .TRAN, .GO, .PIVOT, .UNPIVOT, .OVER]
  | h2 => [.LIMIT, .OFFSET, .TOP]

/-- The name of a database reads back as its dialect. -/
theorem ofName?_name (d : Dialect) : ofName? d.name = some d := by
  cases d <;> decide +kernel

/-- Every name that a configuration file may hold reads back as its dialect. -/
theorem ofConfigName?_of_mem (d : Dialect) :
    ∀ n ∈ d.configName :: d.configAliases, ofConfigName? n = some d := by
  cases d <;> decide +kernel

end Dialect

end SqlLexis
