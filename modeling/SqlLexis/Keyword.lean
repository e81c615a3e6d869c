/-!
# SQL keywords

The words that some dialect reserves, each with its spelling:

* `Keyword.text`: the spelling, in upper case;
* `Keyword.name`: the words of the spelling capitalised and joined, `SQL_NO_CACHE` giving
  `SqlNoCache`;
* `Keyword.all`, `Keyword.standard`: every keyword, and those that all dialects share.

Which keywords a dialect adds is said in `SqlLexis.Dialect`.
-/

namespace SqlLexis

/-- A keyword of SQL, standard or of one dialect. -/
inductive Keyword where
  -- Schema objects
  | SCHEMA | DATABASE | TABLE | COLUMN | VIEW | INDEX | TRIGGER | PROCEDURE | TABLESPACE
  | FUNCTION | SEQUENCE | CURSOR | DOMAIN | CONSTRAINT | PRIMARY | UNIQUE | FOREIGN | KEY | CHECK
  | REFERENCES | TEMPORARY | CASCADE | RESTRICT
  -- Statements
  | SELECT | INSERT | UPDATE | DELETE | CREATE | ALTER | DROP | TRUNCATE | REPLACE | MERGE
  | GRANT | REVOKE | ADD | MODIFY | RENAME | INTO | VALUES | SET | RETURNING
  -- Parts of a query
  | DISTINCT | ALL | AS | FROM | WHERE | ORDER | GROUP | BY | HAVING | ASC | DESC | JOIN | INNER
  | LEFT | RIGHT | FULL | OUTER | CROSS | NATURAL | USING | ON | UNION | EXCEPT | INTERSECT
  | MINUS | WITH | FOR | OF | TO | FETCH | FIRST | NEXT | ROW | ROWS | ONLY | LOCK | NOWAIT
  | SHARE
  -- Expressions
  | AND | OR | NOT | NULL | IS | IN | BETWEEN | LIKE | ESCAPE | EXISTS | ANY | SOME | CASE | WHEN
  | THEN | ELSE | END | IF | CAST | INTERVAL | DEFAULT | TRUE | FALSE | COUNT | SUM | AVG | MIN
  | MAX
  -- Transactions
  | TRANSACTION | BEGIN | START | COMMIT | ROLLBACK | SAVEPOINT
  -- MySQL
  | SHOW | DUAL | LIMIT | OFFSET | VALUE | FORCE | PARTITION | DISTINCTROW | KILL | QUICK
  | BINARY | CACHE | SQL_CACHE | SQL_NO_CACHE | SQL_SMALL_RESULT | SQL_BIG_RESULT
  | SQL_BUFFER_RESULT | SQL_CALC_FOUND_ROWS | LOW_PRIORITY | HIGH_PRIORITY | DELAYED | OPTIMIZE
  | ANALYZE | IGNORE | DUPLICATE | STRAIGHT_JOIN | CHANGE | AFTER | CHARACTER | CHARSET | COLLATE
  | REGEXP | RLIKE | DIV | MOD | XOR | DESCRIBE | EXPLAIN | USE | TABLES | DATABASES | COLUMNS
  | FIELDS | STATUS | ENGINE | AUTO_INCREMENT
  -- Oracle
  | CONNECT | PRIOR | NOCYCLE | SIBLINGS | ROWNUM | SYSDATE | MATCHED | PIVOT | UNPIVOT | MODEL
  | NULLS | LAST | LOCKED | SKIP | WAIT | PURGE | FLASHBACK
  -- PostgreSQL
  | ILIKE | SIMILAR | SYMMETRIC | LATERAL | RECURSIVE | CONFLICT | DO | NOTHING | RETURNS
  | WINDOW | OVER | FILTER | VERBOSE
  -- SQL Server
  | TOP | OUTPUT | APPLY | NOLOCK | ROWLOCK | TABLOCK | TIES | PERCENT | IDENTITY | OPTION | TRAN
  | GO
  deriving DecidableEq

namespace Keyword

/-- The spelling of a keyword, in upper case. -/
def text : Keyword → String
  | SCHEMA => "SCHEMA"
  | DATABASE => "DATABASE"
  | TABLE => "TABLE"
  | COLUMN => "COLUMN"
  | VIEW => "VIEW"
  | INDEX => "INDEX"
  | TRIGGER => "TRIGGER"
  | PROCEDURE => "PROCEDURE"
  | TABLESPACE => "TABLESPACE"
  | FUNCTION => "FUNCTION"
  | SEQUENCE => "SEQUENCE"
  | CURSOR => "CURSOR"
  | DOMAIN => "DOMAIN"
  | CONSTRAINT => "CONSTRAINT"
  | PRIMARY => "PRIMARY"
  | UNIQUE => "UNIQUE"
  | FOREIGN => "FOREIGN"
  | KEY => "KEY"
  | CHECK => "CHECK"
  | REFERENCES => "REFERENCES"
  | TEMPORARY => "TEMPORARY"
  | CASCADE => "CASCADE"
  | RESTRICT => "RESTRICT"
  | SELECT => "SELECT"
  | INSERT => "INSERT"
  | UPDATE => "UPDATE"
  | DELETE => "DELETE"
  | CREATE => "CREATE"
  | ALTER => "ALTER"
  | DROP => "DROP"
  | TRUNCATE => "TRUNCATE"
  | REPLACE => "REPLACE"
  | MERGE => "MERGE"
  | GRANT => "GRANT"
  | REVOKE => "REVOKE"
  | ADD => "ADD"
  | MODIFY => "MODIFY"
  | RENAME => "RENAME"
  | INTO => "INTO"
  | VALUES => "VALUES"
  | SET => "SET"
  | RETURNING => "RETURNING"
  | DISTINCT => "DISTINCT"
  | ALL => "ALL"
  | AS => "AS"
  | FROM => "FROM"
  | WHERE => "WHERE"
  | ORDER => "ORDER"
  | GROUP => "GROUP"
  | BY => "BY"
  | HAVING => "HAVING"
  | ASC => "ASC"
  | DESC => "DESC"
  | JOIN => "JOIN"
  | INNER => "INNER"
  | LEFT => "LEFT"
  | RIGHT => "RIGHT"
  | FULL => "FULL"
  | OUTER => "OUTER"
  | CROSS => "CROSS"
  | NATURAL => "NATURAL"
  | USING => "USING"
  | ON => "ON"
  | UNION => "UNION"
  | EXCEPT => "EXCEPT"
  | INTERSECT => "INTERSECT"
  | MINUS => "MINUS"
  | WITH => "WITH"
  | FOR => "FOR"
  | OF => "OF"
  | TO => "TO"
  | FETCH => "FETCH"
  | FIRST => "FIRST"
  | NEXT => "NEXT"
  | ROW => "ROW"
  | ROWS => "ROWS"
  | ONLY => "ONLY"
  | LOCK => "LOCK"
  | NOWAIT => "NOWAIT"
  | SHARE => "SHARE"
  | AND => "AND"
  | OR => "OR"
  | NOT => "NOT"
  | NULL => "NULL"
  | IS => "IS"
  | IN => "IN"
  | BETWEEN => "BETWEEN"
  | LIKE => "LIKE"
  | ESCAPE => "ESCAPE"
  | EXISTS => "EXISTS"
  | ANY => "ANY"
  | SOME => "SOME"
  | CASE => "CASE"
  | WHEN => "WHEN"
  | THEN => "THEN"
  | ELSE => "ELSE"
  | END => "END"
  | IF => "IF"
  | CAST => "CAST"
  | INTERVAL => "INTERVAL"
  | DEFAULT => "DEFAULT"
  | TRUE => "TRUE"
  | FALSE => "FALSE"
  | COUNT => "COUNT"
  | SUM => "SUM"
  | AVG => "AVG"
  | MIN => "MIN"
  | MAX => "MAX"
  | TRANSACTION => "TRANSACTION"
  | BEGIN => "BEGIN"
  | START => "START"
  | COMMIT => "COMMIT"
  | ROLLBACK => "ROLLBACK"
  | SAVEPOINT => "SAVEPOINT"
  | SHOW => "SHOW"
  | DUAL => "DUAL"
  | LIMIT => "LIMIT"
  | OFFSET => "OFFSET"
  | VALUE => "VALUE"
  | FORCE => "FORCE"
  | PARTITION => "PARTITION"
  | DISTINCTROW => "DISTINCTROW"
  | KILL => "KILL"
  | QUICK => "QUICK"
  | BINARY => "BINARY"
  | CACHE => "CACHE"
  | SQL_CACHE => "SQL_CACHE"
  | SQL_NO_CACHE => "SQL_NO_CACHE"
  | SQL_SMALL_RESULT => "SQL_SMALL_RESULT"
  | SQL_BIG_RESULT => "SQL_BIG_RESULT"
  | SQL_BUFFER_RESULT => "SQL_BUFFER_RESULT"
  | SQL_CALC_FOUND_ROWS => "SQL_CALC_FOUND_ROWS"
  | LOW_PRIORITY => "LOW_PRIORITY"
  | HIGH_PRIORITY => "HIGH_PRIORITY"
  | DELAYED => "DELAYED"
  | OPTIMIZE => "OPTIMIZE"
  | ANALYZE => "ANALYZE"
  | IGNORE => "IGNORE"
  | DUPLICATE => "DUPLICATE"
  | STRAIGHT_JOIN => "STRAIGHT_JOIN"
  | CHANGE => "CHANGE"
  | AFTER => "AFTER"
  | CHARACTER => "CHARACTER"
  | CHARSET => "CHARSET"
  | COLLATE => "COLLATE"
  | REGEXP => "REGEXP"
  | RLIKE => "RLIKE"
  | DIV => "DIV"
  | MOD => "MOD"
  | XOR => "XOR"
  | DESCRIBE => "DESCRIBE"
  | EXPLAIN => "EXPLAIN"
  | USE => "USE"
  | TABLES => "TABLES"
  | DATABASES => "DATABASES"
  | COLUMNS => "COLUMNS"
  | FIELDS => "FIELDS"
  | STATUS => "STATUS"
  | ENGINE => "ENGINE"
  | AUTO_INCREMENT => "AUTO_INCREMENT"
  | CONNECT => "CONNECT"
  | PRIOR => "PRIOR"
  | NOCYCLE => "NOCYCLE"
  | SIBLINGS => "SIBLINGS"
  | ROWNUM => "ROWNUM"
  | SYSDATE => "SYSDATE"
  | MATCHED => "MATCHED"
  | PIVOT => "PIVOT"
  | UNPIVOT => "UNPIVOT"
  | MODEL => "MODEL"
  | NULLS => "NULLS"
  | LAST => "LAST"
  | LOCKED => "LOCKED"
  | SKIP => "SKIP"
  | WAIT => "WAIT"
  | PURGE => "PURGE"
  | FLASHBACK => "FLASHBACK"
  | ILIKE => "ILIKE"
  | SIMILAR => "SIMILAR"
  | SYMMETRIC => "SYMMETRIC"
  | LATERAL => "LATERAL"
  | RECURSIVE => "RECURSIVE"
  | CONFLICT => "CONFLICT"
  | DO => "DO"
  | NOTHING => "NOTHING"
  | RETURNS => "RETURNS"
  | WINDOW => "WINDOW"
  | OVER => "OVER"
  | FILTER => "FILTER"
  | VERBOSE => "VERBOSE"
  | TOP => "TOP"
  | OUTPUT => "OUTPUT"
  | APPLY => "APPLY"
  | NOLOCK => "NOLOCK"
  | ROWLOCK => "ROWLOCK"
  | TABLOCK => "TABLOCK"
  | TIES => "TIES"
  | PERCENT => "PERCENT"
  | IDENTITY => "IDENTITY"
  | OPTION => "OPTION"
  | TRAN => "TRAN"
  | GO => "GO"

/-- A word with its first character kept and the others in lower case. -/
def capitalised : List Char → List Char
  | [] => []
  | c :: rest => c :: rest.map Char.toLower

/-- The name of a keyword: each part of the spelling capitalised, without the underscores. -/
def name (k : Keyword) : String :=
  String.ofList ((k.text.toList.splitOn '_').flatMap capitalised)

/-- Every keyword. -/
def all : List Keyword := [
  .SCHEMA, .DATABASE, .TABLE, .COLUMN, .VIEW, .INDEX, .TRIGGER, .PROCEDURE, .TABLESPACE,
  .FUNCTION, .SEQUENCE, .CURSOR, .DOMAIN, .CONSTRAINT, .PRIMARY, .UNIQUE, .FOREIGN, .KEY, .CHECK,
  .REFERENCES, .TEMPORARY, .CASCADE, .RESTRICT, .SELECT, .INSERT, .UPDATE, .DELETE, .CREATE,
  .ALTER, .DROP, .TRUNCATE, .REPLACE, .MERGE, .GRANT, .REVOKE, .ADD, .MODIFY, .RENAME, .INTO,
  .VALUES, .SET, .RETURNING, .DISTINCT, .ALL, .AS, .FROM, .WHERE, .ORDER, .GROUP, .BY, .HAVING,
  .ASC, .DESC, .JOIN, .INNER, .LEFT, .RIGHT, .FULL, .OUTER, .CROSS, .NATURAL, .USING, .ON,
  .UNION, .EXCEPT, .INTERSECT, .MINUS, .WITH, .FOR, .OF, .TO, .FETCH, .FIRST, .NEXT, .ROW, .ROWS,
  .ONLY, .LOCK, .NOWAIT, .SHARE, .AND, .OR, .NOT, .NULL, .IS, .IN, .BETWEEN, .LIKE, .ESCAPE,
  .EXISTS, .ANY, .SOME, .CASE, .WHEN, .THEN, .ELSE, .END, .IF, .CAST, .INTERVAL, .DEFAULT, .TRUE,
  .FALSE, .COUNT, .SUM, .AVG, .MIN, .MAX, .TRANSACTION, .BEGIN, .START, .COMMIT, .ROLLBACK,
  .SAVEPOINT, .SHOW, .DUAL, .LIMIT, .OFFSET, .VALUE, .FORCE, .PARTITION, .DISTINCTROW, .KILL,
  .QUICK, .BINARY, .CACHE, .SQL_CACHE, .SQL_NO_CACHE, .SQL_SMALL_RESULT, .SQL_BIG_RESULT,
  .SQL_BUFFER_RESULT, .SQL_CALC_FOUND_ROWS, .LOW_PRIORITY, .HIGH_PRIORITY, .DELAYED, .OPTIMIZE,
  .ANALYZE, .IGNORE, .DUPLICATE, .STRAIGHT_JOIN, .CHANGE, .AFTER, .CHARACTER, .CHARSET, .COLLATE,
  .REGEXP, .RLIKE, .DIV, .MOD, .XOR, .DESCRIBE, .EXPLAIN, .USE, .TABLES, .DATABASES, .COLUMNS,
  .FIELDS, .STATUS, .ENGINE, .AUTO_INCREMENT, .CONNECT, .PRIOR, .NOCYCLE, .SIBLINGS, .ROWNUM,
  .SYSDATE, .MATCHED, .PIVOT, .UNPIVOT, .MODEL, .NULLS, .LAST, .LOCKED, .SKIP, .WAIT, .PURGE,
  .FLASHBACK, .ILIKE, .SIMILAR, .SYMMETRIC, .LATERAL, .RECURSIVE, .CONFLICT, .DO, .NOTHING,
  .RETURNS, .WINDOW, .OVER, .FILTER, .VERBOSE, .TOP, .OUTPUT, .APPLY, .NOLOCK, .ROWLOCK,
  .TABLOCK, .TIES, .PERCENT, .IDENTITY, .OPTION, .TRAN, .GO]

/-- The keywords that every dialect shares. -/
def standard : List Keyword := [
  .SCHEMA, .DATABASE, .TABLE, .COLUMN, .VIEW, .INDEX, .TRIGGER, .PROCEDURE, .TABLESPACE,
  .FUNCTION, .SEQUENCE, .CURSOR, .DOMAIN, .CONSTRAINT, .PRIMARY, .UNIQUE, .FOREIGN, .KEY, .CHECK,
  .REFERENCES, .TEMPORARY, .CASCADE, .RESTRICT, .SELECT, .INSERT, .UPDATE, .DELETE, .CREATE,
  .ALTER, .DROP, .TRUNCATE, .REPLACE, .MERGE, .GRANT, .REVOKE, .ADD, .MODIFY, .RENAME, .INTO,
  .VALUES, .SET, .RETURNING, .DISTINCT, .ALL, .AS, .FROM, .WHERE, .ORDER, .GROUP, .BY, .HAVING,
  .ASC, .DESC, .JOIN, .INNER, .LEFT, .RIGHT, .FULL, .OUTER, .CROSS, .NATURAL, .USING, .ON,
  .UNION, .EXCEPT, .INTERSECT, .MINUS, .WITH, .FOR, .OF, .TO, .FETCH, .FIRST, .NEXT, .ROW, .ROWS,
  .ONLY, .LOCK, .NOWAIT, .SHARE, .AND, .OR, .NOT, .NULL, .IS, .IN, .BETWEEN, .LIKE, .ESCAPE,
  .EXISTS, .ANY, .SOME, .CASE, .WHEN, .THEN, .ELSE, .END, .IF, .CAST, .INTERVAL, .DEFAULT, .TRUE,
  .FALSE, .COUNT, .SUM, .AVG, .MIN, .MAX, .TRANSACTION, .BEGIN, .START, .COMMIT, .ROLLBACK,
  .SAVEPOINT]

/-- The keyword of a name. -/
def ofName? (n : String) : Option Keyword := all.find? (·.name == n)

instance : ToString Keyword := ⟨text⟩

end Keyword

end SqlLexis
