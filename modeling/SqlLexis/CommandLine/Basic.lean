/-!
# What a command line asks for

An `Invocation` is a command line that was understood. A `UsageError` is one that was not, or one
that asks for help or for the version instead of a command. `Page` names the commands that have
options and help of their own; `Page.helpLines` is the help that each shows.
-/

namespace SqlLexis.CommandLine

/-- How tokens are written. -/
inductive OutputFormat where
  | text | json
  deriving DecidableEq

namespace OutputFormat

/-- The format of a name, which is written exactly so. -/
def ofName? : String → Option OutputFormat
  | "text" => some text
  | "json" => some json
  | _ => none

end OutputFormat

/-- A request for the tokens of a statement. -/
structure TokenizeRequest where
  /-- The statement itself. -/
  sql? : Option String
  /-- The file that holds the statement. -/
  file? : Option String
  /-- The name of the dialect. -/
  dialect? : Option String
  format : OutputFormat
  deriving DecidableEq

/-- What the program is to do. -/
inductive Command where
  | tokenize (request : TokenizeRequest)
  | dialects
  | info
  deriving DecidableEq

/-- A command line that was understood. -/
structure Invocation where
  /-- The configuration file. -/
  config? : Option String
  /-- The log level. -/
  logLevel? : Option String
  command : Command
  deriving DecidableEq

/-- The program and its commands, each with its options. -/
inductive Page where
  | program | tokenize | dialects | info | help
  deriving DecidableEq

/-- Why a command line leads to no invocation. -/
inductive UsageError where
  /-- A word or an option that has no place here. -/
  | unknownArgument
  /-- A missing value, or one that the option does not take. -/
  | invalidValue
  /-- A word in the place of a command that names none. -/
  | invalidSubcommand
  /-- An option given twice, or together with one that excludes it. -/
  | argumentConflict
  /-- A value for an option that takes none. -/
  | tooManyValues
  /-- Options, but no command. -/
  | missingSubcommand
  /-- Nothing at all. -/
  | nothingGiven
  /-- A request for help. -/
  | helpWanted (page : Page)
  /-- A request for the version. -/
  | versionWanted
  deriving DecidableEq

/-- Help that was asked for is no failure. -/
def UsageError.isRequest : UsageError → Bool
  | .helpWanted _ => true
  | .versionWanted => true
  | _ => false

/-- The help of a command. -/
def Page.helpLines : Page → List String
  | .program => [
      "RustLex - SQL lexical analyzer for database-routing middleware",
      "",
      "Usage: rustlex [OPTIONS] <COMMAND>",
      "",
      "Commands:",
      "  tokenize  Разбить SQL на токены",
      "  dialects  Показать поддерживаемые диалекты",
      "  info      Показать информацию о системе",
      "  help      Print this message or the help of the given subcommand(s)",
      "",
      "Options:",
      "  -c, --config <CONFIG>    Конфигурационный файл",
      "      --log-level <LEVEL>  Уровень детализации логирования",
      "  -h, --help               Print help",
      "  -V, --version            Print version"]
  | .tokenize => [
      "Разбить SQL на токены",
      "",
      "Usage: rustlex tokenize [OPTIONS] [SQL]",
      "",
      "Arguments:",
      "  [SQL]  SQL оператор",
      "",
      "Options:",
      "  -f, --file <FILE>        Файл с SQL оператором",
      "  -d, --dialect <DIALECT>  Диалект (mysql, oracle, postgresql, sqlserver, h2)",
      "      --format <FORMAT>    Формат вывода [default: text] [possible values: text, json]",
      "  -h, --help               Print help"]
  | .dialects => [
      "Показать поддерживаемые диалекты",
      "",
      "Usage: rustlex dialects",
      "",
      "Options:",
      "  -h, --help  Print help"]
  | .info => [
      "Показать информацию о системе",
      "",
      "Usage: rustlex info",
      "",
      "Options:",
      "  -h, --help  Print help"]
  | .help => [
      "Print this message or the help of the given subcommand(s)",
      "",
      "Usage: rustlex help [COMMAND]...",
      "",
      "Arguments:",
      "  [COMMAND]...  Print help for the subcommand(s)"]

end SqlLexis.CommandLine
